-- SUMMARY: The filter of a run, when what its configuration says, what its environment says, or both are malformed.
import Buildwright.Config.LogFilter
import Buildwright.Proofs.Entries
import Buildwright.Proofs.Text

/-!
# Filters of runs

A run gets its filter from two texts, the level of its configuration and what its environment adds. Either
can be malformed. `Salvages` says that this costs the malformed text and nothing else: the filter is that of
the directives of the texts that are well formed, those of the environment behind those of the level, so that
what the environment says about a target replaces what the level says about it.
-/
namespace Buildwright.LogFilter

variable {s said level : String} {env : Option String} {ds es : List Directive} {t t' : LogTarget}

/-! ## Texts of filters -/

/-- The pieces of a filter's text. Empty ones do not count. -/
def pieces (s : String) : List String :=
  (Text.pieces ',' s).filter (· != "")

/-- Every piece of a text is a directive. -/
def IsValid (s : String) : Prop :=
  ∀ piece ∈ pieces s, ∃ d, Directive.ofPiece? piece = some d

/-- The filter of the directives among some pieces. -/
def ofPieces (ps : List String) : LogFilter :=
  ofDirectives (ps.filterMap Directive.ofPiece?)

theorem directives?_of_isValid (h : IsValid s) :
    directives? s = some ((pieces s).filterMap Directive.ofPiece?) := by
  have hmap : ∀ ps : List String, (∀ piece ∈ ps, ∃ d, Directive.ofPiece? piece = some d) →
      ps.mapM Directive.ofPiece? = some (ps.filterMap Directive.ofPiece?) := by
    intro ps hps
    induction ps with
    | nil => rfl
    | cons piece rest ih =>
      obtain ⟨⟨d, hd⟩, hrest⟩ := List.forall_mem_cons.1 hps
      simp [hd, ih hrest]
  exact hmap (pieces s) h

theorem directives?_of_not_isValid (h : ¬ IsValid s) : directives? s = none := by
  have hmap : ∀ ps : List String, (∃ piece ∈ ps, Directive.ofPiece? piece = none) →
      ps.mapM Directive.ofPiece? = none := by
    intro ps hps
    induction ps with
    | nil => simp at hps
    | cons piece rest ih =>
      obtain ⟨bad, hmem, hnone⟩ := hps
      rcases List.mem_cons.1 hmem with rfl | hmem
      · simp [hnone]
      · simp [ih ⟨bad, hmem, hnone⟩]
  refine hmap (pieces s) ?_
  simpa [IsValid, ← Option.ne_none_iff_exists'] using h

/-- A text is a filter exactly if all its pieces are directives, and then its pieces alone count. -/
theorem ofText?_of_isValid (h : IsValid s) : ofText? s = some (ofPieces (pieces s)) := by
  rw [ofText?, directives?_of_isValid h]
  rfl

theorem ofText?_of_not_isValid (h : ¬ IsValid s) : ofText? s = none := by
  rw [ofText?, directives?_of_not_isValid h]
  rfl

/-- A comma between two texts leaves the pieces of both. -/
theorem pieces_append (s s' : String) : pieces (s ++ "," ++ s') = pieces s ++ pieces s' := by
  rw [pieces, show "," = String.ofList [','] from rfl, Text.pieces_append, List.filter_append]
  rfl

theorem isValid_append_iff {s s' : String} : IsValid (s ++ "," ++ s') ↔ IsValid s ∧ IsValid s' := by
  rw [IsValid, pieces_append, List.forall_mem_append]
  rfl

/-! ## Levels of targets -/

/-- Targets that compare equal say equally much. -/
theorem isAboutSpans_congr (h : compare t t' = .eq) : t.isAboutSpans = t'.isAboutSpans := by
  have horder : LogTarget.order t' t = .eq := h
  have hparts : t'.parts = t.parts := by
    rw [LogTarget.order, compareLex_eq_eq, compareLex_eq_eq] at horder
    exact Nat.compare_eq_eq.1 horder.2.1
  have habout : ∀ t : LogTarget, t.isAboutSpans = (t.parts != 0) := by
    intro t
    cases hspan : t.span <;> cases hfield : t.field <;>
      simp [LogTarget.isAboutSpans, LogTarget.parts, hspan, hfield]
  rw [habout, habout, hparts]

/-- One more directive decides about its target and no other. -/
theorem find?_levels_concat (ds : List Directive) (d : Directive) (t : LogTarget) :
    (levels (ds ++ [d])).find? t = if compare t d.1 = .eq then some d.2 else (levels ds).find? t := by
  rw [levels, List.foldl_append, List.foldl_cons, List.foldl_nil, SortedMap.find?_insert,
    SortedMap.find?_erase]
  split <;> rfl

/-- Of directives about one target, a later one counts. -/
theorem find?_levels_append (ds es : List Directive) (t : LogTarget) :
    (levels (ds ++ es)).find? t = ((levels es).find? t).or ((levels ds).find? t) := by
  induction es using List.reverseRecOn with
  | nil => simp [levels, SortedMap.find?_empty]
  | append_singleton es e ih =>
    rw [← List.append_assoc, find?_levels_concat, find?_levels_concat, ih]
    split <;> simp

theorem find?_levels_eq_none (h : ∀ d ∈ ds, compare t d.1 ≠ .eq) : (levels ds).find? t = none := by
  induction ds using List.reverseRecOn with
  | nil => rfl
  | append_singleton ds d ih =>
    obtain ⟨hds, hd⟩ := List.forall_mem_append.1 h
    rw [find?_levels_concat, if_neg (hd d List.mem_cons_self), ih hds]

/-- The directives that are about no spans. -/
def aboutTargets (ds : List Directive) : List Directive :=
  ds.filter (!·.1.isAboutSpans)

/-- The directives that are about spans. -/
def aboutSpans (ds : List Directive) : List Directive :=
  ds.filter (·.1.isAboutSpans)

theorem spans_ofDirectives (ds : List Directive) :
    (ofDirectives ds).spans = levels (aboutSpans ds) := by
  cases ds <;> rfl

theorem fixed_ofDirectives (h : ds ≠ []) :
    (ofDirectives ds).fixed = levels (aboutTargets ds ++ (aboutSpans ds).filter (·.1.isFixed)) := by
  cases ds with
  | nil => exact absurd rfl h
  | cons d rest => rfl

/-- Only directives of one kind can be about a target: those about spans if it is about spans itself. -/
theorem find?_fixed (h : ds ≠ []) (t : LogTarget) : (ofDirectives ds).fixed.find? t =
    if t.isAboutSpans then (levels ((aboutSpans ds).filter (·.1.isFixed))).find? t
    else (levels (aboutTargets ds)).find? t := by
  rw [fixed_ofDirectives h, find?_levels_append]
  split
  · next hspans =>
    have hnone : (levels (aboutTargets ds)).find? t = none := by
      refine find?_levels_eq_none fun d hd heq => ?_
      have hd := (List.mem_filter.1 hd).2
      rw [← isAboutSpans_congr heq, hspans] at hd
      cases hd
    rw [hnone, Option.or_none]
  · next htargets =>
    have hnone : (levels ((aboutSpans ds).filter (·.1.isFixed))).find? t = none := by
      refine find?_levels_eq_none fun d hd heq => htargets ?_
      rw [isAboutSpans_congr heq]
      exact (List.mem_filter.1 (List.mem_filter.1 hd).1).2
    rw [hnone, Option.none_or]

/-- What the second of two filters says about a target replaces what the first says about it. -/
structure Overrides (first second both : LogFilter) : Prop where
  fixed : ∀ t, both.fixed.find? t = (second.fixed.find? t).or (first.fixed.find? t)
  spans : ∀ t, both.spans.find? t = (second.spans.find? t).or (first.spans.find? t)

theorem overrides_append (hds : ds ≠ []) (hes : es ≠ []) :
    Overrides (ofDirectives ds) (ofDirectives es) (ofDirectives (ds ++ es)) where
  fixed t := by
    have hboth : ds ++ es ≠ [] := fun hnil => hds (List.append_eq_nil_iff.1 hnil).1
    rw [find?_fixed hboth, find?_fixed hds, find?_fixed hes]
    simp only [aboutTargets, aboutSpans, List.filter_append, find?_levels_append]
    split <;> rfl
  spans t := by
    simp only [spans_ofDirectives, aboutSpans, List.filter_append, find?_levels_append]

/-! ## Levels of configurations -/

theorem normalized_of_trim_eq_empty (h : Text.trim level = "") : normalized level = "info" := by
  simp only [normalized, h, ↓reduceIte]

theorem normalized_of_trim_ne_empty (h : Text.trim level ≠ "") :
    normalized level = (levelNames.lookup (Text.trim level).toLower).getD (Text.trim level) := by
  simp only [normalized, h, ↓reduceIte]

/-- What a level stands for stands for itself. -/
theorem normalized_normalized (level : String) : normalized (normalized level) = normalized level := by
  have hnames : ∀ e ∈ levelNames, normalized e.2 = e.2 := by decide +kernel
  by_cases hempty : Text.trim level = ""
  · rw [normalized_of_trim_eq_empty hempty]
    exact hnames ("info", "info") (by decide)
  · rw [normalized_of_trim_ne_empty hempty]
    cases hname : levelNames.lookup (Text.trim level).toLower with
    | some name =>
      obtain ⟨before, after, heq, -⟩ := List.lookup_eq_some_iff.1 hname
      exact hnames (_, name) (heq ▸ List.mem_append_right before List.mem_cons_self)
    | none =>
      have hne : Text.trim (Text.trim level) ≠ "" := by rwa [Text.trim_trim]
      rw [Option.getD_none, normalized_of_trim_ne_empty hne, Text.trim_trim, hname, Option.getD_none]

/-! ## The filter of a run -/

/-- What the environment says about the filter. If it is not set or blank, it says nothing. -/
def Says (env : Option String) (said : String) : Prop :=
  env.map Text.trim = some said ∧ said ≠ ""

/-- The filter of a run comes from the texts that are filters, the level of the configuration and what the
    environment says behind it, and reports `info` if neither is one. -/
structure Salvages (level : String) (env : Option String) : Prop where
  both : ∀ {said}, Says env said → IsValid (normalized level) → IsValid said →
    effective level env = ofPieces (pieces (normalized level) ++ pieces said)
  overrides : ∀ {said}, Says env said → IsValid (normalized level) → IsValid said →
    pieces (normalized level) ≠ [] → pieces said ≠ [] →
    Overrides (ofPieces (pieces (normalized level))) (ofPieces (pieces said)) (effective level env)
  environmentAlone : ∀ {said}, Says env said → ¬ IsValid (normalized level) → IsValid said →
    effective level env = ofPieces (pieces said)
  levelAlone : ∀ {said}, Says env said → IsValid (normalized level) → ¬ IsValid said →
    effective level env = ofPieces (pieces (normalized level))
  neither : ∀ {said}, Says env said → ¬ IsValid (normalized level) → ¬ IsValid said →
    effective level env = only .info
  silent : (∀ said, ¬ Says env said) → IsValid (normalized level) →
    effective level env = ofPieces (pieces (normalized level))
  silentMalformed : (∀ said, ¬ Says env said) → ¬ IsValid (normalized level) →
    effective level env = only .info
  settled : normalized (normalized level) = normalized level
  renormalized : effective (normalized level) env = effective level env

theorem ofLevel_of_isValid (h : IsValid (normalized level)) :
    ofLevel level = ofPieces (pieces (normalized level)) := by
  rw [ofLevel, ofText?_of_isValid h, Option.getD_some]

theorem ofLevel_of_not_isValid (h : ¬ IsValid (normalized level)) : ofLevel level = only .info := by
  rw [ofLevel, ofText?_of_not_isValid h, Option.getD_none]

theorem effective_of_silent (h : ∀ said, ¬ Says env said) : effective level env = ofLevel level := by
  have hnone : (env.map Text.trim).filter (· != "") = none := by
    cases henv : env.map Text.trim with
    | none => rfl
    | some said =>
      have hempty : said = "" := Classical.not_not.1 fun hne => h said ⟨henv, hne⟩
      simp [Option.filter, hempty]
  rw [effective, hnone]

theorem effective_of_said (h : Says env said) : effective level env =
    ((ofText? (normalized level ++ "," ++ said)).or (ofText? said)).getD (ofLevel level) := by
  obtain ⟨henv, hne⟩ := h
  have hsome : (env.map Text.trim).filter (· != "") = some said := by
    rw [henv]
    simp [Option.filter, hne]
  rw [effective, hsome]

/-- Pieces that are directives give directives. -/
theorem filterMap_pieces_ne_nil (h : IsValid s) (hne : pieces s ≠ []) :
    (pieces s).filterMap Directive.ofPiece? ≠ [] := by
  obtain ⟨piece, hpiece⟩ := List.exists_mem_of_ne_nil _ hne
  obtain ⟨d, hd⟩ := h piece hpiece
  exact List.ne_nil_of_mem (List.mem_filterMap.2 ⟨piece, hpiece, hd⟩)

theorem effective_of_both (h : Says env said) (hlevel : IsValid (normalized level)) (hsaid : IsValid said) :
    effective level env = ofPieces (pieces (normalized level) ++ pieces said) := by
  rw [effective_of_said h, ofText?_of_isValid (isValid_append_iff.2 ⟨hlevel, hsaid⟩), pieces_append,
    Option.some_or, Option.getD_some]

/-- If one of the texts is malformed, so are both together. -/
theorem effective_of_malformed (h : Says env said) (hbad : ¬ (IsValid (normalized level) ∧ IsValid said)) :
    effective level env = (ofText? said).getD (ofLevel level) := by
  rw [effective_of_said h, ofText?_of_not_isValid fun hboth => hbad (isValid_append_iff.1 hboth),
    Option.none_or]

theorem effective_of_malformed_said (h : Says env said) (hsaid : ¬ IsValid said) :
    effective level env = ofLevel level := by
  rw [effective_of_malformed h fun hboth => hsaid hboth.2, ofText?_of_not_isValid hsaid, Option.getD_none]

/-- A level counts as what it stands for. -/
theorem effective_normalized : effective (normalized level) env = effective level env := by
  have hlevel : ofLevel (normalized level) = ofLevel level := by
    rw [ofLevel, ofLevel, normalized_normalized]
  rw [effective, effective, normalized_normalized, hlevel]

/-- A level that is no level is passed over with its text. -/
example : (effective " WARNING " (some "kiln=loud")).text = "warn" ∧
    (effective "kiln=loud" (some " kiln=debug ")).text = "kiln=debug" ∧
    (effective "kiln=info,error" (some "kiln=debug,")).text = "kiln=debug,error" := by
  decide +kernel

end Buildwright.LogFilter
