-- SUMMARY: What a path is relative to a path that its components begin with, as a text.
import Buildwright.Proofs.Path

/-!
# Relative paths

A path relative to another keeps the spelling it has behind the components of the other. Where it ends in
pieces that all count, and the other path reaches into these at the earliest, this is the texts of the
remaining components with slashes between them.
-/
namespace Buildwright.Path

/-! ## Pieces that count -/

/-- Pieces that all count. -/
def Tidy (pieces : List String) : Prop :=
  ∀ piece ∈ pieces, idle piece = false

variable {p q base base' : Path} {before pieces : List String} {n : Nat}

theorem length_components_of_tidy (h : Tidy pieces) :
    (pieces.filterMap Component.ofPiece?).length = pieces.length := by
  rw [← List.length_map Component.text, text_of_ofPiece? h]

/-- The first and the last of some pieces count. -/
structure Trimmed (pieces : List String) : Prop where
  first : ∀ piece, pieces.head? = some piece → idle piece = false
  last : ∀ piece, pieces.getLast? = some piece → idle piece = false

theorem Tidy.trimmed (h : Tidy pieces) : Trimmed pieces :=
  ⟨fun piece hpiece => h piece (List.mem_of_mem_head? hpiece),
    fun piece hpiece => h piece (List.mem_of_mem_getLast? hpiece)⟩

theorem Trimmed.upToLast_eq (h : Trimmed pieces) : upToLast pieces = pieces := by
  cases pieces using List.reverseRecOn with
  | nil => rfl
  | append_singleton pieces piece =>
    rw [upToLast_concat, h.last piece (by simp)]
    rfl

theorem behind_of_tidy (h : Tidy pieces) (n : Nat) : behind n pieces = pieces.drop n := by
  induction n generalizing pieces with
  | zero =>
    cases pieces with
    | nil => rfl
    | cons piece rest => simp [behind, h piece List.mem_cons_self]
  | succ n ih =>
    cases pieces with
    | nil => rfl
    | cons piece rest =>
      have hrest : Tidy rest := fun piece hpiece => h piece (List.mem_cons_of_mem _ hpiece)
      simp [behind, h piece List.mem_cons_self, ih hrest]

theorem behind_cons_of_idle {piece : String} (h : idle piece = true) (n : Nat) (pieces : List String) :
    behind n (piece :: pieces) = behind n pieces := by
  cases n <;> simp [behind, h]

theorem behind_cons_of_some {piece : String} {c : Component} (h : Component.ofPiece? piece = some c) (n : Nat)
    (pieces : List String) : behind (n + 1) (piece :: pieces) = behind n pieces := by
  have hidle : idle piece = false := by
    rw [← Bool.not_eq_true, ← ofPiece?_eq_none, h]
    simp
  simp [behind, hidle]

/-- Behind at least the pieces of `before` that count, `pieces` is cut by what the number exceeds
    these. -/
theorem behind_append (hpieces : Tidy pieces)
    (h : (before.filterMap Component.ofPiece?).length ≤ n) :
    behind n (before ++ pieces) =
      pieces.drop (n - (before.filterMap Component.ofPiece?).length) := by
  induction before generalizing n with
  | nil => exact behind_of_tidy hpieces n
  | cons piece rest ih =>
    cases hpiece : Component.ofPiece? piece with
    | none =>
      rw [List.filterMap_cons_none hpiece] at h ⊢
      rw [List.cons_append, behind_cons_of_idle (ofPiece?_eq_none.1 hpiece), ih h]
    | some c =>
      rw [List.filterMap_cons_some hpiece, List.length_cons] at h ⊢
      cases n with
      | zero => cases h
      | succ n =>
        rw [Nat.add_sub_add_right, List.cons_append, behind_cons_of_some hpiece,
          ih (Nat.le_of_succ_le_succ h)]

/-- Behind the pieces of `before` that count are those that begin with the next that counts. -/
theorem behind_append_eq (hpieces : Trimmed pieces) (before : List String) :
    behind (before.filterMap Component.ofPiece?).length (before ++ pieces) = pieces := by
  induction before with
  | nil =>
    cases pieces with
    | nil => rfl
    | cons first rest => simp [behind, hpieces.first first rfl]
  | cons piece rest ih =>
    cases hpiece : Component.ofPiece? piece with
    | none =>
      rw [List.filterMap_cons_none hpiece, List.cons_append, behind_cons_of_idle (ofPiece?_eq_none.1 hpiece)]
      exact ih
    | some c =>
      rw [List.filterMap_cons_some hpiece, List.length_cons, List.cons_append, behind_cons_of_some hpiece]
      exact ih

/-! ## Relative paths -/

/-- What is behind some pieces begins with a piece that counts. -/
theorem idle_head_behind {first : String} {rest : List String} (h : behind n pieces = first :: rest) :
    idle first = false := by
  induction n generalizing pieces with
  | zero =>
    have hhead := List.head?_dropWhile_not idle pieces
    rw [behind] at h
    rw [h] at hhead
    simpa using hhead
  | succ n ih =>
    rw [behind] at h
    split at h
    · cases h
    · exact ih h

theorem behind_suffix (n : Nat) (pieces : List String) : behind n pieces <:+ pieces := by
  induction n generalizing pieces with
  | zero => exact List.dropWhile_suffix idle
  | succ n ih =>
    have hdropped := List.dropWhile_suffix (l := pieces) idle
    rw [behind]
    split
    · exact List.nil_suffix
    · next rest heq =>
      rw [heq] at hdropped
      exact (ih rest).trans ((List.suffix_cons _ rest).trans hdropped)

theorem startsWith_iff : p.startsWith base = true ↔ base.components <+: p.components :=
  List.isPrefixOf_iff_prefix

/-- There is something that a path is relative to another exactly if the components of the other begin its
    own. -/
theorem exists_relativeTo?_iff : (∃ q, p.relativeTo? base = some q) ↔ base.components <+: p.components := by
  rw [← startsWith_iff, relativeTo?]
  split
  · next hbase =>
    refine ⟨fun _ => hbase, fun _ => ?_⟩
    cases base.components.length with
    | zero => exact ⟨_, rfl⟩
    | succ n => exact ⟨_, rfl⟩
  · next hbase =>
    refine ⟨?_, fun h => absurd h hbase⟩
    rintro ⟨q, hq⟩
    cases hq

/-- What a path is relative to another depends on the components of the other only. -/
theorem relativeTo?_congr (h : base.components = base'.components) :
    p.relativeTo? base = p.relativeTo? base' := by
  unfold relativeTo? startsWith
  rw [h]

theorem head_of_anatomy (p : Path) : p.anatomy.1 = "" ∨ (headComponents p.anatomy.1).length = 1 := by
  unfold anatomy
  split <;> simp [headComponents]

theorem headComponents_empty : headComponents "" = [] := by
  decide

/-- The first components of a path are that of its head, if it has one, and the first of its body. -/
theorem length_head_add_dropped (p : Path) (n : Nat) :
    (headComponents p.anatomy.1).length + (if p.anatomy.1 = "" then n + 1 else n) = n + 1 := by
  split
  · next hempty => simp [hempty, headComponents_empty]
  · next hsome => rw [(head_of_anatomy p).resolve_left hsome, Nat.add_comm]

/-- A path ends in `pieces`, behind `before`. If `base` begins it and reaches up to `pieces` at least, then
    what it is relative to `base` are the texts of its remaining components. -/
theorem relativeTo?_of_pieces (hp : Text.pieces '/' p.text = before ++ pieces)
    (hbefore : before ≠ []) (hpieces : Tidy pieces) (hne : pieces ≠ [])
    (hbase : p.startsWith base = true) (hcount : base.components ≠ [])
    (hlength : p.components.length ≤ base.components.length + pieces.length) :
    p.relativeTo? base = some ⟨Text.joined "/"
      ((p.components.drop base.components.length).map Component.text)⟩ := by
  obtain ⟨head, body, hanatomy⟩ := exists_anatomy hbefore
  obtain ⟨hparts, -⟩ := hanatomy p pieces hne hp
  have hcomponents : p.components = headComponents head ++
      (body.filterMap Component.ofPiece? ++ pieces.filterMap Component.ofPiece?) := by
    rw [components, hparts, List.filterMap_append]
  obtain ⟨n, hn⟩ : ∃ n, base.components.length = n + 1 :=
    Nat.exists_eq_succ_of_ne_zero (by simpa using hcount)
  have hdropped := length_head_add_dropped p n
  simp only [hparts] at hdropped
  have hlong := congrArg List.length hcomponents
  rw [List.length_append, List.length_append, length_components_of_tidy hpieces] at hlong
  have hbehind : behind (if head = "" then n + 1 else n) (body ++ pieces) =
      pieces.drop (n + 1 + pieces.length - p.components.length) := by
    rw [behind_append hpieces (by omega)]
    congr 1
    omega
  have hremain : p.components.drop (n + 1) = (pieces.filterMap Component.ofPiece?).drop
      (n + 1 + pieces.length - p.components.length) := by
    have hcut : n + 1 = (headComponents head ++ body.filterMap Component.ofPiece?).length +
        (n + 1 + pieces.length - p.components.length) := by
      rw [List.length_append]
      omega
    conv_lhs => rw [hcomponents, ← List.append_assoc, hcut]
    exact List.drop_length_add_append _
  have htidy : Tidy (pieces.drop (n + 1 + pieces.length - p.components.length)) :=
    fun piece hpiece => hpieces piece (List.mem_of_mem_drop hpiece)
  rw [relativeTo?, if_pos hbase, hparts]
  simp only [hn, hbehind, htidy.trimmed.upToLast_eq, hremain, List.map_drop, text_of_ofPiece? hpieces,
    assemble, String.empty_append]

/-- Behind the slash that begins it, every piece of a canonical path counts. -/
theorem Canonical.exists_pieces (h : p.Canonical) :
    ∃ next rest, Text.pieces '/' p.text = "" :: next :: rest ∧ Tidy (next :: rest) := by
  obtain ⟨habsolute, hcounts⟩ := h
  obtain ⟨next, rest, hpieces⟩ := pieces_of_isAbsolute habsolute
  rw [hpieces, List.tail_cons] at hcounts
  exact ⟨next, rest, hpieces, hcounts⟩

/-- What a canonical path is relative to a path that begins it are the texts of the remaining
    components. -/
theorem Canonical.relativeTo?_eq (h : p.Canonical) (hbase : p.startsWith base = true)
    (hcount : base.components ≠ []) :
    p.relativeTo? base = some ⟨Text.joined "/"
      ((p.components.drop base.components.length).map Component.text)⟩ := by
  obtain ⟨next, rest, hpieces, htidy⟩ := h.exists_pieces
  have hlength : p.components.length = (next :: rest).length + 1 := by
    rw [components_of_isAbsolute h.1, hpieces, List.tail_cons, List.length_cons,
      length_components_of_tidy htidy]
  have hpos : 0 < base.components.length := List.length_pos_iff.2 hcount
  have hfront : Text.pieces '/' p.text = [""] ++ next :: rest := hpieces
  exact relativeTo?_of_pieces hfront (by simp) htidy (by simp) hbase hcount (by omega)

/-- A canonical path relative to one without components is itself. -/
theorem Canonical.relativeTo?_empty (h : p.Canonical) (hcount : base.components = []) :
    p.relativeTo? base = some p := by
  obtain ⟨next, rest, hpieces, htidy⟩ := h.exists_pieces
  obtain ⟨head, body, hanatomy⟩ := exists_anatomy (List.cons_ne_nil "" [])
  obtain ⟨hparts, hassemble⟩ := hanatomy p (next :: rest) (by simp) hpieces
  have hkept : upToLast (body ++ next :: rest) = body ++ next :: rest := by
    have hrest := htidy.trimmed.upToLast_eq
    rw [upToLast_append (by simp [hrest]), hrest]
  rw [relativeTo?, startsWith, hcount, if_pos List.isPrefixOf_nil_left, hparts]
  simp only [List.length_nil, hkept, hassemble]

/-! ## Paths that go on from another -/

/-- The head of a path shows in its first piece. -/
theorem head_eq (p : Path) :
    p.anatomy.1 = if (Text.pieces '/' p.text).head? = some "." then "."
      else if p.isAbsolute then "/" else "" := by
  unfold anatomy
  split
  · next next' rest hpieces => rw [hpieces, if_neg (by simp), if_pos (isAbsolute_of_pieces hpieces)]
  · next hpieces => simp [hpieces]
  · next rest _ hpieces => simp [hpieces]
  · next hroot hsingle hcurrent =>
    rw [if_neg, if_neg]
    · intro habsolute
      obtain ⟨next', rest, hpieces⟩ := pieces_of_isAbsolute habsolute
      exact hroot next' rest hpieces
    · intro hfirst
      obtain ⟨rest, hpieces⟩ := List.head?_eq_some_iff.1 hfirst
      exact hcurrent rest hpieces

/-- The pieces of a path give its components behind the head. -/
theorem components_eq (p : Path) :
    p.components =
      headComponents p.anatomy.1 ++ (Text.pieces '/' p.text).filterMap Component.ofPiece? := by
  rw [components]
  congr 1
  unfold anatomy
  split
  all_goals simp_all [Component.ofPiece?]

/-- The names of a path are neither empty nor hold a slash. -/
theorem of_mem_names {name : String} (h : name ∈ p.names) : name ≠ "" ∧ '/' ∉ name.toList := by
  obtain ⟨c, hc, hname⟩ := List.mem_filterMap.1 h
  rw [components_eq, List.mem_append] at hc
  rcases hc with hc | hc
  · unfold headComponents at hc
    split at hc
    · rw [List.mem_singleton.1 hc] at hname
      cases hname
    · split at hc
      · rw [List.mem_singleton.1 hc] at hname
        cases hname
      · cases hc
  · obtain ⟨piece, hpiece, hcomponent⟩ := List.mem_filterMap.1 hc
    rcases of_ofPiece?_eq_some hcomponent with rfl | ⟨rfl, hne⟩
    · cases hname
    · cases hname
      exact ⟨hne, Text.not_mem_of_mem_pieces hpiece⟩

theorem isAbsolute_iff_head? (h : p.text ≠ "") :
    p.isAbsolute = true ↔ (Text.pieces '/' p.text).head? = some "" :=
  (isAbsolute_iff h).trans List.head?_eq_some_iff.symm

theorem trimmed_upToLast_behind : Trimmed (upToLast (behind n pieces)) where
  first piece hpiece := by
    obtain ⟨rest, hkept⟩ := List.head?_eq_some_iff.1 hpiece
    obtain ⟨others, hbehind⟩ := upToLast_begins (behind n pieces)
    rw [hkept] at hbehind
    exact idle_head_behind hbehind.symm
  last piece hpiece := by
    obtain ⟨front, hkept⟩ := List.getLast?_eq_some_iff.1 hpiece
    exact idle_of_upToLast_eq hkept

theorem filterMap_dropWhile_idle (pieces : List String) :
    (pieces.dropWhile idle).filterMap Component.ofPiece? = pieces.filterMap Component.ofPiece? := by
  induction pieces with
  | nil => rfl
  | cons piece rest ih =>
    cases hidle : idle piece with
    | true => rw [List.dropWhile_cons_of_pos hidle, ih, List.filterMap_cons_none (ofPiece?_eq_none.2 hidle)]
    | false => rw [List.dropWhile_cons_of_neg (by simp [hidle])]

/-- Behind a number of pieces that count are all components but as many. -/
theorem filterMap_behind (n : Nat) (pieces : List String) :
    (behind n pieces).filterMap Component.ofPiece? = (pieces.filterMap Component.ofPiece?).drop n := by
  induction n generalizing pieces with
  | zero => exact filterMap_dropWhile_idle pieces
  | succ n ih =>
    rw [behind, ← filterMap_dropWhile_idle pieces]
    cases hdropped : pieces.dropWhile idle with
    | nil => rfl
    | cons piece rest =>
      have hcounts : idle piece = false := by
        have hhead := List.head?_dropWhile_not idle pieces
        simpa [hdropped] using hhead
      obtain ⟨c, hc⟩ : ∃ c, Component.ofPiece? piece = some c := by
        rw [← Option.ne_none_iff_exists', Ne, ofPiece?_eq_none, hcounts]
        decide
      rw [List.filterMap_cons_some hc, List.drop_succ_cons]
      exact ih rest

theorem slash_not_mem_anatomy {piece : String} (h : piece ∈ p.anatomy.2) : '/' ∉ piece.toList := by
  have hpieces : piece ∈ Text.pieces '/' p.text ∨ piece = "" := by
    rcases anatomy_cases p with ⟨body, -, hp, ha⟩ | ⟨-, ha⟩ | ⟨rest, -, hp, ha⟩ | ha
    all_goals rw [ha] at h
    · exact .inl (by simp [hp, h])
    · cases h
    · exact (List.mem_cons.1 h).symm.imp_left fun hrest => by simp [hp, hrest]
    · exact .inl h
  rcases hpieces with hpieces | rfl
  · exact Text.not_mem_of_mem_pieces hpieces
  · decide

/-- What a path is relative to another is spelled by pieces of the path: they begin and end with pieces that
    count, and stand for the components behind those of the other. -/
theorem exists_pieces_of_relativeTo? (hcount : base.components ≠ []) (h : p.relativeTo? base = some q) :
    ∃ pieces, q = ⟨Text.joined "/" pieces⟩ ∧ Trimmed pieces ∧ (∀ piece ∈ pieces, '/' ∉ piece.toList) ∧
      p.components = base.components ++ pieces.filterMap Component.ofPiece? := by
  obtain ⟨n, hn⟩ : ∃ n, base.components.length = n + 1 :=
    Nat.exists_eq_succ_of_ne_zero (List.length_pos_iff.2 hcount).ne'
  unfold relativeTo? at h
  split at h
  · next hbase =>
    simp only [hn] at h
    generalize hdropped : (if p.anatomy.1 = "" then n + 1 else n) = dropped at h
    have hremain : p.components.drop (n + 1) =
        (p.anatomy.2.filterMap Component.ofPiece?).drop dropped := by
      have hcut : n + 1 = (headComponents p.anatomy.1).length + dropped := by
        rw [← hdropped, length_head_add_dropped]
      rw [components, hcut]
      exact List.drop_length_add_append _
    refine ⟨upToLast (behind dropped p.anatomy.2), ?_, trimmed_upToLast_behind, ?_, ?_⟩
    · rw [← Option.some.inj h, assemble, String.empty_append]
    · intro piece hpiece
      exact slash_not_mem_anatomy
        ((behind_suffix dropped _).subset ((upToLast_begins _).subset hpiece))
    · obtain ⟨rest, hrest⟩ := startsWith_iff.1 hbase
      rw [filterMap_upToLast, filterMap_behind, ← hremain, ← hrest, ← hn, List.drop_left]
  · cases h

/-- What a path is relative to another is no absolute path. -/
theorem isAbsolute_of_relativeTo? (hcount : base.components ≠ []) (h : p.relativeTo? base = some q) :
    q.isAbsolute = false := by
  obtain ⟨pieces, rfl, htrimmed, hslash, -⟩ := exists_pieces_of_relativeTo? hcount h
  cases pieces with
  | nil => rfl
  | cons first rest =>
    have hpieces : Text.pieces '/' (Path.mk (Text.joined "/" (first :: rest))).text = first :: rest :=
      Text.pieces_joined hslash (by simp)
    exact isAbsolute_eq_false hpieces (idle_eq_false.1 (htrimmed.first first rfl)).1

/-- The components of a relative path are texts without slashes. -/
theorem text_of_mem_components (h : p.isAbsolute = false) {c : Component} (hc : c ∈ p.components) :
    c.text ≠ "" ∧ '/' ∉ c.text.toList := by
  rw [components_eq, List.mem_append] at hc
  rcases hc with hc | hc
  · rw [head_eq, h] at hc
    split at hc
    · rw [show headComponents "." = [.current] by decide, List.mem_singleton] at hc
      rw [hc]
      decide
    · cases hc
  · obtain ⟨piece, hpiece, hc⟩ := List.mem_filterMap.1 hc
    unfold Component.ofPiece? at hc
    split at hc
    · cases hc
    · next hidle =>
      split at hc
      · cases hc
        decide
      · cases hc
        exact ⟨fun hempty => hidle (.inl hempty), Text.not_mem_of_mem_pieces hpiece⟩

/-- A path that is not empty has components. -/
theorem components_ne_nil (h : p.text ≠ "") : p.components ≠ [] := by
  intro hnil
  rw [components_eq, List.append_eq_nil_iff, head_eq] at hnil
  obtain ⟨hhead, hbody⟩ := hnil
  cases hpieces : Text.pieces '/' p.text with
  | nil => exact Text.pieces_ne_nil '/' p.text hpieces
  | cons first rest =>
    rw [hpieces] at hhead hbody
    have hidle : idle first = true := by
      apply ofPiece?_eq_none.1
      by_contra hsome
      obtain ⟨c, hc⟩ := Option.ne_none_iff_exists'.1 hsome
      rw [List.filterMap_cons_some hc] at hbody
      cases hbody
    have hfirst : first = "" ∨ first = "." := by simpa [idle] using hidle
    rcases hfirst with rfl | rfl
    · have habsolute : p.isAbsolute = true := (isAbsolute_iff_head? h).2 (by rw [hpieces]; rfl)
      simp [habsolute, headComponents] at hhead
    · simp [headComponents] at hhead

section Front

variable {root : Path} (hroot : root.text ≠ "")
  (hp : Text.pieces '/' p.text = root.front ++ pieces) (hpieces : Tidy pieces) (hne : pieces ≠ [])

include hroot hp hne in
/-- The components of a path that goes on from another are those of the other and those of its own
    pieces. -/
theorem components_of_front :
    p.components = root.components ++ pieces.filterMap Component.ofPiece? := by
  have htext : p.text ≠ "" := by
    intro hempty
    rw [hempty, Text.pieces_empty] at hp
    have hlength := congrArg List.length hp
    have hfront := List.length_pos_iff.2 root.front_ne_nil
    have hpos := List.length_pos_iff.2 hne
    rw [List.length_append, List.length_singleton] at hlength
    omega
  have hfirst : (Text.pieces '/' p.text).head? = (Text.pieces '/' root.text).head? := by
    cases hfront : root.front with
    | nil => exact absurd hfront root.front_ne_nil
    | cons first rest => rcases root.pieces_eq_front with heq | heq <;> simp [hp, heq, hfront]
  have habsolute : p.isAbsolute = root.isAbsolute := by
    rw [Bool.eq_iff_iff, isAbsolute_iff_head? htext, isAbsolute_iff_head? hroot, hfirst]
  have hbody : (Text.pieces '/' root.text).filterMap Component.ofPiece? =
      root.front.filterMap Component.ofPiece? := by
    rcases root.pieces_eq_front with heq | heq <;> simp [heq, Component.ofPiece?]
  rw [components_eq, components_eq, head_eq, head_eq, hfirst, habsolute, hp, List.filterMap_append,
    hbody, List.append_assoc]

include hroot hp hpieces hne in
/-- What a path that goes on from another is relative to a path that begins it, and is no shorter than the
    other, are the texts of the remaining components. -/
theorem relativeTo?_of_front (hbase : p.startsWith base = true)
    (hlength : root.components.length ≤ base.components.length) :
    p.relativeTo? base = some ⟨Text.joined "/"
      ((p.components.drop base.components.length).map Component.text)⟩ := by
  have hlong := congrArg List.length (components_of_front hroot hp hne)
  rw [List.length_append, length_components_of_tidy hpieces] at hlong
  have hcount : base.components ≠ [] := by
    intro hnil
    rw [hnil, List.length_nil, Nat.le_zero, List.length_eq_zero_iff] at hlength
    exact components_ne_nil hroot hlength
  exact relativeTo?_of_pieces hp root.front_ne_nil hpieces hne hbase hcount (by omega)

end Front

section Trimmed

variable (h : Trimmed (Text.pieces '/' q.text))

include h

/-- A path that begins with a piece that counts has none for its head. -/
theorem anatomy_of_trimmed : q.anatomy = ("", Text.pieces '/' q.text) := by
  obtain ⟨first, rest, hpieces⟩ := List.exists_cons_of_ne_nil (Text.pieces_ne_nil '/' q.text)
  have hfirst := idle_eq_false.1 (h.first first (by simp [hpieces]))
  rw [anatomy, hpieces]
  split <;> simp_all

theorem isAbsolute_of_trimmed : q.isAbsolute = false := by
  obtain ⟨first, rest, hpieces⟩ := List.exists_cons_of_ne_nil (Text.pieces_ne_nil '/' q.text)
  exact isAbsolute_eq_false hpieces (idle_eq_false.1 (h.first first (by simp [hpieces]))).1

theorem components_of_trimmed :
    q.components = (Text.pieces '/' q.text).filterMap Component.ofPiece? := by
  rw [components, anatomy_of_trimmed h, headComponents_empty, List.nil_append]

/-- What a path joined to another is relative to the other is the path again, if it begins and ends with
    pieces that count. -/
theorem relativeTo?_join_of_trimmed (root : Path) : (root.join q).relativeTo? root = some q := by
  by_cases hroot : root.text = ""
  · rw [join_of_text_eq hroot, relativeTo?, startsWith, components_of_text_eq hroot,
      if_pos List.isPrefixOf_nil_left, anatomy_of_trimmed h]
    simp only [List.length_nil, h.upToLast_eq, assemble, String.empty_append]
    exact congrArg some (mk_joined rfl)
  · have hpieces := pieces_join hroot (isAbsolute_of_trimmed h)
    have hne := Text.pieces_ne_nil '/' q.text
    have hcomponents := components_of_front hroot hpieces hne
    obtain ⟨head, body, hanatomy⟩ := exists_anatomy root.front_ne_nil
    have hparts := (hanatomy (root.join q) _ hne hpieces).1
    have hfront : root.components = headComponents head ++ body.filterMap Component.ofPiece? := by
      have hboth := hcomponents
      rw [components, hparts, List.filterMap_append, ← List.append_assoc] at hboth
      exact (List.append_cancel_right hboth).symm
    have hbase : (root.join q).startsWith root = true := by
      rw [startsWith_iff, hcomponents]
      exact List.prefix_append _ _
    obtain ⟨n, hn⟩ : ∃ n, root.components.length = n + 1 :=
      Nat.exists_eq_succ_of_ne_zero (List.length_pos_iff.2 (components_ne_nil hroot)).ne'
    have hdropped : (if head = "" then n + 1 else n) = (body.filterMap Component.ofPiece?).length := by
      have hall := length_head_add_dropped (root.join q) n
      simp only [hparts] at hall
      rw [hfront, List.length_append] at hn
      omega
    rw [relativeTo?, if_pos hbase, hparts]
    simp only [hn, hdropped, behind_append_eq h, h.upToLast_eq, assemble, String.empty_append]
    exact congrArg some (mk_joined rfl)

end Trimmed

/-- What a path is relative to another begins and ends with pieces that count, if it is not empty. -/
theorem trimmed_of_relativeTo? (hcount : base.components ≠ []) (h : p.relativeTo? base = some q)
    (hne : q.text ≠ "") : Trimmed (Text.pieces '/' q.text) := by
  obtain ⟨pieces, rfl, htrimmed, hslash, -⟩ := exists_pieces_of_relativeTo? hcount h
  have hnil : pieces ≠ [] := by
    rintro rfl
    exact hne rfl
  have hpieces : Text.pieces '/' (Path.mk (Text.joined "/" pieces)).text = pieces :=
    Text.pieces_joined hslash hnil
  rwa [hpieces]

/-- The components of a path behind those of another are those of what it is relative to the other. -/
theorem components_of_relativeTo? (hcount : base.components ≠ []) (h : p.relativeTo? base = some q) :
    p.components = base.components ++ q.components := by
  obtain ⟨pieces, rfl, htrimmed, hslash, hcomponents⟩ := exists_pieces_of_relativeTo? hcount h
  by_cases hnil : pieces = []
  · rw [hcomponents, hnil]
    rfl
  · have hpieces : Text.pieces '/' (Path.mk (Text.joined "/" pieces)).text = pieces :=
      Text.pieces_joined hslash hnil
    have hspelled : Trimmed (Text.pieces '/' (Path.mk (Text.joined "/" pieces)).text) := by rwa [hpieces]
    rw [hcomponents, components_of_trimmed hspelled, hpieces]

/-- The texts of the components of some pieces are the pieces that count. -/
theorem map_text_filterMap (pieces : List String) :
    (pieces.filterMap Component.ofPiece?).map Component.text = pieces.filter (!idle ·) := by
  induction pieces with
  | nil => rfl
  | cons piece rest ih =>
    cases hidle : idle piece with
    | true =>
      rw [List.filterMap_cons_none (ofPiece?_eq_none.2 hidle), ih, List.filter_cons_of_neg (by simp [hidle])]
    | false =>
      have hpiece : ([piece].filterMap Component.ofPiece?).map Component.text = [piece] :=
        text_of_ofPiece? (by simp [hidle])
      rw [List.filter_cons_of_pos (by simp [hidle]), ← ih]
      cases hc : Component.ofPiece? piece with
      | none => simp [hc] at hpiece
      | some c =>
        rw [List.filterMap_cons_some hc, List.map_cons]
        simp only [List.filterMap_cons_some hc, List.filterMap_nil, List.map_cons, List.map_nil,
          List.cons.injEq, and_true] at hpiece
        rw [hpiece]

/-- A path whose pieces all count is relative. -/
theorem isAbsolute_of_tidy (h : Tidy (Text.pieces '/' p.text)) : p.isAbsolute = false :=
  isAbsolute_of_trimmed h.trimmed

/-- A path whose pieces all count is what the path joined to another is relative to the other, however the
    other is spelled. -/
theorem relativeTo?_join (root : Path) (h : Tidy (Text.pieces '/' q.text)) :
    (root.join q).relativeTo? root = some q :=
  relativeTo?_join_of_trimmed h.trimmed root

/-- A path whose pieces all count is spelled by its components. -/
theorem slashed_of_tidy (h : Tidy (Text.pieces '/' p.text)) : p.slashed = p.text := by
  rw [slashed, components_of_trimmed h.trimmed, text_of_ofPiece? h]
  exact Text.joined_pieces '/' p.text

/-! ## File names -/

theorem splitName_eq_some {name extension : String} (h : (splitName name).2 = some extension) :
    ∃ stem, stem ≠ "" ∧ name = stem ++ ("." ++ extension) ∧ '.' ∉ extension.toList := by
  unfold splitName at h
  split at h
  · next c cs right hcut =>
    cases h
    obtain ⟨hname, hfree⟩ := Text.eq_of_cutLast?_eq_some hcut
    refine ⟨String.ofList (c :: cs), by simp, ?_, by simpa using hfree⟩
    apply String.toList_inj.1
    simp [hname]
  · cases h

/-- A name with a dot in it, in front of which and behind which something stands, is split at its last dot. -/
theorem splitName_dot {stem extension : String} (hstem : stem ≠ "") (hdot : '.' ∉ extension.toList) :
    splitName (stem ++ "." ++ extension) = (stem, some extension) := by
  have hcut : Text.cutLast? '.' (stem ++ "." ++ extension).toList =
      some (stem.toList, extension.toList) := by
    rw [← Text.cutLast?_append stem.toList hdot]
    simp
  cases hs : stem.toList with
  | nil => exact absurd (by simpa using hs) hstem
  | cons c cs =>
    rw [hs] at hcut
    rw [splitName, hcut]
    simp [← hs]

/-- A piece that is longer than `..` is a name. -/
theorem ofPiece?_of_length {piece : String} (h : 2 < piece.length) :
    Component.ofPiece? piece = some (.named piece) := by
  have hne : ∀ text : String, text.length ≤ 2 → piece ≠ text := by
    rintro text htext rfl
    omega
  rw [Component.ofPiece?, if_neg (not_or.2 ⟨hne "" (by decide), hne "." (by decide)⟩),
    if_neg (hne ".." (by decide))]

/-- The extension of a path that ends in a name with one is exchanged behind the stem. -/
theorem withExtension_of_pieces {p : Path} {before : List String} {stem old new : String}
    (hp : Text.pieces '/' p.text = before ++ [stem ++ "." ++ old]) (hbefore : before ≠ [])
    (hstem : stem ≠ "") (hold : old ≠ "") (hdot : '.' ∉ old.toList) (hnew : new ≠ "")
    (hslash : '/' ∉ new.toList) :
    p.withExtension new = ⟨Text.joined "/" (before ++ [stem ++ "." ++ new])⟩ := by
  obtain ⟨head, body, hanatomy⟩ := exists_anatomy hbefore
  have hfree : ∀ part ∈ before ++ [stem ++ "." ++ new], '/' ∉ part.toList := by
    intro part hpart
    rcases List.mem_append.1 hpart with hpart | hpart
    · exact Text.not_mem_of_mem_pieces (hp ▸ List.mem_append_left _ hpart)
    · have hlast : '/' ∉ (stem ++ "." ++ old).toList :=
        Text.not_mem_of_mem_pieces (hp ▸ List.mem_append_right _ List.mem_cons_self)
      rw [List.mem_singleton.1 hpart]
      simp_all
  have hname : Component.ofPiece? (stem ++ "." ++ old) = some (.named (stem ++ "." ++ old)) := by
    have hstem' : 0 < stem.length := by
      rw [← String.length_toList, List.length_pos_iff]
      simpa using hstem
    have hold' : 0 < old.length := by
      rw [← String.length_toList, List.length_pos_iff]
      simpa using hold
    have hone : ".".length = 1 := by decide
    apply ofPiece?_of_length
    rw [String.length_append, String.length_append]
    omega
  have hparts := (hanatomy p _ (by simp) hp).1
  have hlast : p.fileName? = some (stem ++ "." ++ old) := by
    rw [fileName?, components, hparts, List.filterMap_append, List.filterMap_cons_some hname,
      ← List.append_assoc, List.filterMap_nil, List.getLast?_concat]
    rfl
  have hcounts : idle (stem ++ "." ++ old) = false := by
    rw [← Bool.not_eq_true, ← ofPiece?_eq_none, hname]
    simp
  have hkept : upToLast (body ++ [stem ++ "." ++ old]) = body ++ [stem ++ "." ++ old] := by
    rw [upToLast_concat, hcounts]
    rfl
  have hnewPath : Text.pieces '/' (Text.joined "/" (before ++ [stem ++ "." ++ new])) =
      before ++ [stem ++ "." ++ new] := Text.pieces_joined hfree (by simp)
  rw [← (hanatomy ⟨Text.joined "/" (before ++ [stem ++ "." ++ new])⟩ _ (by simp) hnewPath).2,
    withExtension, fileStem?, hlast, Option.map_some, splitName_dot hstem hdot, hparts]
  simp only [hkept, if_neg hnew, List.dropLast_concat]

theorem dottedExtension?_congr (h : p.components = q.components) :
    p.dottedExtension? = q.dottedExtension? := by
  rw [Path.dottedExtension?, Path.dottedExtension?, Path.extension?, Path.extension?, Path.fileName?,
    Path.fileName?, h]

/-- A file name ends in its extension, behind a stem. -/
theorem fileName?_of_dottedExtension? {e : String} (h : p.dottedExtension? = some e) :
    ∃ stem, stem ≠ "" ∧ p.fileName? = some (stem ++ e) := by
  obtain ⟨extension, hextension, rfl⟩ := Option.map_eq_some_iff.1 h
  obtain ⟨name, hname, hsplit⟩ := Option.bind_eq_some_iff.1 hextension
  obtain ⟨stem, hstem, rfl, -⟩ := splitName_eq_some hsplit
  exact ⟨stem, hstem, hname⟩

/-- The last of the components is the file name. -/
theorem exists_components_concat {name : String} (h : p.fileName? = some name) :
    ∃ front, p.components = front ++ [.named name] := by
  obtain ⟨c, hlast, hc⟩ := Option.bind_eq_some_iff.1 h
  obtain rfl : c = .named name := by
    cases c with
    | named other => rw [Option.some.inj hc]
    | _ => cases hc
  obtain ⟨front, hfront⟩ := List.getLast?_eq_some_iff.1 hlast
  exact ⟨front, hfront⟩

/-- An extension with its dot is not empty, and there is no slash in it. -/
theorem of_dottedExtension?_eq_some {e : String} (h : p.dottedExtension? = some e) :
    e ≠ "" ∧ '/' ∉ e.toList := by
  obtain ⟨stem, -, hname⟩ := fileName?_of_dottedExtension? h
  obtain ⟨front, hfront⟩ := exists_components_concat hname
  have hmem : stem ++ e ∈ p.names := by
    rw [names, hfront]
    simp [Component.name?]
  obtain ⟨extension, -, rfl⟩ := Option.map_eq_some_iff.1 h
  refine ⟨by simp, fun hslash => (of_mem_names hmem).2 ?_⟩
  rw [String.toList_append]
  exact List.mem_append_right _ hslash

/-- A canonical path relative to one that it lies below ends in its extension, behind a stem. -/
theorem Canonical.exists_stem (h : p.Canonical) (hbase : p.startsWith base = true)
    (hne : base.components ≠ p.components) {e : String} (he : p.dottedExtension? = some e) :
    ∃ stem, stem ≠ "" ∧ p.relativeTo? base = some ⟨stem ++ e⟩ := by
  obtain ⟨stem, hstem, hname⟩ := fileName?_of_dottedExtension? he
  have hends : ∀ front, ∃ stem', stem' ≠ "" ∧
      Text.joined "/" (front ++ [stem ++ e]) = stem' ++ e := by
    intro front
    have hlast : Text.joined "/" [stem ++ e] = stem ++ e := by simp [Text.joined]
    by_cases hnil : front = []
    · exact ⟨stem, hstem, by rw [hnil, List.nil_append, hlast]⟩
    · rw [Text.joined_append _ hnil (by simp), hlast, ← String.append_assoc]
      exact ⟨_, by simp [hstem], rfl⟩
  obtain ⟨front, hfront⟩ := exists_components_concat hname
  by_cases hcount : base.components = []
  · have hfirst := components_of_isAbsolute h.1
    cases front with
    | nil =>
      rw [hfront] at hfirst
      cases hfirst
    | cons first others =>
      have htext := h.text_eq
      rw [hfront, List.cons_append, List.tail_cons, List.map_append, ← List.cons_append] at htext
      obtain ⟨stem', hstem', heq⟩ := hends ("" :: others.map Component.text)
      refine ⟨stem', hstem', ?_⟩
      rw [h.relativeTo?_empty hcount, ← heq]
      exact congrArg (fun text => some (Path.mk text)) htext
  · have hbegins : base.components <+: p.components := startsWith_iff.1 hbase
    have hlt : base.components.length < p.components.length :=
      Nat.lt_of_le_of_ne hbegins.length_le fun heq => hne (hbegins.eq_of_length heq)
    rw [hfront, List.length_append, List.length_singleton] at hlt
    obtain ⟨stem', hstem', heq⟩ :=
      hends ((front.drop base.components.length).map Component.text)
    refine ⟨stem', hstem', ?_⟩
    rw [h.relativeTo?_eq hbase hcount, hfront,
      List.drop_append_of_le_length (Nat.le_of_lt_succ hlt), List.map_append, ← heq]
    rfl

end Buildwright.Path
