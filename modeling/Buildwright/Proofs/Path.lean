-- SUMMARY: Canonical paths, for which to have the same components is to be the same.
import Mathlib.Data.List.Induction
import Buildwright.Path
import Buildwright.Proofs.Text

/-!
# Canonical paths

Paths are compared by their components, and different spellings of one path compare equal. A canonical
path is the spelling of an absolute path that has nothing in it but its components, so that among
canonical paths only equal ones compare equal.
-/
namespace Buildwright.Path

/-! ## Comparing paths -/

instance : Std.LawfulEqOrd Component where
  eq_of_compare {a b} h := by
    obtain ⟨hrank, htext⟩ := compareLex_eq_eq.1 h
    have hrank : a.rank = b.rank := Std.LawfulEqOrd.eq_of_compare hrank
    have htext : a.text = b.text := Std.LawfulEqOrd.eq_of_compare htext
    cases a with
    | named name =>
      cases b with
      | named name' => exact congrArg Component.named htext
      | _ => cases hrank
    | _ => cases b <;> first | rfl | cases hrank

theorem Component.named_injective : Function.Injective Component.named :=
  fun _ _ h => Component.named.inj h

theorem compare_eq_iff {p q : Path} : compare p q = .eq ↔ p.components = q.components := by
  show List.compareLex compare p.components q.components = .eq ↔ _
  exact Std.LawfulEqCmp.compare_eq_iff_eq

theorem same_iff {p q : Path} : p.same q = true ↔ compare q p = .eq := by
  rw [same, decide_eq_true_iff, compare_eq_iff, eq_comm]

/-! ## Canonical paths -/

/-- An absolute path without idle pieces behind its root: it does not end in a slash, and none of its
    pieces is empty or `.`. -/
def Canonical (p : Path) : Prop :=
  p.isAbsolute = true ∧ ∀ piece ∈ (Text.pieces '/' p.text).tail, idle piece = false

instance (p : Path) : Decidable p.Canonical :=
  inferInstanceAs (Decidable (_ ∧ _))

/-- An absolute path has an empty piece in front of its root. -/
theorem pieces_of_isAbsolute {p : Path} (h : p.isAbsolute = true) :
    ∃ next rest, Text.pieces '/' p.text = "" :: next :: rest := by
  obtain ⟨r, hr⟩ := Text.beginsWith_eq_true.1 h
  have hpieces : Text.pieces '/' p.text = "" :: Text.pieces '/' r := by
    rw [hr]
    exact Text.pieces_append '/' "" r
  cases hrest : Text.pieces '/' r with
  | nil => exact absurd hrest (Text.pieces_ne_nil '/' r)
  | cons next rest => exact ⟨next, rest, by rw [hpieces, hrest]⟩

/-- A path whose first piece is not empty is relative. -/
theorem isAbsolute_eq_false {p : Path} {first : String} {rest : List String}
    (hp : Text.pieces '/' p.text = first :: rest) (hfirst : first ≠ "") : p.isAbsolute = false := by
  cases habsolute : p.isAbsolute with
  | false => rfl
  | true =>
    obtain ⟨next, others, hpieces⟩ := pieces_of_isAbsolute habsolute
    rw [hp] at hpieces
    exact absurd (List.cons.inj hpieces).1 hfirst

theorem isAbsolute_append {p : Path} (h : p.text ≠ "") (s : String) :
    (Path.mk (p.text ++ s)).isAbsolute = p.isAbsolute := by
  cases hp : p.text.toList with
  | nil => exact absurd (by simpa using hp) h
  | cons c cs => simp [isAbsolute, Text.beginsWith, hp, List.isPrefixOf]

/-- A path that is not empty is absolute exactly if an empty piece begins it. -/
theorem isAbsolute_iff {p : Path} (h : p.text ≠ "") :
    p.isAbsolute = true ↔ ∃ rest, Text.pieces '/' p.text = "" :: rest := by
  constructor
  · intro hp
    obtain ⟨next, rest, hpieces⟩ := pieces_of_isAbsolute hp
    exact ⟨next :: rest, hpieces⟩
  · rintro ⟨rest, hpieces⟩
    have hjoined := Text.joined_pieces '/' p.text
    rw [hpieces] at hjoined
    have hrest : rest ≠ [] := by
      rintro rfl
      exact h hjoined.symm
    rw [Text.joined_cons _ _ hrest, String.empty_append] at hjoined
    exact Text.beginsWith_eq_true.2 ⟨_, hjoined.symm⟩

/-- A path that begins with an empty piece, but not with that alone, is absolute. -/
theorem isAbsolute_of_pieces {p : Path} {next : String} {rest : List String}
    (hp : Text.pieces '/' p.text = "" :: next :: rest) : p.isAbsolute = true := by
  have hne : p.text ≠ "" := by
    intro hempty
    rw [hempty, Text.pieces_empty] at hp
    cases hp
  exact (isAbsolute_iff hne).2 ⟨_, hp⟩

theorem components_of_isAbsolute {p : Path} (h : p.isAbsolute = true) :
    p.components =
      .root :: (Text.pieces '/' p.text).tail.filterMap Component.ofPiece? := by
  obtain ⟨next, rest, hpieces⟩ := pieces_of_isAbsolute h
  simp [components, anatomy, hpieces, headComponents]

/-- A piece that counts is the text of its component. -/
theorem text_of_ofPiece? {pieces : List String} (h : ∀ piece ∈ pieces, idle piece = false) :
    (pieces.filterMap Component.ofPiece?).map Component.text = pieces := by
  induction pieces with
  | nil => rfl
  | cons piece rest ih =>
    have hcounts : ¬ (piece = "" ∨ piece = ".") := by
      simpa [idle] using h piece List.mem_cons_self
    have hrest := ih fun q hq => h q (List.mem_cons_of_mem piece hq)
    have hpiece : ∃ c, Component.ofPiece? piece = some c ∧ c.text = piece := by
      rw [Component.ofPiece?, if_neg hcounts]
      split
      · next hparent => exact ⟨.parent, rfl, hparent.symm⟩
      · exact ⟨.named piece, rfl, rfl⟩
    obtain ⟨c, hc, htext⟩ := hpiece
    rw [List.filterMap_cons_some hc, List.map_cons, hrest, htext]

/-- A canonical path is spelled by its components. -/
theorem Canonical.text_eq {p : Path} (h : p.Canonical) :
    p.text = Text.joined "/" ("" :: p.components.tail.map Component.text) := by
  obtain ⟨next, rest, hpieces⟩ := pieces_of_isAbsolute h.1
  rw [components_of_isAbsolute h.1, List.tail_cons, text_of_ofPiece? h.2]
  have hjoined := Text.joined_pieces '/' p.text
  rw [hpieces] at hjoined
  rw [hpieces]
  exact hjoined.symm

/-- Canonical paths that compare equal are equal. -/
theorem Canonical.eq_of_compare {p q : Path} (hp : p.Canonical) (hq : q.Canonical)
    (h : compare p q = .eq) : p = q := by
  have htext : p.text = q.text := by
    rw [hp.text_eq, hq.text_eq, compare_eq_iff.1 h]
  cases p
  cases q
  exact congrArg Path.mk htext

/-! ## Joining -/

theorem text_of_endsWith_slash {p : Path} (h : Text.endsWith "/" p.text = true) :
    ∃ r, p.text = r ++ "/" ∧ Text.pieces '/' p.text = Text.pieces '/' r ++ [""] := by
  obtain ⟨r, hr⟩ := Text.endsWith_eq_true.1 h
  refine ⟨r, hr, ?_⟩
  have hpieces := Text.pieces_append '/' r ""
  rw [String.append_empty] at hpieces
  rw [hr]
  exact hpieces

theorem components_of_text_eq {p : Path} (h : p.text = "") : p.components = [] := by
  simp [components, anatomy, h, Text.pieces_empty, headComponents, Component.ofPiece?]

/-- Joined to the empty path, a path stays as it is. -/
theorem join_of_text_eq {p : Path} (h : p.text = "") (q : Path) : p.join q = q := by
  simp [join, h]

theorem join_of_isAbsolute (p : Path) {q : Path} (h : q.isAbsolute = true) : p.join q = q := by
  rw [join, if_pos h]

/-- The pieces of a path that come in front of those of a path joined to it: all but the empty one behind
    a slash at its end. -/
def front (p : Path) : List String :=
  if Text.endsWith "/" p.text then (Text.pieces '/' p.text).dropLast else Text.pieces '/' p.text

theorem pieces_eq_front (p : Path) :
    Text.pieces '/' p.text = p.front ∨ Text.pieces '/' p.text = p.front ++ [""] := by
  rw [front]
  split
  · next h =>
    obtain ⟨r, -, hpieces⟩ := text_of_endsWith_slash h
    exact .inr (by rw [hpieces, List.dropLast_concat])
  · exact .inl rfl

theorem front_ne_nil (p : Path) : p.front ≠ [] := by
  rw [front]
  split
  · next h =>
    obtain ⟨r, -, hpieces⟩ := text_of_endsWith_slash h
    rw [hpieces, List.dropLast_concat]
    exact Text.pieces_ne_nil '/' r
  · exact Text.pieces_ne_nil '/' p.text

theorem pieces_join {p q : Path} (hp : p.text ≠ "") (hq : q.isAbsolute = false) :
    Text.pieces '/' (p.join q).text = p.front ++ Text.pieces '/' q.text := by
  rw [join, if_neg (by simp [hq]), front]
  cases h : Text.endsWith "/" p.text with
  | true =>
    obtain ⟨r, hr, hpieces⟩ := text_of_endsWith_slash h
    rw [if_pos (.inr rfl), if_pos rfl, hpieces, List.dropLast_concat, hr]
    exact Text.pieces_append '/' r q.text
  | false =>
    rw [if_neg (by simp [hp]), if_neg (by simp)]
    exact Text.pieces_append '/' p.text q.text

/-- A path is its pieces with slashes between them. -/
theorem mk_joined {p : Path} {pieces : List String} (h : Text.pieces '/' p.text = pieces) :
    Path.mk (Text.joined "/" pieces) = p := by
  rw [← h]
  exact congrArg Path.mk (Text.joined_pieces '/' p.text)

/-- To go on along two relative paths in turn is to go on along one. -/
theorem join_join {root p q : Path} (hp : p.isAbsolute = false) (hne : p.text ≠ "")
    (hend : Text.endsWith "/" p.text = false) (hq : q.isAbsolute = false) :
    (root.join p).join q = root.join ⟨p.text ++ "/" ++ q.text⟩ := by
  have hpq : (Path.mk (p.text ++ "/" ++ q.text)).isAbsolute = false := by
    rw [String.append_assoc, isAbsolute_append hne, hp]
  have htext : ∃ before, root.join p = ⟨before ++ p.text⟩ ∧
      root.join ⟨p.text ++ "/" ++ q.text⟩ = ⟨before ++ (p.text ++ "/" ++ q.text)⟩ := by
    simp only [join, hp, hpq, Bool.false_eq_true, if_false]
    split
    · exact ⟨root.text, rfl, rfl⟩
    · exact ⟨root.text ++ "/", rfl, rfl⟩
  obtain ⟨before, hfirst, hboth⟩ := htext
  have hslash : Text.endsWith "/" (before ++ p.text) = false :=
    (Text.endsWith_append_of_ne (c := '/') before hne).trans hend
  rw [hfirst, hboth, join, if_neg (by simp [hq]), if_neg (by simp [hne, hslash])]
  simp [String.append_assoc]

/-! ## Leading on -/

/-- The path `p` leads on from `root` along names, the last of which ends it. There may be empty pieces
    between the names. -/
def LeadsOn (root : Path) (names : List String) (p : Path) : Prop :=
  (∀ name ∈ names, idle name = false ∧ name ≠ "..") ∧
    ∃ pieces last, Text.pieces '/' p.text = root.front ++ (pieces ++ [last]) ∧
      (pieces ++ [last]).filter (· != "") = names ∧ last ≠ ""

section LeadsOn

variable {root p q : Path} {names : List String}

/-- A relative path leads on from the path that it is joined to. -/
theorem leadsOn_join {pieces : List String} {last : String} (hroot : root.text ≠ "")
    (hrelative : q.isAbsolute = false) (hpieces : Text.pieces '/' q.text = pieces ++ [last])
    (hlast : last ≠ "")
    (hnames : ∀ name ∈ (pieces ++ [last]).filter (· != ""), idle name = false ∧ name ≠ "..") :
    LeadsOn root ((pieces ++ [last]).filter (· != "")) (root.join q) :=
  ⟨hnames, pieces, last, by rw [pieces_join hroot hrelative, hpieces], rfl, hlast⟩

theorem LeadsOn.text_ne (h : LeadsOn root names p) : p.text ≠ "" := by
  obtain ⟨-, pieces, last, hp, -, hlast⟩ := h
  intro hempty
  rw [hempty, ← List.append_assoc] at hp
  have hsingle : [""] = root.front ++ pieces ++ [last] := hp
  have hend := congrArg List.getLast? hsingle
  rw [List.getLast?_concat] at hend
  exact hlast (Option.some.inj hend).symm

theorem LeadsOn.isAbsolute_eq (h : LeadsOn root names p) (hroot : root.text ≠ "") :
    p.isAbsolute = root.isAbsolute := by
  rw [Bool.eq_iff_iff, isAbsolute_iff h.text_ne, isAbsolute_iff hroot]
  obtain ⟨-, pieces, last, hp, -, -⟩ := h
  rw [hp]
  cases hfront : root.front with
  | nil => exact absurd hfront root.front_ne_nil
  | cons first rest => rcases root.pieces_eq_front with heq | heq <;> simp [heq, hfront]

theorem LeadsOn.endsWith_eq_false (h : LeadsOn root names p) : Text.endsWith "/" p.text = false := by
  obtain ⟨-, pieces, last, hp, -, hlast⟩ := h
  cases hslash : Text.endsWith "/" p.text with
  | false => rfl
  | true =>
    obtain ⟨r, -, hr⟩ := text_of_endsWith_slash hslash
    rw [hp, ← List.append_assoc] at hr
    have hend := List.append_inj_right' hr rfl
    exact absurd (List.singleton_inj.1 hend) hlast

end LeadsOn

/-! ## Parents -/

/-- The pieces in front of others decide about the head of a path, and on the pieces in front of those
    in its body. -/
theorem exists_anatomy {base : List String} (hbase : base ≠ []) :
    ∃ head body, ∀ (p : Path) (pieces : List String), pieces ≠ [] →
      Text.pieces '/' p.text = base ++ pieces →
      p.anatomy = (head, body ++ pieces) ∧ assemble head (body ++ pieces) = p := by
  have htext : ∀ {p : Path} {pieces : List String}, Text.pieces '/' p.text = pieces →
      Text.joined "/" pieces = p.text := by
    rintro p pieces rfl
    exact Text.joined_pieces '/' p.text
  cases base with
  | nil => exact absurd rfl hbase
  | cons first rest =>
    by_cases hroot : first = ""
    · refine ⟨"/", rest, fun p pieces hne hp => ?_⟩
      have hjoined := htext hp
      rw [List.cons_append, hroot] at hp hjoined
      rw [Text.joined_cons _ _ (by simp [hne]), String.empty_append] at hjoined
      obtain ⟨next, others, hbody⟩ : ∃ next others, rest ++ pieces = next :: others :=
        List.exists_cons_of_ne_nil (by simp [hne])
      refine ⟨?_, congrArg Path.mk hjoined⟩
      simp [anatomy, hp, hbody]
    · by_cases hcurrent : first = "."
      · refine ⟨".", "" :: rest, fun p pieces hne hp => ?_⟩
        have hjoined := htext hp
        rw [List.cons_append, hcurrent] at hp hjoined
        rw [Text.joined_cons _ _ (by simp [hne])] at hjoined
        obtain ⟨next, others, hbody⟩ : ∃ next others, rest ++ pieces = next :: others :=
          List.exists_cons_of_ne_nil (by simp [hne])
        constructor
        · simp [anatomy, hp, hbody]
        · rw [assemble, List.cons_append, Text.joined_cons _ _ (by simp [hne]), String.empty_append,
            ← String.append_assoc]
          exact congrArg Path.mk hjoined
      · refine ⟨"", first :: rest, fun p pieces hne hp => ?_⟩
        constructor
        · rw [anatomy, hp, List.cons_append]
          split <;> simp_all
        · rw [assemble, htext hp, String.empty_append]

theorem upToLast_concat (pieces : List String) (piece : String) :
    upToLast (pieces ++ [piece]) = if idle piece then upToLast pieces else pieces ++ [piece] := by
  cases h : idle piece <;> simp [upToLast, h]

theorem upToLast_append {pieces pieces' : List String} (h : upToLast pieces' ≠ []) :
    upToLast (pieces ++ pieces') = pieces ++ upToLast pieces' := by
  have hne : pieces'.reverse.dropWhile idle ≠ [] := fun hnil => h (by rw [upToLast, hnil]; rfl)
  rw [upToLast, upToLast, List.reverse_append, List.dropWhile_append,
    if_neg (by simpa [List.isEmpty_iff] using hne), List.reverse_append, List.reverse_reverse]

/-- The parent of a path with a body that ends in a piece that counts. -/
theorem parent?_of_anatomy {p : Path} {head piece : String} {body : List String}
    (h : p.anatomy = (head, body ++ [piece])) (hpiece : idle piece = false) :
    p.parent? = some (assemble head (upToLast body)) := by
  have hkept : upToLast (body ++ [piece]) = body ++ [piece] := by
    rw [upToLast_concat, hpiece]
    rfl
  rw [parent?, h]
  simp only [hkept]
  split
  · next hnil => simp at hnil
  · rw [List.dropLast_concat]

theorem idle_eq_false {piece : String} : idle piece = false ↔ piece ≠ "" ∧ piece ≠ "." := by
  simp [idle]

/-- Empty pieces and pieces `.` stand for no component, and all others for one. -/
theorem ofPiece?_eq_none {piece : String} : Component.ofPiece? piece = none ↔ idle piece = true := by
  by_cases hidle : piece = "" ∨ piece = "."
  · simp [Component.ofPiece?, idle, hidle]
  · by_cases hparent : piece = ".." <;> simp_all [Component.ofPiece?, idle]

/-- A piece stands for the parent directory or for a name, which is not empty. -/
theorem of_ofPiece?_eq_some {piece : String} {c : Component} (h : Component.ofPiece? piece = some c) :
    c = .parent ∨ (c = .named piece ∧ piece ≠ "") := by
  unfold Component.ofPiece? at h
  split at h
  · cases h
  · next hcounts =>
    split at h
    · exact .inl (Option.some.inj h).symm
    · exact .inr ⟨(Option.some.inj h).symm, fun hempty => hcounts (.inl hempty)⟩

/-- The pieces behind the last that counts stand for no component. -/
theorem filterMap_upToLast (pieces : List String) :
    (upToLast pieces).filterMap Component.ofPiece? = pieces.filterMap Component.ofPiece? := by
  induction pieces using List.reverseRecOn with
  | nil => rfl
  | append_singleton pieces piece ih =>
    rw [upToLast_concat]
    split
    · next hidle =>
      rw [ih, List.filterMap_append, List.filterMap_cons_none (ofPiece?_eq_none.2 hidle)]
      simp
    · rfl

theorem upToLast_begins (pieces : List String) : upToLast pieces <+: pieces := by
  rw [upToLast, ← List.reverse_suffix, List.reverse_reverse]
  exact List.dropWhile_suffix idle

/-- The last of the pieces up to the last that counts does count. -/
theorem idle_of_upToLast_eq {pieces before : List String} {last : String}
    (h : upToLast pieces = before ++ [last]) : idle last = false := by
  have hreverse : pieces.reverse.dropWhile idle = last :: before.reverse := by
    rw [← List.reverse_reverse (pieces.reverse.dropWhile idle), ← upToLast, h]
    simp
  have hhead := List.head?_dropWhile_not idle pieces.reverse
  simpa [hreverse] using hhead

/-- The anatomy of a path shows in its pieces, apart from an empty piece that stands for a slash. -/
theorem anatomy_cases (p : Path) :
    (∃ body, body ≠ [] ∧ Text.pieces '/' p.text = "" :: body ∧ p.anatomy = ("/", body)) ∨
    (Text.pieces '/' p.text = ["."] ∧ p.anatomy = (".", [])) ∨
    (∃ rest, rest ≠ [] ∧ Text.pieces '/' p.text = "." :: rest ∧ p.anatomy = (".", "" :: rest)) ∨
    p.anatomy = ("", Text.pieces '/' p.text) := by
  generalize hanatomy : p.anatomy = parts
  unfold anatomy at hanatomy
  split at hanatomy
  · next next rest hpieces => exact .inl ⟨next :: rest, by simp, hpieces, hanatomy.symm⟩
  · next hpieces => exact .inr (.inl ⟨hpieces, hanatomy.symm⟩)
  · next rest hne hpieces =>
    refine .inr (.inr (.inl ⟨rest, ?_, hpieces, hanatomy.symm⟩))
    rintro rfl
    exact hne rfl
  · exact .inr (.inr (.inr hanatomy.symm))

/-- The head of a path and pieces that begin its body make a path with their components. -/
theorem components_assemble {p : Path} {head : String} {body kept : List String} (h : p.anatomy = (head, body))
    (hkept : kept <+: body) :
    (assemble head kept).components = headComponents head ++ kept.filterMap Component.ofPiece? := by
  have hpieces : ∀ parts, parts ≠ [] → parts <+: Text.pieces '/' p.text →
      Text.pieces '/' (Text.joined "/" parts) = parts := fun parts hne hparts =>
    Text.pieces_joined (fun part hpart => Text.not_mem_of_mem_pieces (hparts.subset hpart)) hne
  rcases p.anatomy_cases with
    ⟨rest, -, hp, hanatomy⟩ | ⟨-, hanatomy⟩ | ⟨rest, -, hp, hanatomy⟩ | hanatomy
  all_goals
    rw [hanatomy] at h
    cases h
    cases kept with
    | nil => decide
    | cons first kept => ?_
  · have htext : assemble "/" (first :: kept) = ⟨Text.joined "/" ("" :: first :: kept)⟩ := by
      rw [assemble, Text.joined_cons _ _ (List.cons_ne_nil first kept), String.empty_append]
    have hbegins : "" :: first :: kept <+: Text.pieces '/' p.text := by
      rw [hp]
      exact List.prefix_cons_iff.2 (.inr ⟨_, rfl, hkept⟩)
    have hq := hpieces _ (List.cons_ne_nil _ _) hbegins
    rw [htext]
    simp [components, anatomy, hq, headComponents]
  · simp at hkept
  · obtain ⟨rfl, hrest⟩ := List.cons_prefix_cons.1 hkept
    cases kept with
    | nil => decide
    | cons next kept =>
      have htext : assemble "." ("" :: next :: kept) = ⟨Text.joined "/" ("." :: next :: kept)⟩ := by
        rw [assemble, Text.joined_cons _ _ (List.cons_ne_nil next kept), String.empty_append,
          ← String.append_assoc, ← Text.joined_cons _ _ (List.cons_ne_nil next kept)]
      have hbegins : "." :: next :: kept <+: Text.pieces '/' p.text := by
        rw [hp]
        exact List.prefix_cons_iff.2 (.inr ⟨_, rfl, hrest⟩)
      have hq := hpieces _ (List.cons_ne_nil _ _) hbegins
      rw [htext]
      simp [components, anatomy, hq, headComponents, Component.ofPiece?]
  · have hq := hpieces _ (List.cons_ne_nil _ _) hkept
    have hhead : (assemble "" (first :: kept)).anatomy = ("", first :: kept) := by
      obtain ⟨tail, htail⟩ := hkept
      rw [anatomy, ← htail] at hanatomy
      rw [anatomy, assemble, String.empty_append, hq]
      cases kept with
      | nil => cases tail <;> split <;> simp_all
      | cons next kept => split <;> simp_all
    rw [components, hhead]

/-- The components of a path in front of those pieces that count for nothing at its end. -/
theorem components_upToLast {p : Path} {head : String} {body : List String} (h : p.anatomy = (head, body)) :
    p.components = headComponents head ++ (upToLast body).filterMap Component.ofPiece? := by
  rw [components, h, filterMap_upToLast]

/-- A path has the components of its parent, and one more. -/
theorem exists_components_of_parent? {p q : Path} (h : p.parent? = some q) :
    ∃ last, p.components = q.components ++ [last] := by
  obtain ⟨head, body, hanatomy⟩ : ∃ head body, p.anatomy = (head, body) := ⟨_, _, rfl⟩
  rw [components_upToLast hanatomy]
  cases hkept : upToLast body using List.reverseRecOn with
  | nil =>
    -- Nothing but the head is left, and the head `.` has the empty path for a parent.
    simp only [parent?, hanatomy, hkept] at h
    split at h
    · next hcurrent =>
      cases h
      refine ⟨.current, ?_⟩
      rw [hcurrent]
      decide
    · cases h
  | append_singleton before piece _ =>
    obtain ⟨c, hc⟩ : ∃ c, Component.ofPiece? piece = some c := by
      rw [← Option.ne_none_iff_exists', ne_eq, ofPiece?_eq_none, idle_of_upToLast_eq hkept]
      simp
    have hq : q = assemble head (upToLast before) := by
      simp only [parent?, hanatomy, hkept] at h
      split at h
      · next hnil => simp at hnil
      · rw [List.dropLast_concat] at h
        exact (Option.some.inj h).symm
    have hbegins : upToLast before <+: body :=
      (upToLast_begins before).trans ((List.prefix_append before [piece]).trans
        (hkept ▸ upToLast_begins body))
    refine ⟨c, ?_⟩
    rw [hq, components_assemble hanatomy hbegins, filterMap_upToLast, List.filterMap_append,
      List.filterMap_cons_some hc, List.append_assoc]
    rfl

/-- Only the empty path and the root have no parent. -/
theorem components_of_parent?_eq_none {p : Path} (h : p.parent? = none) :
    p.components = [] ∨ p.components = [.root] := by
  obtain ⟨head, body, hanatomy⟩ : ∃ head body, p.anatomy = (head, body) := ⟨_, _, rfl⟩
  rw [components_upToLast hanatomy]
  simp only [parent?, hanatomy] at h
  split at h
  · next hkept =>
    split at h
    · cases h
    · next hcurrent =>
      rw [hkept, headComponents, if_neg hcurrent]
      split
      · exact .inr rfl
      · exact .inl rfl
  · cases h

/-- A path whose last component is not the root has a parent, with all components but the last. -/
theorem exists_parent_of_components {p : Path} {front : List Component} {last : Component}
    (h : p.components = front ++ [last]) (hlast : last ≠ .root) :
    ∃ q, p.parent? = some q ∧ q.components = front := by
  cases hparent : p.parent? with
  | none =>
    rcases components_of_parent?_eq_none hparent with hnone | hroot
    · simp [hnone] at h
    · obtain ⟨-, hsame⟩ : front = [] ∧ last = .root := by
        simpa [List.append_eq_singleton_iff] using h.symm.trans hroot
      exact absurd hsame hlast
  | some q =>
    obtain ⟨last', hcomponents⟩ := exists_components_of_parent? hparent
    exact ⟨q, rfl, (List.append_inj' (hcomponents.symm.trans h) rfl).1⟩

/-- Pieces with names among them are, up to the last that counts, those up to the last name. -/
theorem exists_upToLast {pieces names : List String} (h : pieces.filter (· != "") = names)
    (hnames : ∀ name ∈ names, idle name = false) (hne : names ≠ []) :
    ∃ before last after, pieces = before ++ [last] ++ after ∧
      upToLast pieces = before ++ [last] ∧ (before ++ [last]).filter (· != "") = names ∧ last ≠ "" := by
  induction pieces using List.reverseRecOn with
  | nil => exact absurd h.symm hne
  | append_singleton pieces piece ih =>
    by_cases hpiece : piece = ""
    · have hpieces : pieces.filter (· != "") = names := by simpa [hpiece] using h
      obtain ⟨before, last, after, hbefore, hkept, hrest⟩ := ih hpieces
      refine ⟨before, last, after ++ [piece], ?_, ?_, hrest⟩
      · rw [hbefore, List.append_assoc _ after]
      · rw [upToLast_concat, hpiece]
        exact hkept
    · have hmem : piece ∈ names := by
        rw [← h]
        simp [hpiece]
      refine ⟨pieces, piece, [], (List.append_nil _).symm, ?_, h, hpiece⟩
      rw [upToLast_concat, hnames piece hmem]
      rfl

section LeadsOn

variable {root p : Path} {names : List String} {name : String}

/-- The parent of a path that leads on along several names leads on along all of them but the last. -/
theorem LeadsOn.exists_parent (h : LeadsOn root (names ++ [name]) p) (hne : names ≠ []) :
    ∃ q, p.parent? = some q ∧ LeadsOn root names q ∧ q.text.utf8ByteSize ≤ p.text.utf8ByteSize := by
  obtain ⟨hnames, pieces, last, hp, hfilter, hlast⟩ := h
  have hsplit : pieces.filter (· != "") = names ∧ last = name := by
    rw [List.filter_append, List.filter_cons_of_pos (by simpa using hlast)] at hfilter
    obtain ⟨hpieces, hname⟩ := List.append_inj' hfilter (by simp)
    exact ⟨hpieces, by simpa using hname⟩
  have hcounts : ∀ other ∈ names, idle other = false := fun other hother =>
    (hnames other (List.mem_append_left _ hother)).1
  obtain ⟨before, last', after, hbefore, hkept, hfilter', hlast'⟩ :=
    exists_upToLast hsplit.1 hcounts hne
  have hidle : idle last = false := (hnames last (by simp [hsplit.2])).1
  obtain ⟨head, body, hanatomy⟩ := exists_anatomy root.front_ne_nil
  have hpieces : Text.pieces '/' p.text = root.front ++ (before ++ [last']) ++ (after ++ [last]) := by
    rw [hp, hbefore]
    simp only [List.append_assoc]
  have hq : Text.pieces '/' (Text.joined "/" (root.front ++ (before ++ [last']))) =
      root.front ++ (before ++ [last']) := by
    refine Text.pieces_joined (fun piece hpiece => ?_) (by simp)
    apply Text.not_mem_of_mem_pieces (s := p.text)
    rw [hpieces]
    exact List.mem_append_left _ hpiece
  refine ⟨⟨Text.joined "/" (root.front ++ (before ++ [last']))⟩, ?_, ?_, ?_⟩
  · have hbody := (hanatomy p _ (by simp) hp).1
    rw [← List.append_assoc] at hbody
    rw [parent?_of_anatomy hbody hidle, upToLast_append (by simp [hkept]), hkept]
    exact congrArg some (hanatomy _ _ (by simp) hq).2
  · exact ⟨fun other hother => hnames other (List.mem_append_left _ hother), before, last', hq,
      hfilter', hlast'⟩
  · have htext := Text.joined_pieces '/' p.text
    rw [hpieces, Text.joined_append _ (by simp) (by simp)] at htext
    rw [← htext, String.utf8ByteSize_append, String.utf8ByteSize_append, Nat.add_assoc]
    exact Nat.le_add_right _ _

/-- Empty pieces stand for no component. -/
theorem filterMap_ofPiece?_filter (pieces : List String) :
    (pieces.filter (· != "")).filterMap Component.ofPiece? =
      pieces.filterMap Component.ofPiece? := by
  rw [List.filterMap_filter]
  congr 1
  funext piece
  by_cases h : piece = "" <;> simp [h, Component.ofPiece?]

/-- There are at least as many components as names that a path leads on along. -/
theorem LeadsOn.length_le (h : LeadsOn root names p) : names.length ≤ p.components.length := by
  obtain ⟨hnames, pieces, last, hp, hfilter, -⟩ := h
  obtain ⟨head, body, hanatomy⟩ := exists_anatomy root.front_ne_nil
  have htexts := text_of_ofPiece? fun name hname => (hnames name hname).1
  rw [← hfilter, filterMap_ofPiece?_filter, hfilter] at htexts
  have hlength := congrArg List.length htexts
  rw [List.length_map] at hlength
  rw [components, (hanatomy p _ (by simp) hp).1, List.length_append, List.filterMap_append,
    List.length_append, hlength]
  omega

end LeadsOn

end Buildwright.Path
