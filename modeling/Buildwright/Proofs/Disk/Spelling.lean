-- SUMMARY: Spellings of one path lead to the same entry, on every disk.
import Buildwright.Proofs.Disk.Walk
import Buildwright.Proofs.Path.Relative

/-!
# Spellings of a path

Paths with the same components differ in the pieces that do not count. A walk passes over these without
going anywhere, as long as none stands at the end, where it would ask for a directory. So spellings that
are not too long and end in a piece that counts lead to the same entry, or fail alike.
-/
namespace Buildwright

/-! ## Pieces and components -/

namespace Path

variable {p q : Path}

theorem texts_eq_filter (pieces : List String) :
    (pieces.filterMap Component.ofPiece?).map Component.text =
      pieces.filter fun piece => !idle piece := by
  have hcounts : ∀ piece ∈ pieces.filter fun piece => !idle piece, idle piece = false := by
    simp
  rw [← text_of_ofPiece? hcounts, List.filterMap_filter]
  congr 2
  funext piece
  cases hidle : idle piece with
  | false => simp
  | true => simp [ofPiece?_eq_none.2 hidle]

/-- Components that a walk makes steps for. -/
def Component.isStep : Component → Bool
  | parent | named _ => true
  | root | current => false

/-- The components that the pieces of a path stand for are those that are steps. -/
theorem filterMap_pieces (p : Path) :
    (Text.pieces '/' p.text).filterMap Component.ofPiece? =
      p.components.filter Component.isStep := by
  have hhead : ∀ head, (headComponents head).filter Component.isStep = [] := by
    intro head
    unfold headComponents
    split
    · rfl
    · split <;> rfl
  have hsteps : ∀ pieces : List String, ∀ c ∈ pieces.filterMap Component.ofPiece?,
      c.isStep = true := by
    intro pieces c hc
    obtain ⟨piece, -, hpiece⟩ := List.mem_filterMap.1 hc
    unfold Component.ofPiece? at hpiece
    split at hpiece
    · cases hpiece
    · split at hpiece <;> cases hpiece <;> rfl
  rw [components_eq, List.filter_append, hhead, List.nil_append, List.filter_eq_self.2 (hsteps _)]

/-- Spellings of a path have the same pieces that count. -/
theorem filter_pieces_congr (h : p.components = q.components) :
    (Text.pieces '/' p.text).filter (fun piece => !idle piece) =
      (Text.pieces '/' q.text).filter fun piece => !idle piece := by
  rw [← texts_eq_filter, ← texts_eq_filter, filterMap_pieces, filterMap_pieces, h]

theorem isAbsolute_iff_components : p.isAbsolute = true ↔ .root ∈ p.components := by
  constructor
  · intro h
    rw [components_of_isAbsolute h]
    exact List.mem_cons_self
  · intro h
    have hsteps : ∀ pieces : List String, Component.root ∉ pieces.filterMap Component.ofPiece? := by
      intro pieces hroot
      obtain ⟨piece, -, hpiece⟩ := List.mem_filterMap.1 hroot
      unfold Component.ofPiece? at hpiece
      split at hpiece
      · cases hpiece
      · split at hpiece <;> cases hpiece
    have hhead : p.anatomy.1 = "/" := by
      rw [components] at h
      rcases List.mem_append.1 h with h | h
      · unfold headComponents at h
        split at h
        · assumption
        · split at h <;> simp at h
      · exact absurd h (hsteps _)
    unfold anatomy at hhead
    split at hhead
    · next next' rest hpieces => exact isAbsolute_of_pieces hpieces
    all_goals simp at hhead

theorem isAbsolute_congr (h : p.components = q.components) : p.isAbsolute = q.isAbsolute := by
  rw [Bool.eq_iff_iff, isAbsolute_iff_components, isAbsolute_iff_components, h]

end Path

namespace Disk

/-! ## Steps that go nowhere -/

/-- Names that differ in `.` only, and not at their end. -/
inductive SameSteps : List String → List String → Prop where
  | nil : SameSteps [] []
  | name (name : String) {rest rest' : List String} (h : SameSteps rest rest') :
      SameSteps (name :: rest) (name :: rest')
  | here {rest rest' : List String} (h : SameSteps rest rest') (hne : rest ≠ []) :
      SameSteps ("." :: rest) rest'

variable {d : Disk} {follow : Bool} {here : Location} {names names' : List String} {p q : Path}

theorem SameSteps.eq_nil_iff (h : SameSteps names names') : names = [] ↔ names' = [] := by
  induction h with
  | nil => rfl
  | name => simp
  | here _ hne ih => simpa [hne] using ih

theorem SameSteps.append_left (h : SameSteps names names') (first : List String) :
    SameSteps (first ++ names) (first ++ names') := by
  induction first with
  | nil => exact h
  | cons name rest ih => exact .name name ih

/-- The names without `.` are the same steps, unless that is the last. -/
theorem sameSteps_filter (h : names.getLast? ≠ some ".") :
    SameSteps names (names.filter (· != ".")) := by
  induction names with
  | nil => exact .nil
  | cons name rest ih =>
    cases rest with
    | nil =>
      have hname : name ≠ "." := fun heq => h (by simp [heq])
      rw [List.filter_cons_of_pos (by simpa using hname)]
      exact .name name .nil
    | cons next others =>
      have hrest := ih (by simpa [List.getLast?_cons_cons] using h)
      by_cases hname : name = "."
      · rw [hname, List.filter_cons_of_neg (by simp)]
        exact .here hrest (by simp)
      · rw [List.filter_cons_of_pos (by simpa using hname)]
        exact .name name hrest

/-- Steps that go nowhere do not matter to a walk. The induction is on the links that it may take, and within
    that on the steps. -/
theorem walk_sameSteps {n : Nat} (h : SameSteps names names') :
    walk d follow n here names = walk d follow n here names' := by
  induction n using Nat.strongRecOn generalizing here names names' with
  | ind n ihn =>
    induction h generalizing here with
    | nil => rfl
    | name name hrest ih =>
      rw [walk_cons, walk_cons]
      cases d.stride here name with
      | on there => exact ih
      | last found e => simp only [hrest.eq_nil_iff]
      | tooLong => rfl
      | link there target =>
        simp only [hrest.eq_nil_iff]
        cases n with
        | zero => rfl
        | succ n => simp only [ihn n (Nat.lt_succ_self n) (hrest.append_left (steps target))]
    | here hrest hne ih =>
      rw [walk_cons, stride_dot]
      exact ih

/-! ## Direct paths -/

/-- A path that is not too long and ends in a piece that counts. -/
def Direct (p : Path) : Prop :=
  p.text.utf8ByteSize ≤ longestPath ∧
    ∃ last, (Text.pieces '/' p.text).getLast? = some last ∧ Path.idle last = false

theorem direct_of_pieces {front names : List String} (hlength : p.text.utf8ByteSize ≤ longestPath)
    (hpieces : Text.pieces '/' p.text = front ++ names) (hne : names ≠ []) (hnames : Path.Tidy names) :
    Direct p := by
  refine ⟨hlength, names.getLast hne, ?_, hnames _ (List.getLast_mem hne)⟩
  rw [hpieces, List.getLast?_append, List.getLast?_eq_some_getLast hne]
  rfl

theorem Direct.text_ne (h : Direct p) : p.text ≠ "" := by
  obtain ⟨-, last, hlast, hidle⟩ := h
  intro hempty
  rw [hempty] at hlast
  obtain rfl : "" = last := Option.some.inj hlast
  cases hidle

/-- The steps of a direct path, but for those that go nowhere, are its pieces that count. -/
theorem Direct.sameSteps (h : Direct p) :
    SameSteps (steps p) ((Text.pieces '/' p.text).filter fun piece => !Path.idle piece) := by
  obtain ⟨-, last, hlast, hidle⟩ := h
  obtain ⟨front, hfront⟩ := List.getLast?_eq_some_iff.1 hlast
  have hcounts : last ≠ "" ∧ last ≠ "." := by simpa [Path.idle] using hidle
  have hslash : Text.endsWith "/" p.text = false := by
    cases hends : Text.endsWith "/" p.text with
    | false => rfl
    | true =>
      obtain ⟨r, -, hpieces⟩ := Path.text_of_endsWith_slash hends
      rw [hfront] at hpieces
      exact absurd (List.singleton_inj.1 (List.append_inj_right' hpieces rfl)) hcounts.1
  have hnames : (names p).getLast? ≠ some "." := by
    rw [names, hfront, List.filter_append, List.filter_cons_of_pos (by simpa using hcounts.1),
      List.getLast?_append]
    simpa using hcounts.2
  have hsteps : steps p = names p := by
    rw [steps, hslash, Bool.and_false]
    rfl
  have hfilter : (names p).filter (· != ".") =
      (Text.pieces '/' p.text).filter fun piece => !Path.idle piece := by
    rw [names, List.filter_filter]
    congr 1
    funext piece
    by_cases hempty : piece = "" <;> by_cases hdot : piece = "." <;> simp [Path.idle, hempty, hdot]
  rw [hsteps, ← hfilter]
  exact sameSteps_filter hnames

/-- Direct spellings of one path lead to the same, whatever there is on the disk. -/
theorem resolve_congr (d : Disk) (hp : Direct p) (hq : Direct q) (h : p.components = q.components) :
    d.resolve p = d.resolve q := by
  have hlength : ∀ {p : Path}, Direct p → checkLength p = .ok () := fun h =>
    checkLength_eq_ok.2 ⟨h.text_ne, h.1⟩
  have hwalk : walk d true mostLinks (start d.workingDirectory p) (steps p) =
      walk d true mostLinks (start d.workingDirectory q) (steps q) := by
    rw [walk_sameSteps hp.sameSteps, walk_sameSteps hq.sameSteps, Path.filter_pieces_congr h, start,
      start, Path.isAbsolute_congr h]
  have hlocate : d.locate p true = d.locate q true := by
    rw [locate, locate, hlength hp, hlength hq]
    exact hwalk
  rw [resolve, resolve, hlocate]

end Disk
end Buildwright
