-- SUMMARY: Where paths lead depends on their components: walks without idle steps, and names behind a directory.
import Buildwright.Proofs.Disk.Lexical

/-!
# Components that are followed

The steps of a path are its components, but for the root and for each `.`, which goes nowhere. What a path
leads to can therefore be told from its components, as long as that is a directory: a path that begins
another leads to a directory on the way, and names behind a directory lead straight on where there are no
links.
-/
namespace Buildwright

namespace Path

variable {p q : Path} {name : String} {names : List String}

/-- The texts of the components for which a walk makes steps. -/
def strides (p : Path) : List String :=
  (p.components.filter Component.isStep).map Component.text

theorem strides_eq (p : Path) :
    p.strides = (Text.pieces '/' p.text).filter fun piece => !idle piece := by
  rw [strides, ← filterMap_pieces, texts_eq_filter]

/-- A component that is a name can be the name of an entry. -/
theorem plain_of_mem_components (h : Component.named name ∈ p.components) : Disk.Plain name := by
  have hmem : Component.named name ∈ p.components.filter Component.isStep :=
    List.mem_filter.2 ⟨h, rfl⟩
  rw [← filterMap_pieces] at hmem
  obtain ⟨piece, hpiece, hname⟩ := List.mem_filterMap.1 hmem
  have hslash := Text.not_mem_of_mem_pieces hpiece
  unfold Component.ofPiece? at hname
  split at hname
  · cases hname
  · next hidle =>
    split at hname
    · cases hname
    · next hparent =>
      cases hname
      rw [not_or] at hidle
      exact ⟨hidle.1, hidle.2, hparent, hslash⟩

theorem strides_append (h : q.components = p.components ++ names.map .named) :
    q.strides = p.strides ++ names := by
  have htexts : (names.map Component.named).map Component.text = names := by
    simp [Function.comp_def, Component.text]
  rw [strides, h, List.filter_append, filter_isStep_named, List.map_append, htexts, strides]

theorem isAbsolute_append_named (h : q.components = p.components ++ names.map .named) :
    q.isAbsolute = p.isAbsolute := by
  rw [Bool.eq_iff_iff, isAbsolute_iff_components, isAbsolute_iff_components, h]
  simp

/-- A path that begins another, and is not empty, starts where the other does. -/
theorem isAbsolute_of_prefix (h : p.components <+: q.components) (hne : p.components ≠ []) :
    p.isAbsolute = q.isAbsolute := by
  rw [Bool.eq_iff_iff]
  constructor
  · intro habsolute
    exact isAbsolute_iff_components.2 (h.subset (isAbsolute_iff_components.1 habsolute))
  · intro habsolute
    obtain ⟨c, rest, hp⟩ := List.exists_cons_of_ne_nil hne
    rw [hp, components_of_isAbsolute habsolute, List.cons_prefix_cons] at h
    rw [isAbsolute_iff_components, hp, h.1]
    exact List.mem_cons_self

theorem strides_prefix (h : p.components <+: q.components) : p.strides <+: q.strides :=
  (h.filter _).map _

/-- The components of a relative path along plain names are these names. -/
theorem components_joined (hplain : ∀ name ∈ names, Disk.Plain name) (hne : names ≠ []) :
    (Path.mk (Text.joined "/" names)).components = names.map .named := by
  have hpieces : Text.pieces '/' (Path.mk (Text.joined "/" names)).text = names :=
    Disk.pieces_joined_of_plain hplain hne
  have htidy : Tidy (Text.pieces '/' (Path.mk (Text.joined "/" names)).text) := by
    rw [hpieces]
    exact Disk.tidy_of_plain hplain
  rw [components_of_trimmed htidy.trimmed, hpieces,
    Disk.filterMap_ofPiece?_of_plain hplain]

/-- Names below a path are its last components. -/
theorem components_below (root : Path) (hplain : ∀ name ∈ names, Disk.Plain name) (hne : names ≠ []) :
    (root.below names).components = root.components ++ names.map .named :=
  components_join_named root (Disk.isAbsolute_joined hplain hne) (components_joined hplain hne)

end Path

namespace Disk

variable {d d' : Disk} {here place top : Location} {names names' before : List String} {found : Place}
  {p q base : Path} {n : Nat} {t : Int}

/-! ## Steps that go nowhere -/

/-- The second names are the first without some `.` among them. -/
inductive LeavesOut : List String → List String → Prop where
  | nil : LeavesOut [] []
  | keep (name : String) {rest rest' : List String} (h : LeavesOut rest rest') :
      LeavesOut (name :: rest) (name :: rest')
  | drop {rest rest' : List String} (h : LeavesOut rest rest') : LeavesOut ("." :: rest) rest'

theorem LeavesOut.append_left (h : LeavesOut names names') (first : List String) :
    LeavesOut (first ++ names) (first ++ names') := by
  induction first with
  | nil => exact h
  | cons name rest ih => exact .keep name ih

theorem LeavesOut.append_dot (h : LeavesOut names names') : LeavesOut (names ++ ["."]) names' := by
  induction h with
  | nil => exact .drop .nil
  | keep name _ ih => exact .keep name ih
  | drop _ ih => exact .drop ih

theorem leavesOut_filter (names : List String) : LeavesOut names (names.filter (· != ".")) := by
  induction names with
  | nil => exact .nil
  | cons name rest ih =>
    by_cases hname : name = "."
    · rw [hname, List.filter_cons_of_neg (by simp)]
      exact .drop ih
    · rw [List.filter_cons_of_pos (by simpa using hname)]
      exact .keep name ih

/-- The names that a path goes through are its components, with some `.` in between. -/
theorem leavesOut_names (p : Path) : LeavesOut (Disk.names p) p.strides := by
  have hfilter : (Disk.names p).filter (· != ".") = p.strides := by
    rw [Path.strides_eq, Disk.names, List.filter_filter]
    congr 1
    funext piece
    by_cases hempty : piece = "" <;> by_cases hdot : piece = "." <;> simp [Path.idle, hempty, hdot]
  rw [← hfilter]
  exact leavesOut_filter _

theorem leavesOut_steps (p : Path) : LeavesOut (steps p) p.strides := by
  obtain ⟨final, hsteps, rfl | rfl⟩ := steps_eq p
  · rw [hsteps, List.append_nil]
    exact leavesOut_names p
  · rw [hsteps]
    exact (leavesOut_names p).append_dot

/-- A walk ends where it does without steps that go nowhere. -/
theorem walk_leavesOut (hnames : LeavesOut names names') (h : walk d true n here names = .ok found) :
    walk d true n here names' = .ok found := by
  rw [walk_eq_ok] at h ⊢
  induction h generalizing names' with
  | done hfound =>
    cases hnames
    exact .done hfound
  | on hstride _ ih =>
    cases hnames with
    | keep _ hrest => exact .on hstride (ih hrest)
    | drop hrest =>
      cases stride_dot.symm.trans hstride
      exact ih hrest
  | last hstride =>
    cases hnames with
    | keep _ hrest =>
      cases hrest
      exact .last hstride
    | drop => cases stride_dot.symm.trans hstride
  | stop _ hfollow => cases hfollow
  | link hstride _ _ ih =>
    cases hnames with
    | keep _ hrest => exact .link hstride (by simp) (ih (hrest.append_left _))
    | drop => cases stride_dot.symm.trans hstride

/-- Steps that go nowhere may come before the end of a walk, -/
theorem Walks.of_leavesOut_nil {follow : Bool} (hnames : LeavesOut names [])
    (h : d.Walks follow found n here []) : d.Walks follow found n here names := by
  generalize hall : [] = all at hnames
  induction hnames with
  | nil => exact h
  | keep => cases hall
  | drop _ ih => exact .on stride_dot (ih hall)

/-- and before any of its other steps. -/
theorem Walks.of_leavesOut_cons {follow : Bool} {name : String} {rest' : List String}
    (hnames : LeavesOut names (name :: rest'))
    (h : ∀ rest, LeavesOut rest rest' → d.Walks follow found n here (name :: rest)) :
    d.Walks follow found n here names := by
  generalize hall : name :: rest' = all at hnames
  induction hnames with
  | nil => cases hall
  | keep _ hrest =>
    cases hall
    exact h _ hrest
  | drop _ ih => exact .on stride_dot (ih hall)

/-- A walk to a directory gets there with steps that go nowhere as well. -/
theorem walk_of_leavesOut (hnames : LeavesOut names names')
    (h : walk d true n here names' = .ok (.present place (.directory t))) :
    walk d true n here names = .ok (.present place (.directory t)) := by
  rw [walk_eq_ok] at h ⊢
  induction h generalizing names with
  | done hfound => exact .of_leavesOut_nil hnames (.done hfound)
  | on hstride _ ih => exact .of_leavesOut_cons hnames fun rest hrest => .on hstride (ih hrest)
  | last hstride => exact absurd rfl ((find?_of_stride hstride).2.1 t)
  | stop _ hfollow => cases hfollow
  | link hstride _ _ ih =>
    exact .of_leavesOut_cons hnames fun rest hrest => .link hstride (by simp) (ih (hrest.append_left _))

/-! ## Paths with components in common -/

theorem LeadsTo.exists_walk_strides (h : d.LeadsTo p place) :
    ∃ n e, walk d true n (start d.workingDirectory p) p.strides = .ok (.present place e) := by
  obtain ⟨n, e, hwalk⟩ := h
  exact ⟨n, e, walk_leavesOut (leavesOut_steps p) hwalk⟩

theorem leadsTo_of_walk_strides
    (h : walk d true n (start d.workingDirectory p) p.strides = .ok (.present place (.directory t))) :
    d.LeadsTo p place :=
  ⟨n, _, walk_of_leavesOut (leavesOut_steps p) h⟩

/-- A path that begins one of a directory leads to a directory. -/
theorem LeadsTo.exists_of_prefix (hd : d.Rooted) (h : d.LeadsTo base here) (hhere : d.DirectoryAt here)
    (hp : p.components <+: base.components) (hne : p.components ≠ []) :
    ∃ top, d.LeadsTo p top ∧ d.DirectoryAt top := by
  obtain ⟨n, e, hwalk⟩ := h.exists_walk_strides
  obtain ⟨rest, hrest⟩ := Path.strides_prefix hp
  have hstart : start d.workingDirectory p = start d.workingDirectory base := by
    rw [start, start, Path.isAbsolute_of_prefix hp hne]
  rw [← hrest, ← hstart] at hwalk
  obtain ⟨top, t, hfront⟩ : ∃ top t, walk d true n (start d.workingDirectory p) p.strides =
      .ok (.present top (.directory t)) := by
    by_cases hnil : rest = []
    · obtain ⟨t, ht⟩ := hhere
      have hlies : d.find? here = some e := hd.walk_lies (hd.working.start p) hwalk
      rw [ht] at hlies
      cases hlies
      rw [hnil, List.append_nil] at hwalk
      exact ⟨here, t, hwalk⟩
    · exact walk_front hd hnil (hd.working.start p) hwalk
  exact ⟨top, leadsTo_of_walk_strides hfront, t, hd.walk_lies (hd.working.start p) hfront⟩

/-- Names behind a directory lead straight on from there, if there are no links. -/
theorem LeadsTo.eq_append (hd : d.Rooted) (hbase : d.LeadsTo base here) (hhere : d.DirectoryAt here)
    (hq : q.components = base.components ++ names.map .named)
    (hlinks : ∀ before target, before <+: names → before ≠ [] →
      d.find? (here ++ before) ≠ some (.link target))
    (hleads : d.LeadsTo q place) : place = here ++ names := by
  obtain ⟨m, e, hto⟩ := hbase.exists_walk_strides
  obtain ⟨n, e', hwalk⟩ := hleads.exists_walk_strides
  obtain ⟨t, ht⟩ := hhere
  have hlies : d.find? here = some e := hd.walk_lies (hd.working.start base) hto
  rw [ht] at hlies
  cases hlies
  have hstart : start d.workingDirectory q = start d.workingDirectory base := by
    rw [start, start, Path.isAbsolute_append_named hq]
  rw [hstart, Path.strides_append hq] at hwalk
  have hmost := walk_mono hwalk (Nat.le_max_right m n)
  have hbefore := walk_mono hto (Nat.le_max_left m n)
  by_cases hne : names = []
  · rw [hne, List.append_nil] at hmost
    rw [hmost] at hbefore
    cases hbefore
    rw [hne, List.append_nil]
  · rw [← List.append_nil base.strides] at hbefore
    obtain ⟨left, hgo⟩ : ∃ left, ∀ rest, rest ≠ [] →
        walk d true (max m n) (start d.workingDirectory base) (base.strides ++ rest) =
          walk d true left here rest := walk_append (.inl rfl) hbefore
    rw [hgo names hne] at hmost
    have hplain : ∀ name ∈ names, name ≠ "." ∧ name ≠ ".." := by
      intro name hname
      have hmem : Path.Component.named name ∈ q.components := by
        rw [hq]
        exact List.mem_append_right _ (List.mem_map_of_mem hname)
      have hplain := Path.plain_of_mem_components hmem
      exact ⟨hplain.2.1, hplain.2.2.1⟩
    exact (walk_unlinked true left left hplain hne hlinks).2 _ hmost

end Disk
end Buildwright
