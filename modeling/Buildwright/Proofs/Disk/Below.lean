-- SUMMARY: Paths below a directory without links: they lead where their names say, and what is written there can be read there.
import Buildwright.Proofs.Disk.Overwriting
import Buildwright.Proofs.Disk.Writing

/-!
# Below a directory without links

A path below a directory goes through the names of the directory first, and gets to a place where the
directory lies. From there on, names lead straight on as long as there are no links, however many links have
been met on the way to the directory. Distinct names below the directory therefore lead to distinct places,
and what is written below it can be read under the same path.
-/
namespace Buildwright

/-- The path along names below a path. -/
def Path.below (root : Path) (names : List String) : Path :=
  root.join ⟨Text.joined "/" names⟩

namespace Disk

variable {d d' : Disk} {here place top : Location} {names rest : List String} {found : Place}
  {follow follow' : Bool} {p q root : Path} {n : Nat}

/-! ## Walks without links -/

theorem place_of_stride_on {name : String} (hcurrent : name ≠ ".") (hparent : name ≠ "..")
    (h : d.stride here name = .on place) : place = here ++ [name] := by
  rw [stride, if_neg hcurrent, if_neg hparent] at h
  split at h
  · cases h
  · split at h
    all_goals
      cases h
      try rfl

theorem location_of_stride {name : String} {error : OsError}
    (h : d.stride here name = .last found error) : found.location = here ++ [name] := by
  obtain ⟨-, rfl | ⟨entry, rfl, -⟩⟩ := stride_eq_last h
  · rfl
  · rfl

/-- A walk along names that are no links goes straight on, whatever it would do at a link. -/
theorem walk_unlinked (follow' : Bool) (n n' : Nat) (hplain : ∀ name ∈ names, name ≠ "." ∧ name ≠ "..")
    (hne : names ≠ [])
    (hlinks : ∀ before target, before <+: names → before ≠ [] →
      d.find? (here ++ before) ≠ some (.link target)) :
    walk d follow n here names = walk d follow' n' here names ∧
      ∀ found, walk d follow n here names = .ok found → found.location = here ++ names := by
  induction names generalizing here with
  | nil => exact absurd rfl hne
  | cons name rest ih =>
    obtain ⟨⟨hcurrent, hparent⟩, hrest⟩ := List.forall_mem_cons.1 hplain
    rw [walk_cons, walk_cons]
    cases hstride : d.stride here name with
    | on there =>
      obtain rfl := place_of_stride_on hcurrent hparent hstride
      by_cases hnil : rest = []
      · subst hnil
        refine ⟨walk_nil.trans walk_nil.symm, fun found hfound => ?_⟩
        cases walk_nil.symm.trans hfound
        rfl
      · have hdeeper : ∀ before target, before <+: rest → before ≠ [] →
            d.find? (here ++ [name] ++ before) ≠ some (.link target) := by
          intro before target hbefore _
          rw [List.append_assoc]
          exact hlinks (name :: before) target (List.cons_prefix_cons.2 ⟨rfl, hbefore⟩) (by simp)
        obtain ⟨heq, hends⟩ := ih hrest hnil hdeeper
        rw [List.append_assoc] at hends
        exact ⟨heq, hends⟩
    | last found' error =>
      refine ⟨rfl, fun found hfound => ?_⟩
      simp only at hfound
      split at hfound
      · next hnil =>
        cases hfound
        rw [location_of_stride hstride, hnil]
      · cases hfound
    | tooLong => exact ⟨rfl, fun found hnever => by cases hnever⟩
    | link there target =>
      obtain ⟨-, rfl, hlink⟩ := stride_eq_link hstride
      have hfirst : [name] <+: name :: rest := List.cons_prefix_cons.2 ⟨rfl, List.nil_prefix⟩
      exact absurd hlink (hlinks [name] target hfirst (by simp))

/-! ## The directory on the way -/

/-- A walk that goes on from some names has come to a directory with them. -/
theorem walk_front (hd : d.Rooted) (hrest : rest ≠ []) (hhere : d.DirectoryAt here)
    (h : walk d follow n here (names ++ rest) = .ok found) :
    ∃ top t, walk d true n here names = .ok (.present top (.directory t)) := by
  have hnone : ∀ {n here}, d.DirectoryAt here →
      ∃ top t, d.Walks true (.present top (.directory t)) n here [] := by
    rintro n here ⟨t, ht⟩
    exact ⟨here, t, .done (by rw [ht, Option.getD_some])⟩
  generalize hall : names ++ rest = all at h
  simp only [walk_eq_ok] at h ⊢
  induction h generalizing names with
  | done => exact absurd (List.append_eq_nil_iff.1 hall).2 hrest
  | last | stop =>
    obtain ⟨rfl, -⟩ | ⟨-, hnil⟩ := List.append_eq_singleton_iff.1 hall
    · exact hnone hhere
    · exact absurd hnil hrest
  | on hstride _ ih =>
    cases names with
    | nil => exact hnone hhere
    | cons name others =>
      cases hall
      obtain ⟨top, t, hwalk⟩ := ih (hd.directoryAt_of_stride hhere hstride) rfl
      exact ⟨top, t, .on hstride hwalk⟩
  | @link n here there name rest' target hstride _ _ ih =>
    cases names with
    | nil => exact hnone hhere
    | cons name others =>
      cases hall
      obtain ⟨top, t, hwalk⟩ := ih (hhere.start target) (List.append_assoc _ _ _)
      exact ⟨top, t, .link hstride (by simp) hwalk⟩

/-! ## Joined paths -/

theorem names_join (root : Path) (hq : q.isAbsolute = false) : Disk.names (root.join q) =
    Disk.names root ++ Disk.names q := by
  by_cases hroot : root.text = ""
  · have hnone : Disk.names root = [] := by
      rw [Disk.names, hroot, Text.pieces_empty]
      rfl
    rw [Path.join_of_text_eq hroot, hnone, List.nil_append]
  · have hfront : Disk.names root = root.front.filter (· != "") := by
      unfold Disk.names
      rcases root.pieces_eq_front with heq | heq <;> simp [heq]
    rw [hfront, Disk.names, Path.pieces_join hroot hq, List.filter_append]
    rfl

theorem start_join (here : Location) (root : Path) (hq : q.isAbsolute = false) :
    start here (root.join q) = start here root := by
  have habsolute : (root.join q).isAbsolute = root.isAbsolute := by
    by_cases hroot : root.text = ""
    · have hnot : root.isAbsolute = false := by simp [Path.isAbsolute, hroot, Text.beginsWith]
      rw [Path.join_of_text_eq hroot, hq, hnot]
    · rw [Path.join, if_neg (by simp [hq])]
      split
      · exact Path.isAbsolute_append hroot q.text
      · rw [String.append_assoc]
        exact Path.isAbsolute_append hroot _
  rw [start, start, habsolute]

section Below

variable (hplain : ∀ name ∈ names, Plain name) (hne : names ≠ [])

include hplain hne in
theorem pieces_joined_of_plain : Text.pieces '/' (Text.joined "/" names) = names :=
  Text.pieces_joined (fun name hname => (hplain name hname).2.2.2) hne

include hplain hne in
theorem isAbsolute_joined : (Path.mk (Text.joined "/" names)).isAbsolute = false := by
  have hpieces := pieces_joined_of_plain hplain hne
  cases hnames : names with
  | nil => exact absurd hnames hne
  | cons first others =>
    rw [hnames] at hpieces hplain
    exact Path.isAbsolute_eq_false hpieces (hplain first List.mem_cons_self).1

include hplain hne in
theorem names_joined : Disk.names ⟨Text.joined "/" names⟩ = names := by
  rw [Disk.names, pieces_joined_of_plain hplain hne, List.filter_eq_self]
  exact fun name hname => by simpa using (hplain name hname).1

include hplain hne in
theorem names_below (root : Path) : Disk.names (root.below names) = Disk.names root ++ names := by
  rw [Path.below, names_join root (isAbsolute_joined hplain hne), names_joined hplain hne]

include hplain hne in
theorem endsWith_below (root : Path) : Text.endsWith "/" (root.below names).text = false := by
  have hpieces := pieces_joined_of_plain hplain hne
  have htext : Text.joined "/" names ≠ "" := by
    intro hempty
    rw [hempty, Text.pieces_empty] at hpieces
    exact (hplain "" (by simp [← hpieces])).1 rfl
  have hjoined : Text.endsWith "/" (Text.joined "/" names) = false := by
    cases hslash : Text.endsWith "/" (Text.joined "/" names) with
    | false => rfl
    | true =>
      obtain ⟨r, -, hr⟩ := Path.text_of_endsWith_slash (p := ⟨Text.joined "/" names⟩) hslash
      rw [hpieces] at hr
      exact absurd rfl (hplain "" (by simp [hr])).1
  have hends : ∀ before, Text.endsWith "/" (before ++ Text.joined "/" names) = false := fun before =>
    (Text.endsWith_append_of_ne (c := '/') before htext).trans hjoined
  rw [Path.below, Path.join, if_neg (by simp [isAbsolute_joined hplain hne])]
  split
  · exact hends _
  · exact hends _

include hplain hne in
theorem steps_below (root : Path) : steps (root.below names) = Disk.names root ++ names := by
  rw [steps, endsWith_below hplain hne, Bool.and_false, ← names_below hplain hne]
  rfl

end Below

/-! ## What lies below -/

/-- There are no links at or below the place that a path leads to. -/
def NoLinksBelow (d : Disk) (root : Path) : Prop :=
  ∀ top, d.LeadsTo root top → ∀ names target, d.find? (top ++ names) ≠ some (.link target)

theorem start_below (here : Location) (root : Path) (hplain : ∀ name ∈ names, Plain name)
    (hne : names ≠ []) : start here (root.below names) = start here root :=
  start_join here root (isAbsolute_joined hplain hne)

/-- A walk to a directory ends there whether a slash follows the names or not. -/
theorem walk_steps {t : Int}
    (h : walk d true n here (Disk.names root) = .ok (.present top (.directory t))) :
    walk d true n here (steps root) = .ok (.present top (.directory t)) := by
  obtain ⟨final, hsteps, rfl | rfl⟩ := steps_eq root
  · rwa [hsteps, List.append_nil]
  · have hentry := walk_present h
    rw [← List.append_nil (Disk.names root)] at h
    obtain ⟨left, hgo⟩ : ∃ left, ∀ rest, rest ≠ [] →
        walk d true n here (Disk.names root ++ rest) = walk d true left top rest :=
      walk_append (.inl rfl) h
    rw [hsteps, hgo ["."] (by simp), walk_cons, stride_dot]
    simp only [walk_nil, hentry]

/-- A path leads to the directory that a walk along its names ends at, whether a slash follows them or not. -/
theorem leadsTo_of_walk {t : Int}
    (h : walk d true n (start d.workingDirectory root) (Disk.names root) = .ok (.present top (.directory t))) :
    d.LeadsTo root top :=
  ⟨n, _, walk_steps h⟩

/-- A walk along a path below another comes to a directory, to which the other leads. -/
theorem walk_below (hd : d.Rooted) (hne : names ≠ [])
    (h : walk d follow n (start d.workingDirectory root) (Disk.names root ++ names) = .ok found) :
    ∃ top t, d.LeadsTo root top ∧
      walk d true n (start d.workingDirectory root) (Disk.names root) = .ok (.present top (.directory t)) := by
  obtain ⟨top, t, hfront⟩ := walk_front hd hne (hd.working.start root) h
  exact ⟨top, t, leadsTo_of_walk hfront, hfront⟩

/-- A path that ends in a slash leads to a directory, if anywhere. -/
theorem Rooted.exists_directory_of_slash {e : Entry} (hd : d.Rooted) (hslash : Text.endsWith "/" p.text = true)
    (h : d.resolve p = .ok (place, e)) : ∃ t, e = .directory t := by
  obtain ⟨-, hwalk⟩ := locate_eq_ok.1 (resolve_eq_ok.1 h)
  by_cases hnames : Disk.names p = []
  · obtain ⟨t, ht⟩ := hd.working.start p
    have hsteps : steps p = [] := by simp [steps, hnames]
    rw [hsteps, walk_nil, ht] at hwalk
    cases hwalk
    exact ⟨t, rfl⟩
  · have hsteps : steps p = Disk.names p ++ ["."] := by simp [steps, hnames, hslash]
    rw [hsteps] at hwalk
    obtain ⟨top, t, hfront⟩ := walk_front hd (by simp) (hd.working.start p) hwalk
    have hends := walk_steps hfront
    rw [hsteps, hwalk] at hends
    cases hends
    exact ⟨t, rfl⟩

/-- The empty path leads nowhere. -/
theorem resolve_of_text_eq (h : p.text = "") : d.resolve p = .error .notFound := by
  rw [resolve, locate, checkLength, if_pos h]
  rfl

/-- A path that is empty or ends in a slash is not that of a file that can be read. -/
theorem Rooted.exists_readText_eq_error (hd : d.Rooted)
    (h : p.text = "" ∨ Text.endsWith "/" p.text = true) : ∃ error, d.readText p = .error error := by
  cases hresolve : d.resolve p with
  | error error =>
    refine ⟨.system error, ?_⟩
    rw [readText, read, hresolve]
    rfl
  | ok result =>
    obtain ⟨place, e⟩ := result
    rcases h with hempty | hslash
    · rw [resolve_of_text_eq hempty] at hresolve
      cases hresolve
    · obtain ⟨t, rfl⟩ := hd.exists_directory_of_slash hslash hresolve
      refine ⟨OsError.isADirectory, ?_⟩
      rw [readText, read, hresolve]
      rfl

section Straight

variable (hd : d.Rooted) (hlinks : d.NoLinksBelow root) (hplain : ∀ name ∈ names, Plain name)
  (hne : names ≠ [])

include hd hlinks hplain hne in
/-- Below a path without links there, a walk goes straight along the names, if it gets to them. -/
theorem walk_straight
    (h : walk d follow n (start d.workingDirectory root) (Disk.names root ++ names) = .ok found) :
    ∃ top, d.LeadsTo root top ∧ found.location = top ++ names ∧
      ∀ n', n ≤ n' → ∀ follow',
        walk d follow' n' (start d.workingDirectory root) (Disk.names root ++ names) = .ok found := by
  obtain ⟨top, t, htop, hfront⟩ := walk_below hd hne h
  have hnames : ∀ name ∈ names, name ≠ "." ∧ name ≠ ".." :=
    fun name hname => ⟨(hplain name hname).2.1, (hplain name hname).2.2.1⟩
  have hbefore : ∀ before target, before <+: names → before ≠ [] →
      d.find? (top ++ before) ≠ some (.link target) := fun before target _ _ => hlinks top htop before target
  have hgoes : ∀ n', n ≤ n' → ∀ follow', ∃ left,
      walk d follow' n' (start d.workingDirectory root) (Disk.names root ++ names) =
        walk d follow' left top names := by
    intro n' hn follow'
    have hfront' := walk_mono hfront hn
    rw [← List.append_nil (Disk.names root)] at hfront'
    obtain ⟨left, hgo⟩ := walk_append (.inl rfl) hfront'
    exact ⟨left, hgo names hne⟩
  obtain ⟨left, hgo⟩ := hgoes n (Nat.le_refl n) follow
  rw [hgo] at h
  refine ⟨top, htop, ?_, fun n' hn follow' => ?_⟩
  · exact (walk_unlinked follow left left hnames hne hbefore).2 found h
  · obtain ⟨left', hgo'⟩ := hgoes n' hn follow'
    rw [hgo', ← h]
    exact (walk_unlinked follow left' left hnames hne hbefore).1

include hd hlinks hplain hne in
/-- Below a path without links there, names lead to the place where they say. -/
theorem LeadsTo.of_below (h : d.LeadsTo (root.below names) place) :
    ∃ top, d.LeadsTo root top ∧ place = top ++ names := by
  obtain ⟨n, e, hwalk⟩ := h
  rw [steps_below hplain hne, start_below _ _ hplain hne] at hwalk
  obtain ⟨top, htop, hlocation, -⟩ := walk_straight hd hlinks hplain hne hwalk
  exact ⟨top, htop, hlocation⟩

end Straight

/-! ## Files that are written in turn -/

/-- A relative path that is made of names of entries. -/
def PlainPath (relative : String) : Prop :=
  ∃ names, names ≠ [] ∧ (∀ name ∈ names, Plain name) ∧ relative = Text.joined "/" names

/-- Plain paths that lead from a directory to one place are the same, if there are no links below it. -/
theorem PlainPath.eq_of_samePlace {relative relative' : String} (h : PlainPath relative)
    (h' : PlainPath relative') (hd : d.Rooted) (hlinks : d.NoLinksBelow root)
    (hsame : d.SamePlace (root.join ⟨relative⟩) (root.join ⟨relative'⟩)) : relative = relative' := by
  obtain ⟨names, hne, hplain, rfl⟩ := h
  obtain ⟨names', hne', hplain', rfl⟩ := h'
  obtain ⟨place, hleads, hleads'⟩ := hsame
  obtain ⟨top, htop, rfl⟩ := LeadsTo.of_below hd hlinks hplain hne hleads
  obtain ⟨top', htop', hplace⟩ := LeadsTo.of_below hd hlinks hplain' hne' hleads'
  obtain rfl := htop.unique htop'
  rw [List.append_cancel_left hplace]

/-- Files that are written under distinct plain paths below a directory without links go to places of their own,
    so that each can be read in the end. -/
theorem Rooted.wp_writeAll_below (hd : d.Rooted) (root : Path) {es : List (String × Bytes)}
    (hplain : ∀ e ∈ es, PlainPath e.1) (hnodup : (es.map (·.1)).Nodup) :
    wp (es.forM fun e => writeWithDirectories (root.join ⟨e.1⟩) e.2)
      (fun _ d' => d'.NoLinksBelow root → ∀ e ∈ es, d'.read (root.join ⟨e.1⟩) = .ok e.2)
      (fun _ _ => True) d := by
  refine ((HoldsLast.start hd).wp_forM (fun e : String × Bytes => root.join ⟨e.1⟩) (·.2) es).mono ?_
    fun _ _ _ => trivial
  rintro _ d' hholds hlinks e he
  rw [List.nil_append] at hholds
  have hmem : root.join ⟨e.1⟩ ∈ (es.map fun e : String × Bytes => (root.join ⟨e.1⟩, e.2)).map (·.1) :=
    List.mem_map.2 ⟨_, List.mem_map_of_mem he, rfl⟩
  obtain ⟨content, hlast⟩ := hholds.exists_lastThere hmem
  -- The last file that went to the place of this one is this one itself.
  obtain ⟨before, q, after, hes, hsame, -⟩ := id hlast
  have hq : (q, content) ∈ es.map fun e : String × Bytes => (root.join ⟨e.1⟩, e.2) := by simp [hes]
  obtain ⟨e', he', heq⟩ := List.mem_map.1 hq
  cases heq
  have hpath := (hplain e he).eq_of_samePlace (hplain e' he') hholds.rooted hlinks hsame
  obtain rfl : e = e' := List.inj_on_of_nodup_map hnodup he he' hpath
  exact hholds.read_of_lastThere hmem hlast

end Disk
end Buildwright
