-- SUMMARY: Places that paths name by their texts alone, and the paths under which a file with its directories is created.
import Buildwright.Proofs.Disk.Enclosure
import Buildwright.Proofs.Disk.Spelling

/-!
# Lexical places

A path names a place without a look at the disk: each `..` takes back the name in front of it. Where there
are no links the path leads there, if it leads anywhere. Components that name nothing once they have gone
above where they begin stay below every place that they are followed from. A file that is written with its
directories is created under its path, and the directories under paths that begin it.
-/
namespace Buildwright
namespace Path

variable {p q : Path} {cs : List Component} {name : String}

/-- The place to which a component goes from another. -/
def Component.follow (here : List String) : Component → List String
  | root => []
  | current => here
  | parent => here.dropLast
  | named name => here ++ [name]

/-- The place that a path names from a directory, by its text alone. -/
def lexical (p : Path) (directory : List String) : List String :=
  p.components.foldl Component.follow directory

/-- Whether components name nothing once they have gone above where they begin. They are so many names below,
    or above if there is no such number. -/
def inward : Option Nat → List Component → Bool
  | _, [] => true
  | _, .root :: rest => inward none rest
  | level, .current :: rest => inward level rest
  | some (n + 1), .parent :: rest => inward (some n) rest
  | _, .parent :: rest => inward none rest
  | some n, .named _ :: rest => inward (some (n + 1)) rest
  | none, .named _ :: _ => false

theorem not_mem_of_inward_none (h : inward none cs = true) : .named name ∉ cs := by
  induction cs with
  | nil => exact List.not_mem_nil
  | cons c rest ih => cases c <;> simp_all [inward]

/-- Whatever is named by components that stay inward lies below where they begin. -/
theorem exists_foldl_follow_of_inward (top ahead : List String) {front : List Component}
    (h : inward (some ahead.length) cs = true) (hfront : front ++ [Component.named name] <+: cs) :
    ∃ ahead', ahead' ≠ [] ∧
      (front ++ [Component.named name]).foldl Component.follow (top ++ ahead) = top ++ ahead' := by
  induction front generalizing cs ahead with
  | nil =>
    refine ⟨ahead ++ [name], by simp, ?_⟩
    simp [Component.follow]
  | cons c front ih =>
    cases cs with
    | nil => simp at hfront
    | cons c' rest =>
      rw [List.cons_append, List.cons_prefix_cons] at hfront
      obtain ⟨rfl, hrest⟩ := hfront
      have hmem : Component.named name ∈ rest := hrest.subset (by simp)
      rw [List.cons_append, List.foldl_cons]
      cases c with
      | root => exact absurd hmem (not_mem_of_inward_none h)
      | current => exact ih _ (by simpa [inward] using h) hrest
      | named other =>
        rw [Component.follow, List.append_assoc]
        exact ih _ (by simpa [inward] using h) hrest
      | parent =>
        cases ahead using List.reverseRecOn with
        | nil => exact absurd hmem (not_mem_of_inward_none h)
        | append_singleton ahead last =>
          rw [Component.follow, ← List.append_assoc, List.dropLast_concat]
          exact ih _ (by simpa [inward] using h) hrest

/-- Components that do not stay inward name something behind those that have taken back where they began, a
    place of one name more than they are below it. -/
theorem exists_front_of_not_inward {level : Option Nat} (h : inward level cs = false) :
    ∃ front name, front ++ [Component.named name] <+: cs ∧ ∀ here : List String,
      here.length = level.elim 0 (· + 1) → front.foldl Component.follow here = [] := by
  induction cs generalizing level with
  | nil => simp [inward] at h
  | cons c rest ih =>
    have hstep : ∀ level', inward level' rest = false → (∀ here : List String,
        here.length = level.elim 0 (· + 1) → (c.follow here).length = level'.elim 0 (· + 1)) →
        ∃ front name, front ++ [Component.named name] <+: c :: rest ∧ ∀ here : List String,
          here.length = level.elim 0 (· + 1) → front.foldl Component.follow here = [] := by
      intro level' hrest hfollow
      obtain ⟨front, name, hfront, htaken⟩ := ih hrest
      exact ⟨c :: front, name, List.cons_prefix_cons.2 ⟨rfl, hfront⟩,
        fun here hhere => htaken _ (hfollow here hhere)⟩
    cases c with
    | root => exact hstep none h fun _ _ => rfl
    | current => exact hstep level (by simpa [inward] using h) fun _ hhere => hhere
    | parent =>
      rcases level with - | - | n
      · exact hstep none h fun here hhere => by simp [Component.follow, hhere]
      · exact hstep none h fun here hhere => by simp [Component.follow, hhere]
      · exact hstep (some n) h fun here hhere => by simp [Component.follow, hhere]
    | named name =>
      rcases level with - | n
      · exact ⟨[], name, by simp, fun here hhere => List.length_eq_zero_iff.1 hhere⟩
      · exact hstep (some (n + 1)) h fun here hhere => by simp [Component.follow, hhere]

/-- Components stay inward exactly if all that they name lies below, wherever they are followed from. -/
theorem inward_iff : inward (some 0) cs = true ↔
    ∀ top front name, front ++ [Component.named name] <+: cs →
      ∃ ahead, ahead ≠ [] ∧ (front ++ [Component.named name]).foldl Component.follow top = top ++ ahead := by
  constructor
  · intro h top front name hfront
    have hfollow := exists_foldl_follow_of_inward top [] h hfront
    rwa [List.append_nil] at hfollow
  · intro h
    by_contra hnot
    obtain ⟨front, name, hfront, htaken⟩ := exists_front_of_not_inward (Bool.eq_false_iff.2 hnot)
    -- A place of another name than the one behind is not above it.
    obtain ⟨other, hother⟩ : ∃ other : String, other ≠ name := by
      by_cases hname : name = ""
      · exact ⟨"a", by rw [hname]; decide⟩
      · exact ⟨"", Ne.symm hname⟩
    obtain ⟨ahead, -, hfollow⟩ := h [other] front name hfront
    rw [List.foldl_append, htaken [other] rfl] at hfollow
    simp only [List.foldl_cons, List.foldl_nil, Component.follow, List.nil_append, List.singleton_append,
      List.cons.injEq] at hfollow
    exact hother hfollow.1.symm

theorem inward_filter_isStep {level : Option Nat} (hroot : .root ∉ cs) :
    inward level (cs.filter Component.isStep) = inward level cs := by
  induction cs generalizing level with
  | nil => rfl
  | cons c rest ih =>
    have hrest : .root ∉ rest := fun h => hroot (List.mem_cons_of_mem c h)
    cases c with
    | root => exact absurd List.mem_cons_self hroot
    | current => exact ih hrest
    | parent =>
      rw [List.filter_cons_of_pos rfl]
      match level with
      | some (n + 1) => exact ih hrest
      | some 0 => exact ih hrest
      | none => exact ih hrest
    | named other =>
      rw [List.filter_cons_of_pos rfl]
      match level with
      | some n => exact ih hrest
      | none => rfl

/-- The components of a joined path are those of the first and those of the second that are steps, except
    that nothing is left out behind the empty path. -/
theorem components_join (p : Path) (hq : q.isAbsolute = false) :
    ∃ ahead, (p.join q).components = p.components ++ ahead ∧
      (ahead = q.components ∨ ahead = q.components.filter Component.isStep) := by
  by_cases hp : p.text = ""
  · refine ⟨q.components, ?_, .inl rfl⟩
    rw [join_of_text_eq hp, components_of_text_eq hp, List.nil_append]
  · refine ⟨q.components.filter Component.isStep, ?_, .inr rfl⟩
    rw [components_of_front hp (pieces_join hp hq) (Text.pieces_ne_nil '/' q.text), filterMap_pieces]

theorem filter_isStep_named (names : List String) :
    (names.map Component.named).filter Component.isStep = names.map .named :=
  List.filter_eq_self.2 (by simp [Component.isStep])

/-- Names are steps, all of which are in the joined path. -/
theorem components_join_named (p : Path) (hq : q.isAbsolute = false) {names : List String}
    (hnames : q.components = names.map .named) :
    (p.join q).components = p.components ++ names.map .named := by
  obtain ⟨ahead, hjoin, hahead⟩ := components_join p hq
  rw [hnames, filter_isStep_named, or_self] at hahead
  rw [hjoin, hahead]

theorem inward_named (names : List String) (n : Nat) : inward (some n) (names.map .named) = true := by
  induction names generalizing n with
  | nil => rfl
  | cons name rest ih => exact ih (n + 1)

/-- A beginning of one list behind another is a beginning of the first, or goes on behind it. -/
theorem prefix_append_cases {front behind : List Component} (h : cs <+: front ++ behind) :
    cs <+: front ∨ ∃ more, more ≠ [] ∧ more <+: behind ∧ cs = front ++ more := by
  rcases List.prefix_or_prefix_of_prefix h (List.prefix_append _ _) with hshort | ⟨more, rfl⟩
  · exact .inl hshort
  · rw [List.prefix_append_right_inj] at h
    by_cases hne : more = []
    · exact .inl (by rw [hne, List.append_nil])
    · exact .inr ⟨more, hne, h, rfl⟩

/-- A path whose components are some of those that names lead on along begins the other path, or goes on
    behind it. -/
theorem cases_of_prefix {base : Path} {names : List String}
    (hq : q.components <+: base.components ++ names.map .named) :
    q.components <+: base.components ∨
      ∃ ahead, ahead ≠ [] ∧ ahead <+: names ∧ q.components = base.components ++ ahead.map .named := by
  refine (prefix_append_cases hq).imp_right ?_
  rintro ⟨more, hne, hmore, hcomponents⟩
  obtain ⟨ahead, hahead, rfl⟩ := List.prefix_map_iff.1 hmore
  exact ⟨ahead, mt List.map_eq_nil_iff.2 hne, hahead, hcomponents⟩

end Path

namespace Disk

variable {d d' d'' : Disk} {here place : Location} {names : List String} {found : Place} {n : Nat}
  {p q : Path} {name : String} {content : Bytes}

/-! ## Where a path ends -/

/-- A walk that does not end at a directory ends at a name. -/
theorem getLast?_of_walk (hd : d.Rooted) (hhere : d.DirectoryAt here)
    (hfound : ∀ place t, found ≠ .present place (.directory t))
    (h : walk d false n here names = .ok found) : ∃ name, names.getLast? = some name ∧ IsName name := by
  have hlast : ∀ {name last : String} {rest : List String},
      rest.getLast? = some last → (name :: rest).getLast? = some last := by
    intro name last rest hrest
    rw [List.getLast?_cons, hrest, Option.getD_some]
  rw [walk_eq_ok] at h
  induction h with
  | done heq =>
    obtain ⟨t, ht⟩ := hhere
    rw [ht] at heq
    exact absurd heq.symm (hfound _ t)
  | on hstride _ ih =>
    obtain ⟨last, hrest, hname⟩ := ih (hd.directoryAt_of_stride hhere hstride)
    exact ⟨last, hlast hrest, hname⟩
  | last hstride => exact ⟨_, rfl, (stride_eq_last hstride).1⟩
  | stop hstride => exact ⟨_, rfl, (stride_eq_link hstride).1⟩
  | @link n here there name rest target hstride hgoes _ ih =>
    obtain ⟨last, htarget, hname⟩ := ih (hhere.start target)
    have hne : rest ≠ [] := fun hnil => hgoes ⟨hnil, rfl⟩
    rw [List.getLast?_append_of_ne_nil _ hne] at htarget
    exact ⟨last, hlast htarget, hname⟩

/-- A path whose last piece that is not empty is a name ends in this component. -/
theorem exists_components_concat_of_names (h : (Disk.names p).getLast? = some name) (hname : IsName name) :
    ∃ front, p.components = front ++ [.named name] := by
  obtain ⟨before, hbefore⟩ := List.getLast?_eq_some_iff.1 h
  have hmem : name ∈ Disk.names p := by simp [hbefore]
  have hpiece : Path.Component.ofPiece? name = some (.named name) := by
    have hempty : name ≠ "" := by simpa using (List.mem_filter.1 hmem).2
    simp [Path.Component.ofPiece?, hempty, hname.1, hname.2.1]
  refine ⟨Path.headComponents p.anatomy.1 ++ before.filterMap Path.Component.ofPiece?, ?_⟩
  rw [Path.components_eq, ← Path.filterMap_ofPiece?_filter, ← Disk.names, hbefore, List.filterMap_append,
    List.filterMap_cons_some hpiece, List.append_assoc]
  rfl

/-- A directory is created under a path that ends in a name. -/
theorem exists_components_concat_of_createDirectory (hd : d.Rooted) (h : d.createDirectory p = .ok d') :
    ∃ front name, p.components = front ++ [.named name] := by
  obtain ⟨directory, name, hlocate, -⟩ := createDirectory_eq_ok.1 h
  obtain ⟨-, hwalk⟩ := locateName_eq_ok.1 hlocate
  obtain ⟨last, hlast, hname⟩ := getLast?_of_walk hd (hd.working.start p) (by simp) hwalk
  obtain ⟨front, hfront⟩ := exists_components_concat_of_names hlast hname
  exact ⟨front, last, hfront⟩

/-- The last piece of a path that ends in no slash is its last that is not empty. -/
theorem getLast?_pieces (hslash : Text.endsWith "/" p.text = false)
    (h : (Disk.names p).getLast? = some name) : (Text.pieces '/' p.text).getLast? = some name := by
  obtain ⟨before, last, hpieces⟩ :=
    (List.eq_nil_or_concat' (Text.pieces '/' p.text)).resolve_left (Text.pieces_ne_nil '/' p.text)
  have hlast : last ≠ "" := by
    rintro rfl
    have hbefore : before ≠ [] := by
      rintro rfl
      simp [Disk.names, hpieces] at h
    have htext := Text.joined_pieces '/' p.text
    rw [hpieces, Text.joined_append _ hbefore (by simp)] at htext
    have hends : Text.endsWith "/" p.text = true :=
      Text.endsWith_eq_true.2 ⟨_, htext.symm.trans (String.append_empty)⟩
    simp [hslash] at hends
  rw [Disk.names, hpieces, List.filter_append, List.filter_cons_of_pos (by simpa using hlast)] at h
  rw [hpieces]
  simpa using h

/-- A file is written under a path that ends in a name, with no slash behind it. -/
theorem direct_of_write (hd : d.Rooted) (h : d.write p content = .ok d') :
    Direct p ∧ ∃ front name, p.components = front ++ [.named name] := by
  obtain ⟨found, hplace, hfound⟩ := exists_placeToWrite h
  obtain ⟨hlength, hfile⟩ := placeToWrite_eq_ok.1 hplace
  obtain ⟨hslash, found', hwalk, hends⟩ := fileToWrite_eq_ok hfile
  have hfound' : ∀ place t, found' ≠ .present place (.directory t) := by
    rcases hends with rfl | ⟨place, target, -, rfl, -⟩
    · exact hfound
    · simp
  obtain ⟨last, hlast, hname⟩ := getLast?_of_walk hd (hd.working.start p) hfound' hwalk
  obtain ⟨front, hfront⟩ := exists_components_concat_of_names hlast hname
  refine ⟨⟨(checkLength_eq_ok.1 hlength).2, last, getLast?_pieces hslash hlast, ?_⟩, front, last, hfront⟩
  have hmem : last ∈ Disk.names p := List.mem_of_getLast? hlast
  exact Path.idle_eq_false.2 ⟨by simpa using (List.mem_filter.1 hmem).2, hname.1⟩

/-! ## What changes on the way to a file -/

/-- Whatever has changed between two disks lies where a path leads that begins another and ends in a name. It
    is a new directory, or the file under the other path. -/
def ChangedAlong (d d' : Disk) (p : Path) : Prop :=
  ∀ place, ¬ d.SameAt d' place → ∃ q, d'.LeadsTo q place ∧ q.components <+: p.components ∧
    (∃ front name, q.components = front ++ [.named name]) ∧
    (d.find? place = none ∧ d'.DirectoryAt place ∨ q = p ∧ Direct p)

/-- A change at one place more. -/
theorem ChangedAlong.step {d₁ : Disk} (h : d.ChangedAlong d₁ p) (hgrows : d₁.Grows d')
    (hother : ∀ other, other ≠ place → d₁.SameAt d' other) (hleads : d'.LeadsTo q place)
    (hq : q.components <+: p.components) (hname : ∃ front name, q.components = front ++ [.named name])
    (hends : d.find? place = none ∧ d'.DirectoryAt place ∨ q = p ∧ Direct p) : d.ChangedAlong d' p := by
  intro other hchanged
  by_cases hplace : other = place
  · subst hplace
    exact ⟨q, hleads, hq, hname, hends⟩
  · obtain ⟨q', hleads', hq', hname', hends'⟩ := h other fun hsame =>
      hchanged (hsame.trans (hother other hplace))
    refine ⟨q', hleads'.extends hgrows.extends_before, hq', hname', ?_⟩
    exact hends'.imp_left fun ⟨hfree, hdirectory⟩ => ⟨hfree, hdirectory.extends hgrows.extends_before⟩

/-- What was free on a disk that has grown was free before. -/
theorem Extends.find?_eq_none (h : d.Extends d') (hfree : d'.find? place = none) : d.find? place = none := by
  rw [Option.eq_none_iff_forall_ne_some]
  intro e he
  obtain ⟨e', he', -⟩ := h.find? he
  rw [hfree] at he'
  cases he'

/-- However far it gets, writing with directories changes nothing that is not on the way to the file. -/
theorem Rooted.wp_writeWithDirectories_along (hd : d.Rooted) (p : Path) (content : Bytes) :
    wp (writeWithDirectories p content) (fun _ d' => d.Grows d' ∧ d.ChangedAlong d' p)
      (fun _ d' => d.Grows d' ∧ d.ChangedAlong d' p) d := by
  have hstep : ∀ d₁ q d', d.Grows d₁ ∧ d.ChangedAlong d₁ p → q.components <+: p.components →
      d₁.createDirectory q = .ok d' → d.Grows d' ∧ d.ChangedAlong d' p := by
    rintro d₁ q d' ⟨hgrows, halong⟩ hq hcreate
    have hgrows' := hgrows.rooted.grows_createDirectory hcreate
    obtain ⟨place, hleads, hfree, hdirectory, hother⟩ := hgrows.rooted.leadsTo_createDirectory hcreate
    refine ⟨hgrows.trans hgrows', halong.step hgrows' hother hleads hq ?_ ?_⟩
    · exact exists_components_concat_of_createDirectory hgrows.rooted hcreate
    · exact .inl ⟨hgrows.extends_before.find?_eq_none hfree, hdirectory⟩
  have hparent : ∀ {q parent : Path}, q.components <+: p.components → q.parent? = some parent →
      parent.components <+: p.components := by
    intro q parent hq hup
    obtain ⟨last, hlast⟩ := Path.exists_components_of_parent? hup
    exact (hlast ▸ List.prefix_append _ _).trans hq
  refine (Disk.wp_writeWithDirectories (P := fun q => q.components <+: p.components) hstep
    (fun _ _ _ _ _ hq _ _ => hparent hq) (fun _ => hparent (List.prefix_refl _))
    ⟨hd.grows, fun place hchanged => absurd rfl hchanged⟩).mono ?_ fun _ _ hd' => hd'
  rintro _ d' ⟨d₁, ⟨hgrows, halong⟩, hwrite⟩
  have hgrows' := hgrows.rooted.grows_write hwrite
  obtain ⟨place, f, hresolve, -, hother⟩ := hgrows.rooted.resolve_write hwrite
  obtain ⟨hdirect, hname⟩ := direct_of_write hgrows.rooted hwrite
  exact ⟨hgrows.trans hgrows', halong.step hgrows' hother (leadsTo_of_resolve hresolve) (List.prefix_refl _)
    hname (.inr ⟨rfl, hdirect⟩)⟩

/-! ## What changes below a directory -/

/-- Whatever has changed between two disks lies where a path leads that names a place below a directory. Only
    the directory itself and those that it lies in may be new, too. -/
def ChangedBelow (d d' : Disk) (directory : Path) : Prop :=
  ∀ place, ¬ d.SameAt d' place → ∃ q, d'.LeadsTo q place ∧
    ((∃ ahead, ahead ≠ [] ∧
        q.lexical d.workingDirectory = directory.lexical d.workingDirectory ++ ahead) ∨
      q.components <+: directory.components ∧ d.find? place = none ∧ d'.DirectoryAt place)

namespace ChangedBelow

variable {directory : Path}

theorem refl (d : Disk) (directory : Path) : d.ChangedBelow d directory :=
  fun _ hchanged => absurd rfl hchanged

theorem trans (h : d.ChangedBelow d' directory) (hd : d.Extends d') (h' : d'.ChangedBelow d'' directory)
    (hd' : d'.Extends d'') : d.ChangedBelow d'' directory := by
  intro place hchanged
  by_cases hlater : d'.SameAt d'' place
  · obtain ⟨q, hleads, hq⟩ := h place fun hsame => hchanged (hsame.trans hlater)
    refine ⟨q, hleads.extends hd', hq.imp_right ?_⟩
    exact fun ⟨hbegins, hfree, hdirectory⟩ => ⟨hbegins, hfree, hdirectory.extends hd'⟩
  · obtain ⟨q, hleads, hq⟩ := h' place hlater
    rw [hd.workingDirectory] at hq
    refine ⟨q, hleads, hq.imp_right ?_⟩
    exact fun ⟨hbegins, hfree, hdirectory⟩ => ⟨hbegins, hd.find?_eq_none hfree, hdirectory⟩

end ChangedBelow

/-- A path joined to another ends in a piece that counts only if it has one. -/
theorem exists_isStep_of_direct_join (hq : q.isAbsolute = false) (h : Direct (p.join q)) :
    ∃ c ∈ q.components, c.isStep = true := by
  obtain ⟨-, last, hlast, hidle⟩ := h
  have hpiece : last ∈ Text.pieces '/' q.text := by
    by_cases hp : p.text = ""
    · rw [Path.join_of_text_eq hp] at hlast
      exact List.mem_of_getLast? hlast
    · rw [Path.pieces_join hp hq, List.getLast?_append,
        List.getLast?_eq_some_getLast (Text.pieces_ne_nil '/' q.text), Option.some_or] at hlast
      rw [← Option.some.inj hlast]
      exact List.getLast_mem _
  obtain ⟨c, hc⟩ : ∃ c, Path.Component.ofPiece? last = some c := by
    rw [← Option.ne_none_iff_exists', ne_eq, Path.ofPiece?_eq_none, hidle]
    simp
  have hmem : c ∈ q.components.filter Path.Component.isStep := by
    rw [← Path.filterMap_pieces]
    exact List.mem_filterMap.2 ⟨last, hpiece, hc⟩
  exact ⟨c, (List.mem_filter.1 hmem).1, (List.mem_filter.1 hmem).2⟩

/-- What changes on the way to a path that goes on inward from a directory changes below the directory. -/
theorem ChangedAlong.changedBelow_of_components {directory : Path} {ahead : List Path.Component}
    (h : d.ChangedAlong d' p) (hp : p.components = directory.components ++ ahead)
    (hahead : Path.inward (some 0) ahead = true) (hne : Direct p → ahead ≠ []) :
    d.ChangedBelow d' directory := by
  intro place hchanged
  obtain ⟨q, hleads, hq, ⟨front, name, hname⟩, hends⟩ := h place hchanged
  rw [hp] at hq
  refine ⟨q, hleads, ?_⟩
  rcases Path.prefix_append_cases hq with hbegins | ⟨behind, hmore, hbehind, hcomponents⟩
  · refine .inr ⟨hbegins, hends.resolve_right ?_⟩
    rintro ⟨rfl, hdirect⟩
    have hlength := hbegins.length_le
    rw [hp, List.length_append] at hlength
    exact hne hdirect (List.length_eq_zero_iff.1 (by omega))
  · left
    obtain ⟨front', last, rfl⟩ := (List.eq_nil_or_concat' behind).resolve_left hmore
    have hlast := hname.symm.trans hcomponents
    rw [← List.append_assoc] at hlast
    obtain rfl : .named name = last := List.singleton_inj.1 (List.append_inj' hlast rfl).2
    rw [Path.lexical, hcomponents, List.foldl_append, ← Path.lexical]
    exact Path.inward_iff.1 hahead _ front' name hbehind

/-- What changes on the way to a path that stays inward of a directory changes below the directory. -/
theorem ChangedAlong.changedBelow {directory : Path} (h : d.ChangedAlong d' (directory.join p))
    (hp : Path.inward (some 0) p.components = true) : d.ChangedBelow d' directory := by
  cases habsolute : p.isAbsolute with
  | true =>
    -- Behind the root nothing is named.
    intro place hchanged
    obtain ⟨q, -, hq, ⟨front, name, hname⟩, -⟩ := h place hchanged
    rw [Path.join_of_isAbsolute directory habsolute, hname] at hq
    rw [Path.components_of_isAbsolute habsolute] at hq hp
    have hmem : Path.Component.named name ∈ front ++ [.named name] := by simp
    exact absurd (List.mem_of_ne_of_mem (by simp) (hq.subset hmem)) (Path.not_mem_of_inward_none hp)
  | false =>
    obtain ⟨ahead, hjoin, hahead⟩ := Path.components_join directory habsolute
    have hroot : .root ∉ p.components := fun hroot => by
      simp [Path.isAbsolute_iff_components.2 hroot] at habsolute
    refine h.changedBelow_of_components hjoin ?_ fun hdirect => ?_
    · rcases hahead with rfl | rfl
      · exact hp
      · rw [Path.inward_filter_isStep hroot, hp]
    · obtain ⟨c, hc, hstep⟩ := exists_isStep_of_direct_join habsolute hdirect
      rcases hahead with rfl | rfl
      · exact List.ne_nil_of_mem hc
      · exact List.ne_nil_of_mem (List.mem_filter.2 ⟨hc, hstep⟩)

/-! ## Disks without links -/

/-- There is no link on a disk. -/
def Unlinked (d : Disk) : Prop :=
  ∀ place target, d.find? place ≠ some (.link target)

/-- The place to which a name goes, which is none for a name that counts for nothing. -/
theorem place_of_stride_on_eq (hname : name ≠ "") (h : d.stride here name = .on place) :
    place = (Path.Component.ofPiece? name).elim here (Path.Component.follow here) := by
  by_cases hcurrent : name = "."
  · rw [stride, if_pos hcurrent] at h
    cases h
    rw [hcurrent]
    rfl
  by_cases hparent : name = ".."
  · rw [stride, if_neg hcurrent, if_pos hparent] at h
    cases h
    rw [hparent]
    rfl
  · rw [place_of_stride_on hcurrent hparent h, Path.Component.ofPiece?, if_neg (by simp [hname, hcurrent]),
      if_neg hparent]
    rfl

/-- A walk that meets no link leads to the place that its names give. -/
theorem location_of_walk (hd : d.Unlinked) {follow : Bool} (hnames : ∀ name ∈ names, name ≠ "")
    (h : walk d follow n here names = .ok found) :
    found.location = (names.filterMap Path.Component.ofPiece?).foldl Path.Component.follow here := by
  rw [walk_eq_ok] at h
  induction h with
  | done hfound =>
    rw [← hfound]
    rfl
  | @on n here there name rest hstride _ ih =>
    obtain ⟨hname, hrest⟩ := List.forall_mem_cons.1 hnames
    rw [ih hrest, place_of_stride_on_eq hname hstride, List.filterMap_cons]
    cases Path.Component.ofPiece? name <;> rfl
  | @last n here name e hstride =>
    obtain ⟨hname, -⟩ := stride_eq_last hstride
    have hpiece : Path.Component.ofPiece? name = some (.named name) := by
      simp [Path.Component.ofPiece?, hnames, hname.1, hname.2.1]
    rw [location_of_stride hstride, List.filterMap_cons_some hpiece]
    rfl
  | stop hstride => exact absurd (stride_eq_link hstride).2.2 (hd _ _)
  | link hstride => exact absurd (stride_eq_link hstride).2.2 (hd _ _)

/-- A path starts from where its head goes. -/
theorem start_eq_foldl (here : Location) (p : Path) :
    start here p = (Path.headComponents p.anatomy.1).foldl Path.Component.follow here := by
  cases habsolute : p.isAbsolute with
  | true =>
    obtain ⟨next, rest, hpieces⟩ := Path.pieces_of_isAbsolute habsolute
    simp [start, habsolute, Path.head_eq, hpieces, Path.headComponents, Path.Component.follow]
  | false =>
    have hstart : start here p = here := by simp [start, habsolute]
    rw [hstart, Path.head_eq, habsolute]
    split
    · rfl
    · rfl

/-- On a disk without links, a path leads to the place that it names. -/
theorem LeadsTo.eq_lexical (h : d.LeadsTo p place) (hd : d.Unlinked) :
    place = p.lexical d.workingDirectory := by
  obtain ⟨n, e, hwalk⟩ := h
  have hsteps : (steps p).filterMap Path.Component.ofPiece? =
      (Text.pieces '/' p.text).filterMap Path.Component.ofPiece? := by
    obtain ⟨final, hfinal, hends⟩ := steps_eq p
    rw [hfinal, List.filterMap_append, Disk.names, Path.filterMap_ofPiece?_filter]
    rcases hends with rfl | rfl
    · simp
    · simp [Path.Component.ofPiece?]
  have hnames : ∀ name ∈ steps p, name ≠ "" := by
    obtain ⟨final, hfinal, hends⟩ := steps_eq p
    intro name hname
    rw [hfinal] at hname
    rcases List.mem_append.1 hname with hname | hname
    · simpa using (List.mem_filter.1 hname).2
    · rcases hends with rfl | rfl
      · cases hname
      · rw [List.mem_singleton.1 hname]
        decide
  have hlocation : place = ((steps p).filterMap Path.Component.ofPiece?).foldl Path.Component.follow
      (start d.workingDirectory p) := location_of_walk hd hnames hwalk
  rw [hlocation, hsteps, Path.lexical, Path.components_eq, List.foldl_append, start_eq_foldl]

theorem Unlinked.of_entries (h : ∀ x ∈ d.entries, ∀ target, x.2 ≠ .link target) : d.Unlinked := by
  intro place target hlink
  unfold Disk.find? at hlink
  split at hlink
  · cases hlink
  · have hmem : (place, Entry.link target) ∈ d.entries := by
      obtain ⟨before, after, hentries, -⟩ := List.lookup_eq_some_iff.1 hlink
      simp [hentries]
    exact h _ hmem target rfl

/-- On a disk without links, all that changes below a directory lies below the place that the directory names,
    but for the directories on the way to it. -/
theorem ChangedBelow.lies {directory : Path} (h : d.ChangedBelow d' directory) (hd' : d'.Unlinked)
    (hworking : d'.workingDirectory = d.workingDirectory) (hchanged : ¬ d.SameAt d' place) :
    (∃ ahead, ahead ≠ [] ∧ place = directory.lexical d.workingDirectory ++ ahead) ∨
      ∃ front, front <+: directory.components ∧
        place = front.foldl Path.Component.follow d.workingDirectory := by
  obtain ⟨q, hleads, hq⟩ := h place hchanged
  have hplace : place = q.lexical d.workingDirectory := hworking ▸ hleads.eq_lexical hd'
  rcases hq with ⟨ahead, hne, hq⟩ | ⟨hbegins, -⟩
  · exact .inl ⟨ahead, hne, hplace.trans hq⟩
  · exact .inr ⟨q.components, hbegins, hplace⟩

end Disk
end Buildwright
