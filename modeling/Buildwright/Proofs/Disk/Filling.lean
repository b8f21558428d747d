-- SUMMARY: Writing files where nothing lies: in the end there are the files and their directories, and nothing else.
import Buildwright.Proofs.Disk.Components
import Buildwright.Proofs.Disk.Inside

/-!
# Filling an empty place

A directory is empty, or is yet to be created under names none of which is taken. Files are written below
it, each with its directories. At every point, what is new on the disk are files at the places that their
names say, and directories on the way to them. As nothing was there, nothing else is there in the end.
-/
namespace Buildwright.Disk

variable {before d d' : Disk} {here place : Location} {targets : List Location} {target names : List String}
  {root base p q : Path} {content : Bytes} {e : Entry}

/-! ## Places that are taken once -/

theorem mem_places_putEntry {es : List (Location × Entry)} {other : Location}
    (h : other ∈ (putEntry place e es).map (·.1)) : other = place ∨ other ∈ es.map (·.1) := by
  induction es with
  | nil => exact .inl (List.mem_singleton.1 h)
  | cons x rest ih =>
    rw [putEntry] at h
    split at h
    · rcases List.mem_cons.1 h with heq | h
      · exact .inl heq
      · exact .inr (List.mem_cons_of_mem _ h)
    · rcases List.mem_cons.1 h with rfl | h
      · exact .inr List.mem_cons_self
      · exact (ih h).imp_right (List.mem_cons_of_mem _)

theorem nodup_places_putEntry {es : List (Location × Entry)} (h : (es.map (·.1)).Nodup) :
    ((putEntry place e es).map (·.1)).Nodup := by
  induction es with
  | nil => exact List.nodup_singleton place
  | cons x rest ih =>
    obtain ⟨hx, hrest⟩ := List.nodup_cons.1 h
    rw [putEntry]
    split
    · next hplace =>
      rw [List.map_cons, ← hplace]
      exact h
    · next hplace =>
      refine List.nodup_cons.2 ⟨fun hmem => ?_, ih hrest⟩
      exact (mem_places_putEntry hmem).elim hplace hx

/-- No place is taken twice. -/
def NodupPlaces (d : Disk) : Prop :=
  (d.entries.map (·.1)).Nodup

theorem NodupPlaces.put (h : d.NodupPlaces) (place : Location) (e : Entry) : (d.put place e).NodupPlaces :=
  nodup_places_putEntry h

theorem NodupPlaces.touchDirectory (h : d.NodupPlaces) (place : Location) :
    (d.touchDirectory place).NodupPlaces := by
  unfold Disk.touchDirectory
  split
  · exact h
  · exact h.put place _

theorem NodupPlaces.addIn (h : d.NodupPlaces) (directory : Location) (name : String) (e : Entry) :
    (d.addIn directory name e).NodupPlaces :=
  (h.put _ e).touchDirectory directory

theorem NodupPlaces.createDirectory (h : d.NodupPlaces) (hcreate : d.createDirectory p = .ok d') :
    d'.NodupPlaces := by
  obtain ⟨directory, name, -, rfl⟩ := createDirectory_eq_ok.1 hcreate
  exact h.addIn directory name _

theorem NodupPlaces.write (h : d.NodupPlaces) (hwrite : d.write p content = .ok d') : d'.NodupPlaces := by
  rcases write_eq_ok.1 hwrite with ⟨place, f, -, rfl⟩ | ⟨directory, name, -, rfl⟩
  · exact h.put place _
  · exact h.addIn directory name _

/-! ## Vacant directories -/

/-- A path for a directory with nothing in it: a beginning of the path leads to a directory, where no entry
    lies along the names that follow or below them. -/
structure Vacant (d : Disk) (root base : Path) (here : Location) (ahead : List String) : Prop where
  components_eq : root.components = base.components ++ ahead.map .named
  leads : d.LeadsTo base here
  directory : d.DirectoryAt here
  free : ∀ names, names ≠ [] → names <+: ahead ∨ ahead <+: names → d.find? (here ++ names) = none

/-- A path of an empty directory, or of one that is yet to be created: it goes on from a directory that is
    there along names, of which the first is free. -/
inductive Clear (d : Disk) (root : Path) : Prop where
  | empty {place : Location} (h : d.LeadsToEmpty root place)
  | absent {base : Path} {here : Location} {name : String} {rest : List String}
      (hcomponents : root.components = base.components ++ (name :: rest).map .named)
      (hleads : d.LeadsTo base here) (hdirectory : d.DirectoryAt here)
      (hfree : d.find? (here ++ [name]) = none)

theorem Clear.exists_vacant (h : d.Clear root) (hd : d.Rooted) :
    ∃ base here ahead, d.Vacant root base here ahead := by
  cases h with
  | @empty place h =>
    obtain ⟨t, hresolve⟩ := h.resolve_eq
    refine ⟨root, place, [], by simp, leadsTo_of_resolve hresolve, ⟨t, hd.resolve_lies hresolve⟩, ?_⟩
    exact fun names hne _ => h.find?_eq names hne
  | @absent base here name rest hcomponents hleads hdirectory hfree =>
    refine ⟨base, here, name :: rest, hcomponents, hleads, hdirectory, fun names hne hnames => ?_⟩
    obtain ⟨first, others, rfl⟩ := List.exists_cons_of_ne_nil hne
    obtain rfl : first = name := by
      rcases hnames with h | h
      · exact (List.cons_prefix_cons.1 h).1
      · exact (List.cons_prefix_cons.1 h).1.symm
    refine hd.find?_below hfree ?_
    rw [List.prefix_append_right_inj]
    exact List.cons_prefix_cons.2 ⟨rfl, List.nil_prefix⟩

theorem Clear.text_ne (h : d.Clear root) : root.text ≠ "" := by
  cases h with
  | empty h =>
    obtain ⟨t, hresolve⟩ := h.resolve_eq
    exact text_ne_of_resolve hresolve
  | absent hcomponents =>
    intro hempty
    rw [Path.components_of_text_eq hempty] at hcomponents
    simp at hcomponents

/-- Names lead on the way to one of the targets, but not all the way. -/
def OnTheWay (targets : List (List String)) (names : List String) : Prop :=
  ∃ target ∈ targets, names <+: target ∧ names ≠ target

/-- Targets that all begin with some names are reached on the way behind these. -/
theorem OnTheWay.behind {ahead : List String} (h : OnTheWay (targets.map (ahead ++ ·)) (ahead ++ names)) :
    OnTheWay targets names := by
  obtain ⟨target, htarget, hnames, hother⟩ := h
  obtain ⟨rest, hrest, rfl⟩ := List.mem_map.1 htarget
  exact ⟨rest, hrest, (List.prefix_append_right_inj ahead).1 hnames, fun heq => hother (by rw [heq])⟩

theorem mem_targets_behind {ahead : List String} (htarget : target ∈ targets.map (ahead ++ ·))
    (heq : here ++ ahead ++ names = here ++ target) : names ∈ targets := by
  obtain ⟨rest, hrest, rfl⟩ := List.mem_map.1 htarget
  rw [List.append_assoc] at heq
  exact List.append_cancel_left (List.append_cancel_left heq) ▸ hrest

/-- What is new on a disk since another: files at targets from a directory, and directories on the way to
    them. -/
structure Filled (before d : Disk) (here : Location) (targets : List (List String)) : Prop where
  grows : before.Grows d
  nodup : d.NodupPlaces
  changed : ∀ place, ¬ before.SameAt d place →
    (d.DirectoryAt place ∧ ∃ names, place = here ++ names ∧ OnTheWay targets names) ∨
      ∃ f, d.find? place = some (.file f) ∧ ∃ target ∈ targets, place = here ++ target

theorem Filled.start (hd : before.Rooted) (hnodup : before.NodupPlaces) :
    before.Filled before here targets :=
  ⟨hd.grows, hnodup, fun _ hchanged => absurd rfl hchanged⟩

/-- A change at one place more. -/
theorem Filled.step (h : before.Filled d here targets) (hgrows : d.Grows d') (hnodup : d'.NodupPlaces)
    (hother : ∀ other, other ≠ place → d.SameAt d' other)
    (hplace : (d'.DirectoryAt place ∧ ∃ names, place = here ++ names ∧ OnTheWay targets names) ∨
      ∃ f, d'.find? place = some (.file f) ∧ ∃ target ∈ targets, place = here ++ target) :
    before.Filled d' here targets := by
  refine ⟨h.grows.trans hgrows, hnodup, fun other hchanged => ?_⟩
  by_cases heq : other = place
  · exact heq ▸ hplace
  · have hsame := hother other heq
    refine (h.changed other fun hearlier => hchanged (hearlier.trans hsame)).imp ?_ ?_
    · rintro ⟨hdirectory, hnames⟩
      exact ⟨hdirectory.extends hgrows.extends_before, hnames⟩
    · rintro ⟨f, hfile, htarget⟩
      exact ⟨f, (hsame.filesAgree f).2 hfile, htarget⟩

section Steps

variable (h : before.Filled d here targets) (hd : before.Rooted) (hbase : before.LeadsTo base here)
  (hhere : before.DirectoryAt here)
  (hfree : ∀ target ∈ targets, ∀ names, names ≠ [] → names <+: target → before.find? (here ++ names) = none)

include h in
/-- What lies where nothing was is new. -/
theorem Filled.changed_of_find? (hnone : before.find? place = none) (hentry : d.find? place = some e) :
    (∃ t, e = .directory t) ∧ (∃ names, place = here ++ names ∧ OnTheWay targets names) ∨
      ∃ f, e = .file f ∧ ∃ target ∈ targets, place = here ++ target := by
  have hchanged : ¬ before.SameAt d place := by
    intro hsame
    rw [SameAt, hnone, hentry] at hsame
    cases hsame
  rcases h.changed place hchanged with ⟨⟨t, ht⟩, hnames⟩ | ⟨f, hf, htarget⟩
  · rw [ht] at hentry
    cases hentry
    exact .inl ⟨⟨t, rfl⟩, hnames⟩
  · rw [hf] at hentry
    cases hentry
    exact .inr ⟨f, rfl, htarget⟩

include h in
theorem Filled.ne_link_of_free (hnone : before.find? place = none) (link : Path) :
    d.find? place ≠ some (.link link) := by
  intro hlink
  rcases h.changed_of_find? hnone hlink with ⟨⟨t, ht⟩, -⟩ | ⟨f, hf, -⟩
  · cases ht
  · cases hf

include h hd hbase hhere hfree in
/-- A directory that is created with those of a target lies on the way there. -/
theorem Filled.createDirectory (htarget : target ∈ targets)
    (hq : q.components <+: base.components ++ target.map .named)
    (hproper : q.components ≠ base.components ++ target.map .named)
    (hcreate : d.createDirectory q = .ok d') : before.Filled d' here targets := by
  have hgrows := h.grows.rooted.grows_createDirectory hcreate
  obtain ⟨place, hleads, hnew, hdirectory, hother⟩ := h.grows.rooted.leadsTo_createDirectory hcreate
  obtain ⟨front, name, hname⟩ :=
    exists_components_concat_of_createDirectory h.grows.rooted hcreate
  have hextends := h.grows.extends_before.trans hgrows.extends_before
  refine h.step hgrows (h.nodup.createDirectory hcreate) hother (.inl ⟨hdirectory, ?_⟩)
  rcases Path.cases_of_prefix hq with hshort | ⟨names, hne, hnames, hcomponents⟩
  · -- The directories up to the beginning have been there all the time.
    obtain ⟨top, htop, t, ht⟩ := hbase.exists_of_prefix hd hhere hshort (by simp [hname])
    obtain rfl := (htop.extends hextends).unique hleads
    obtain ⟨e, he, -⟩ := h.grows.extends_before.find? ht
    rw [hnew] at he
    cases he
  · have hlinks : ∀ pre link, pre <+: names → pre ≠ [] → d'.find? (here ++ pre) ≠ some (.link link) := by
      intro pre link hpre hpre' hlink
      have hnone := hfree target htarget pre hpre' (hpre.trans hnames)
      exact h.ne_link_of_free hnone link
        ((h.grows.rooted.growsUnlinked_createDirectory hcreate).link_before hlink)
    obtain rfl : place = here ++ names :=
      (hbase.extends hextends).eq_append hgrows.rooted (hhere.extends hextends) hcomponents hlinks hleads
    refine ⟨names, rfl, target, htarget, hnames, ?_⟩
    rintro rfl
    exact hproper hcomponents

include h hbase hhere hfree in
/-- A file that is written under the path of a target lies there. -/
theorem Filled.write (htarget : target ∈ targets) (hp : p.components = base.components ++ target.map .named)
    (hwrite : d.write p content = .ok d') : before.Filled d' here targets := by
  have hgrows := h.grows.rooted.grows_write hwrite
  obtain ⟨place, f, hresolve, -, hother⟩ := h.grows.rooted.resolve_write hwrite
  have hfile : d'.find? place = some (.file f) := hgrows.rooted.resolve_lies hresolve
  have hextends := h.grows.extends_before.trans hgrows.extends_before
  have hlinks : ∀ pre link, pre <+: target → pre ≠ [] → d'.find? (here ++ pre) ≠ some (.link link) := by
    intro pre link hpre hpre' hlink
    have hnone := hfree target htarget pre hpre' hpre
    exact h.ne_link_of_free hnone link ((h.grows.rooted.growsUnlinked_write hwrite).link_before hlink)
  obtain rfl : place = here ++ target := (hbase.extends hextends).eq_append hgrows.rooted
    (hhere.extends hextends) hp hlinks (leadsTo_of_resolve hresolve)
  exact h.step hgrows (h.nodup.write hwrite) hother (.inr ⟨f, hfile, target, htarget, rfl⟩)

include h hd hbase hhere hfree in
theorem Filled.wp_writeWithDirectories (htarget : target ∈ targets)
    (hp : p.components = base.components ++ target.map .named) :
    wp (writeWithDirectories p content) (fun _ d' => before.Filled d' here targets) (fun _ _ => True) d := by
  have hparent : ∀ {q parent : Path} {c : Path.Component},
      q.components ++ [c] <+: base.components ++ target.map .named → q.parent? = some parent →
      ∃ c', parent.components ++ [c'] <+: base.components ++ target.map .named := by
    intro q parent c hq hup
    obtain ⟨last, hlast⟩ := Path.exists_components_of_parent? hup
    exact ⟨last, hlast ▸ (List.prefix_append _ [c]).trans hq⟩
  refine (Disk.wp_writeWithDirectories (I := fun d₁ => before.Filled d₁ here targets)
    (P := fun q => ∃ c, q.components ++ [c] <+: base.components ++ target.map .named) ?_
    (fun _ _ _ _ _ ⟨_, hq⟩ _ _ hup => hparent hq hup) ?_ h).mono ?_ fun _ _ _ => trivial
  · rintro d₁ q d₂ h₁ ⟨c, hq⟩ hcreate
    refine h₁.createDirectory hd hbase hhere hfree htarget ((List.prefix_append _ [c]).trans hq) ?_ hcreate
    intro heq
    have hlength := hq.length_le
    rw [heq, List.length_append, List.length_singleton] at hlength
    omega
  · intro parent hup
    obtain ⟨last, hlast⟩ := Path.exists_components_of_parent? hup
    exact ⟨last, by rw [← hlast, hp]⟩
  · rintro _ d' ⟨d₁, h₁, hwrite⟩
    exact h₁.write hbase hhere hfree htarget hp hwrite

end Steps

/-- A disk that is filled with places of plain names is well formed if it was so before. -/
theorem Filled.wellFormed (h : before.Filled d here targets) (hd : before.WellFormed)
    (hhere : before.DirectoryAt here) (hplain : ∀ target ∈ targets, ∀ name ∈ target, Plain name) :
    d.WellFormed := by
  have hold : ∀ place e, before.find? place = some e → ∀ name ∈ place, Plain name := by
    intro place e he name hname
    have hne : place ≠ [] := List.ne_nil_of_mem hname
    exact hd.plain place (List.mem_map_of_mem (mem_of_find? hne he)) name hname
  have hnew : ∀ target ∈ targets, ∀ names, names <+: target → ∀ name ∈ here ++ names, Plain name := by
    obtain ⟨t, ht⟩ := hhere
    intro target htarget names hnames name hname
    rcases List.mem_append.1 hname with hname | hname
    · exact hold here _ ht name hname
    · exact hplain target htarget name (hnames.subset hname)
  refine ⟨h.nodup, fun place hplace name hname => ?_⟩
  have hne : place ≠ [] := List.ne_nil_of_mem hname
  by_cases hchanged : before.SameAt d place
  · obtain ⟨⟨place', e⟩, hmem, rfl⟩ := List.mem_map.1 hplace
    have hlookup : (d.find? place').isSome = true := by
      rw [Disk.find?, if_neg hne, List.lookup_isSome_iff]
      exact ⟨_, hmem, by simp⟩
    obtain ⟨e', he'⟩ := Option.isSome_iff_exists.1 hlookup
    rw [SameAt, he'] at hchanged
    obtain ⟨old, hold', -⟩ := Option.map_eq_some_iff.1 hchanged.symm
    exact hold place' old hold' name hname
  · rcases h.changed place hchanged with
      ⟨-, names, rfl, target, htarget, hnames, -⟩ | ⟨-, -, target, htarget, rfl⟩
    · exact hnew target htarget names hnames name hname
    · exact hnew target htarget target (List.prefix_refl _) name hname

/-! ## What lies below a directory in the end -/

/-- A path leads to a place, if anywhere, and from there all names lead to a file if they are targets, or to
    a directory if they are on the way to one. -/
structure LaidOut (d : Disk) (root : Path) (top : Location) (targets : List (List String)) : Prop where
  leads : ∀ place, d.LeadsTo root place → place = top
  directory : ∀ e, d.find? top = some e → ∃ t, e = .directory t
  only : ∀ names e, names ≠ [] → d.find? (top ++ names) = some e →
    ((∃ t, e = .directory t) ∧ OnTheWay targets names) ∨ ∃ f, e = .file f ∧ names ∈ targets

theorem LaidOut.noLinksBelow {top : Location} (h : d.LaidOut root top targets) : d.NoLinksBelow root := by
  intro place hleads names link hlink
  obtain rfl := h.leads place hleads
  by_cases hne : names = []
  · rw [hne, List.append_nil] at hlink
    obtain ⟨t, ht⟩ := h.directory _ hlink
    cases ht
  · rcases h.only names _ hne hlink with ⟨⟨t, ht⟩, -⟩ | ⟨f, hf, -⟩
    · cases ht
    · cases hf

section Vacant

variable {ahead : List String} (hv : before.Vacant root base here ahead)

include hv in
theorem Vacant.free_along (htarget : target ∈ targets.map (ahead ++ ·)) (hne : names ≠ [])
    (hnames : names <+: target) : before.find? (here ++ names) = none := by
  obtain ⟨rest, -, rfl⟩ := List.mem_map.1 htarget
  refine hv.free names hne ?_
  exact List.prefix_or_prefix_of_prefix hnames (List.prefix_append _ _)

include hv in
/-- What a vacant directory is filled with is laid out there. -/
theorem Vacant.laidOut (h : before.Filled d here (targets.map (ahead ++ ·)))
    (hne : ∀ target ∈ targets, target ≠ []) : d.LaidOut root (here ++ ahead) targets := by
  have hahead : ahead ≠ [] → before.find? (here ++ ahead) = none :=
    fun hne => hv.free ahead hne (.inl (List.prefix_refl _))
  constructor
  case leads =>
    intro place hleads
    refine (hv.leads.extends h.grows.extends_before).eq_append h.grows.rooted
      (hv.directory.extends h.grows.extends_before) hv.components_eq (fun pre link hpre hpre' => ?_) hleads
    exact h.ne_link_of_free (hv.free pre hpre' (.inl hpre)) link
  case directory =>
    intro e he
    by_cases hnil : ahead = []
    · obtain ⟨t, ht⟩ := hv.directory.extends h.grows.extends_before
      rw [hnil, List.append_nil, ht] at he
      cases he
      exact ⟨t, rfl⟩
    · rcases h.changed_of_find? (hahead hnil) he with ⟨hdirectory, -⟩ | ⟨f, -, target, htarget, heq⟩
      · exact hdirectory
      · rw [← List.append_nil (here ++ ahead)] at heq
        exact absurd rfl (hne [] (mem_targets_behind htarget heq))
  case only =>
    intro names e hnames he
    have hnone : before.find? (here ++ ahead ++ names) = none := by
      rw [List.append_assoc]
      exact hv.free _ (by simp [hnames]) (.inr (List.prefix_append _ _))
    rcases h.changed_of_find? hnone he with ⟨hdirectory, others, heq, hothers⟩ | ⟨f, hf, target, htarget, heq⟩
    · rw [List.append_assoc] at heq
      exact .inl ⟨hdirectory, .behind (List.append_cancel_left heq ▸ hothers)⟩
    · exact .inr ⟨f, hf, mem_targets_behind htarget heq⟩

include hv in
/-- Files that are written in turn below a vacant directory fill it with their places. -/
theorem Vacant.wp_writeAll (hd : before.Rooted) {es : List (String × Bytes)}
    (hplain : ∀ e ∈ es, PlainPath e.1) (hes : ∀ e ∈ es, Disk.names ⟨e.1⟩ ∈ targets)
    (h : before.Filled d here (targets.map (ahead ++ ·))) :
    wp (es.forM fun e => writeWithDirectories (root.join ⟨e.1⟩) e.2)
      (fun _ d' => before.Filled d' here (targets.map (ahead ++ ·))) (fun _ _ => True) d := by
  refine wp.forM_keeps (fun e he d h => ?_) h
  obtain ⟨names, hne, hnames, hpath⟩ := hplain e he
  have hcomponents : (root.join ⟨e.1⟩).components =
      base.components ++ (ahead ++ Disk.names ⟨e.1⟩).map .named := by
    rw [hpath, names_joined hnames hne, List.map_append, ← List.append_assoc, ← hv.components_eq]
    exact Path.components_below root hnames hne
  exact h.wp_writeWithDirectories hd hv.leads hv.directory
    (fun target htarget names hne hnames => hv.free_along htarget hne hnames)
    (List.mem_map_of_mem (hes e he)) hcomponents

end Vacant

end Buildwright.Disk
