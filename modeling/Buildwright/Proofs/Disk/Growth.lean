-- SUMMARY: Writing to a disk whose entries all lie in directories: however it ends, nothing that was there is lost.
import Buildwright.Disk.Write
import Buildwright.Proofs.Disk.Search

/-!
# Growth

On a rooted disk, all entries lie in directories. A walk there ends at an entry, or at a free name in a
directory, so that a new entry takes the place of none and a directory that is touched was one before. Writing
therefore keeps all entries, up to the contents of files and the times, and keeps the disk rooted, whether or
not it ends well. A search finds all on a disk that has grown that it found before.
-/
namespace Buildwright.Disk

/-! ## Rooted disks -/

/-- There is a directory at a place. -/
def DirectoryAt (d : Disk) (place : Location) : Prop :=
  ∃ t, d.find? place = some (.directory t)

instance (d : Disk) (place : Location) : Decidable (d.DirectoryAt place) :=
  match h : d.find? place with
  | some (.directory t) => .isTrue ⟨t, h⟩
  | some (.file _) | some (.link _) | some .closed | none => .isFalse (by simp [DirectoryAt, h])

/-- A disk whose entries all lie in directories, and whose working directory is one. -/
structure Rooted (d : Disk) : Prop where
  parent : ∀ {place e}, d.find? place = some e → d.DirectoryAt place.dropLast
  working : d.DirectoryAt d.workingDirectory

/-- A rooted disk that has all entries of another, up to the contents of files and the times. -/
structure Grows (d d' : Disk) : Prop where
  extends_before : d.Extends d'
  rooted : d'.Rooted

variable {d d' d'' : Disk} {place here directory : Location} {name : String} {names : List String}
  {e : Entry} {found : Place} {follow : Bool} {p root : Path}

theorem directoryAt_nil (d : Disk) : d.DirectoryAt [] :=
  ⟨d.now, rfl⟩

theorem DirectoryAt.extends (h : d.DirectoryAt place) (hd : d.Extends d') : d'.DirectoryAt place := by
  obtain ⟨t, ht⟩ := h
  obtain ⟨e, he, halike⟩ := hd.find? ht
  cases halike with
  | directory _ t' => exact ⟨t', he⟩

theorem Rooted.of_entries (hentries : ∀ x ∈ d.entries, d.DirectoryAt x.1.dropLast)
    (hworking : d.DirectoryAt d.workingDirectory) : d.Rooted := by
  refine ⟨fun {place e} hplace => ?_, hworking⟩
  by_cases hnil : place = []
  · rw [hnil]
    exact directoryAt_nil d
  · exact hentries _ (mem_of_find? hnil hplace)

theorem Rooted.grows (h : d.Rooted) : d.Grows d :=
  ⟨.refl d, h⟩

theorem Grows.trans (h : d.Grows d') (h' : d'.Grows d'') : d.Grows d'' :=
  ⟨h.extends_before.trans h'.extends_before, h'.rooted⟩

/-- An entry that is put into a directory, at a free name or in place of an entry like it. -/
theorem Rooted.grows_put (h : d.Rooted) (hplace : place ≠ []) (hparent : d.DirectoryAt place.dropLast)
    (hold : ∀ old, d.find? place = some old → old.Alike e) : d.Grows (d.put place e) := by
  have hextends : d.Extends (d.put place e) := extends_put hplace hold
  refine ⟨hextends, ?_, h.working.extends hextends⟩
  intro place' e' he'
  rw [find?_put d hplace] at he'
  split at he'
  · next heq =>
    rw [heq]
    exact hparent.extends hextends
  · exact (h.parent he').extends hextends

theorem Rooted.grows_touchDirectory (h : d.Rooted) (hplace : d.DirectoryAt place) :
    d.Grows (d.touchDirectory place) := by
  unfold touchDirectory
  split
  · exact h.grows
  · next hne =>
    obtain ⟨t, ht⟩ := hplace
    refine h.grows_put hne (h.parent ht) fun old hold => ?_
    rw [ht] at hold
    cases hold
    exact .directory t d.now

theorem Rooted.grows_addIn (h : d.Rooted) (hdirectory : d.DirectoryAt directory)
    (hfree : d.find? (directory ++ [name]) = none) (e : Entry) : d.Grows (d.addIn directory name e) := by
  have hput : d.Grows (d.put (directory ++ [name]) e) := by
    refine h.grows_put (by simp) (by rwa [List.dropLast_concat]) fun old hold => ?_
    rw [hfree] at hold
    cases hold
  exact hput.trans (hput.rooted.grows_touchDirectory (hdirectory.extends hput.extends_before))

/-! ## Where walks end -/

/-- What a walk leads to lies on the disk: an entry as it is, or a free name in a directory. -/
def Lies (d : Disk) : Place → Prop
  | .present place e => d.find? place = some e
  | .absent directory name => d.DirectoryAt directory ∧ d.find? (directory ++ [name]) = none

/-- What a stride leads to lies on the disk. -/
def LiesAhead (d : Disk) : Stride → Prop
  | .on there => d.DirectoryAt there
  | .last found _ => d.Lies found
  | .tooLong => True
  | .link there target => d.find? there = some (.link target)

theorem Rooted.stride_lies (h : d.Rooted) (hhere : d.DirectoryAt here) (name : String) :
    d.LiesAhead (d.stride here name) := by
  by_cases hname : IsName name
  · rw [stride_of_isName hname]
    cases hentry : d.find? (here ++ [name]) with
    | none => exact ⟨hhere, hentry⟩
    | some e =>
      cases e with
      | directory t => exact ⟨t, hentry⟩
      | file f => exact hentry
      | closed => exact hentry
      | link target => exact hentry
  · rw [stride]
    split
    · exact hhere
    split
    · obtain ⟨t, ht⟩ := hhere
      exact h.parent ht
    · next hcurrent hparent =>
      rw [if_pos (Nat.lt_of_not_le fun hle => hname ⟨hcurrent, hparent, hle⟩)]
      trivial

theorem DirectoryAt.start (h : d.DirectoryAt here) (p : Path) : d.DirectoryAt (start here p) := by
  unfold Disk.start
  split
  · exact directoryAt_nil d
  · exact h

theorem Rooted.directoryAt_of_stride (h : d.Rooted) {there : Location} (hhere : d.DirectoryAt here)
    (hstride : d.stride here name = .on there) : d.DirectoryAt there := by
  have hlies := h.stride_lies hhere name
  rwa [hstride] at hlies

/-- A walk from a directory leads to what lies on the disk. -/
theorem Rooted.walk_lies (h : d.Rooted) {n : Nat} (hhere : d.DirectoryAt here)
    (hwalk : walk d follow n here names = .ok found) : d.Lies found := by
  rw [walk_eq_ok] at hwalk
  induction hwalk with
  | done hfound =>
    obtain ⟨t, ht⟩ := hhere
    rw [← hfound, Lies, ht, Option.getD_some]
  | on hstride _ ih => exact ih (h.directoryAt_of_stride hhere hstride)
  | @last n here name e hstride =>
    have hlies := h.stride_lies hhere name
    rwa [hstride] at hlies
  | stop hstride _ hfound =>
    rw [← hfound]
    exact (stride_eq_link hstride).2.2
  | @link n here there name rest target _ _ _ ih => exact ih (hhere.start target)

theorem Rooted.locateName_lies (h : d.Rooted) (hlocate : d.locateName p = .ok found) :
    d.Lies found := by
  obtain ⟨-, hwalk⟩ := locateName_eq_ok.1 hlocate
  exact h.walk_lies (h.working.start p) hwalk

theorem Rooted.resolve_lies (h : d.Rooted) (hresolve : d.resolve p = .ok (place, e)) :
    d.find? place = some e := by
  obtain ⟨-, hwalk⟩ := locate_eq_ok.1 (resolve_eq_ok.1 hresolve)
  exact h.walk_lies (h.working.start p) hwalk

theorem Rooted.fileToWrite_lies (h : d.Rooted) {n left : Nat} (hdirectory : d.DirectoryAt directory)
    (hfile : d.fileToWrite n left directory p = .ok found) : d.Lies found := by
  induction n generalizing left directory p with
  | zero => cases hfile
  | succ n ih =>
    obtain ⟨-, found', hwalk, hends⟩ := fileToWrite_eq_ok hfile
    have hlies := h.walk_lies (hdirectory.start p) hwalk
    rcases hends with rfl | ⟨place, target, left', rfl, -, hfile⟩
    · exact hlies
    · exact ih (h.parent hlies) hfile

theorem Rooted.placeToWrite_lies (h : d.Rooted) (hplace : d.placeToWrite p = .ok found) :
    d.Lies found :=
  h.fileToWrite_lies h.working (placeToWrite_eq_ok.1 hplace).2

/-! ## Single changes -/

theorem Rooted.grows_createDirectory (h : d.Rooted) (hcreate : d.createDirectory p = .ok d') :
    d.Grows d' := by
  obtain ⟨directory, name, hlocate, rfl⟩ := createDirectory_eq_ok.1 hcreate
  obtain ⟨hdirectory, hfree⟩ := h.locateName_lies hlocate
  exact h.grows_addIn hdirectory hfree _

theorem Rooted.grows_write (h : d.Rooted) {content : Bytes} (hwrite : d.write p content = .ok d') :
    d.Grows d' := by
  rcases write_eq_ok.1 hwrite with ⟨here, f, hfound, rfl⟩ | ⟨directory, name, hfound, rfl⟩
  · have hfile := h.placeToWrite_lies hfound
    have hne : here ≠ [] := by
      rintro rfl
      cases hfile
    refine h.grows_put hne (h.parent hfile) fun old hold => ?_
    rw [hfile] at hold
    cases hold
    exact .file f _
  · obtain ⟨hdirectory, hfree⟩ := h.placeToWrite_lies hfound
    exact h.grows_addIn hdirectory hfree _

/-! ## Changes that may stop halfway -/

/-- A computation under which a rooted disk grows, whether or not it ends well. -/
def Growing {α : Type} (m : DiskM α) : Prop :=
  ∀ d : Disk, d.Rooted → wp m (fun _ => d.Grows) (fun _ => d.Grows) d

namespace Growing

variable {α β : Type}

theorem pure (a : α) : Growing (Pure.pure a) :=
  fun _ hd => wp.pure hd.grows

theorem throw (e : IoError) : Growing (MonadExcept.throw e : DiskM α) :=
  fun _ hd => wp.throw hd.grows

theorem bind {m : DiskM α} {f : α → DiskM β} (hm : Growing m) (hf : ∀ a, Growing (f a)) :
    Growing (m >>= f) := by
  intro d hd
  refine wp.bind ((hm d hd).mono (fun a d' hgrows => ?_) fun _ _ hgrows => hgrows)
  exact (hf a d' hgrows.rooted).mono (fun _ _ => hgrows.trans) fun _ _ => hgrows.trans

theorem tryCatch {m : DiskM α} {handle : IoError → DiskM α} (hm : Growing m)
    (hhandle : ∀ e, Growing (handle e)) : Growing (MonadExcept.tryCatch m handle) := by
  intro d hd
  refine wp.tryCatch ((hm d hd).mono (fun _ _ hgrows => hgrows) fun e d' hgrows => ?_)
  exact (hhandle e d' hgrows.rooted).mono (fun _ _ => hgrows.trans) fun _ _ => hgrows.trans

theorem change {f : Disk → Except IoError Disk}
    (hf : ∀ d d', d.Rooted → f d = .ok d' → d.Grows d') : Growing (Disk.change f) :=
  fun d hd => wp.change (fun d' hd' => hf d d' hd hd') fun _ _ => hd.grows

theorem createDirectory (p : Path) : Growing (Disk.change (·.createDirectory p)) :=
  change fun _ _ hd => hd.grows_createDirectory

theorem get : Growing (get : DiskM Disk) :=
  fun _ hd => wp.run_ok rfl hd.grows

theorem unlessDirectory (p : Path) (e : IoError) : Growing (Disk.unlessDirectory p e) := by
  refine bind get fun d => ?_
  split
  · exact pure ()
  · exact throw e

/-- Directories are created from the innermost that is missing; the induction is on how many may be. -/
theorem createDirectoriesFrom (n : Nat) (p : Path) : Growing (Disk.createDirectoriesFrom n p) := by
  induction n generalizing p with
  | zero => exact pure ()
  | succ n ih =>
    refine tryCatch (createDirectory p) fun e => ?_
    split
    · cases p.parent? with
      | none => exact throw .noRoot
      | some parent =>
        exact bind (ih parent) fun _ => tryCatch (createDirectory p) (unlessDirectory p)
    · exact unlessDirectory p e

theorem writeWithDirectories (p : Path) (content : Bytes) :
    Growing (Disk.writeWithDirectories p content) := by
  have hwrite : Growing (Disk.change (·.write p content)) := change fun _ _ hd => hd.grows_write
  unfold Disk.writeWithDirectories
  split
  · next parent _ =>
    split
    · exact bind (createDirectoriesFrom _ parent) fun _ => hwrite
    · exact hwrite
  · exact hwrite

end Growing

/-! ## Searches on a disk that has grown -/

/-- A path leads to the same place, and to an entry like the one before. -/
theorem Grows.resolve (hd : d.Rooted) (h : d.Grows d') (hresolve : d.resolve p = .ok (place, e)) :
    ∃ e', d'.resolve p = .ok (place, e') ∧ e.Alike e' := by
  obtain ⟨hlength, hwalk⟩ := locate_eq_ok.1 (resolve_eq_ok.1 hresolve)
  obtain ⟨e', hwalk'⟩ := walk_extends h.extends_before hwalk
  rw [← h.extends_before.workingDirectory] at hwalk'
  have hresolve' : d'.resolve p = .ok (place, e') := resolve_eq_ok.2 (locate_eq_ok.2 ⟨hlength, hwalk'⟩)
  obtain ⟨e'', he'', halike⟩ := h.extends_before.find? (hd.resolve_lies hresolve)
  rw [h.rooted.resolve_lies hresolve'] at he''
  cases he''
  exact ⟨e', hresolve', halike⟩

theorem Grows.isDirectory (hd : d.Rooted) (h : d.Grows d') (hdirectory : d.isDirectory p = true) :
    d'.isDirectory p = true := by
  unfold Disk.isDirectory at hdirectory ⊢
  cases hresolve : d.resolve p with
  | error e =>
    rw [hresolve] at hdirectory
    cases hdirectory
  | ok result =>
    obtain ⟨place, e⟩ := result
    obtain ⟨e', hresolve', halike⟩ := h.resolve hd hresolve
    rw [hresolve] at hdirectory
    rw [hresolve']
    cases halike <;> first | rfl | cases hdirectory

section Search

variable (hformed : d.WellFormed) (hd : d.Rooted) (h : d.Grows d')

include hformed hd h in
/-- A directory shows all that it showed. -/
theorem Grows.readDirectory {shown : List (String × Entry)} (hread : d.readDirectory root = .ok shown) :
    ∃ shown', d'.readDirectory root = .ok shown' ∧
      ∀ name e, (name, e) ∈ shown → ∃ e', (name, e') ∈ shown' ∧ e.Alike e' := by
  obtain ⟨place, t, hresolve, rfl⟩ := readDirectory_eq_ok.1 hread
  obtain ⟨e', hresolve', halike⟩ := h.resolve hd hresolve
  cases halike with
  | directory _ t' =>
    refine ⟨_, readDirectory_eq_ok.2 ⟨place, t', hresolve', rfl⟩, fun name e hname => ?_⟩
    obtain ⟨e', he', halike⟩ := h.extends_before.find? (hformed.mem_entriesIn_iff.1 hname)
    exact ⟨e', mem_entriesIn.2 (mem_of_find? (by simp) he'), halike⟩

include hformed hd h in
/-- A search that goes at least as deep finds all that was found before. The induction is on the depth of
    the search before. -/
theorem Grows.filesWithin {extension : String} {n n' : Nat} (hn : n ≤ n') {files files' : List Path}
    (hfiles : d.filesWithin extension n root = .ok files)
    (hfiles' : d'.filesWithin extension n' root = .ok files') : files ⊆ files' := by
  induction n generalizing root n' files files' with
  | zero =>
    cases hfiles
    exact List.nil_subset _
  | succ n ih =>
    obtain ⟨n', rfl⟩ := Nat.exists_eq_add_of_le' hn
    rcases filesWithin_succ_eq_ok hfiles with ⟨rfl, -⟩ | ⟨shown, parts, hread, hparts, rfl⟩
    · exact List.nil_subset _
    obtain ⟨shown', hread', hshown⟩ := h.readDirectory hformed hd hread
    rcases filesWithin_succ_eq_ok hfiles' with ⟨-, hnone⟩ | ⟨_, parts', hread'', hparts', rfl⟩
    · exact absurd hread' (hnone shown')
    rw [hread'] at hread''
    cases hread''
    intro p hp
    obtain ⟨⟨name, e⟩, hname, part, hpart, hp⟩ := (mem_flatten_of_mapM hparts).1 hp
    obtain ⟨e', hname', halike⟩ := hshown name e hname
    obtain ⟨part', hpart'⟩ := exists_of_mapM_eq_ok hparts' hname'
    refine (mem_flatten_of_mapM hparts').2 ⟨_, hname', part', hpart', ?_⟩
    cases halike with
    | directory | closed => exact ih (Nat.le_of_succ_le_succ hn) hpart hpart' hp
    | file =>
      have hsame : part = part' := (Except.ok.inj hpart).symm.trans (Except.ok.inj hpart')
      rwa [← hsame]
    | link =>
      rw [← Except.ok.inj hpart] at hp
      cases hp

include hformed h in
theorem Grows.depth_le : d.depth ≤ d'.depth := by
  have hplaces : ∀ x ∈ d.entries, x.1.length < d'.depth := by
    rintro ⟨place, e⟩ hmem
    by_cases hplace : place = []
    · rw [hplace]
      exact Nat.succ_pos _
    · obtain ⟨e', he', -⟩ := h.extends_before.find? (hformed.find?_of_mem hplace hmem)
      exact length_lt_depth (mem_of_find? hplace he')
  exact depth_le_iff.2 ⟨Nat.succ_pos _, hplaces⟩

include hformed hd h in
/-- A search by extension finds all that it found before. -/
theorem Grows.filesWithExtension {extension : String} {files files' : List Path}
    (hfiles : d.filesWithExtension root extension = .ok files)
    (hfiles' : d'.filesWithExtension root extension = .ok files') : files ⊆ files' := by
  unfold Disk.filesWithExtension at hfiles hfiles'
  split at hfiles
  · next hdirectory =>
    rw [if_pos (h.isDirectory hd hdirectory)] at hfiles'
    obtain ⟨found, hfound, rfl⟩ := map_eq_ok.1 hfiles
    obtain ⟨found', hfound', rfl⟩ := map_eq_ok.1 hfiles'
    have hsubset := h.filesWithin hformed hd (h.depth_le hformed) hfound hfound'
    intro p hp
    exact (sortPaths_perm found').mem_iff.2 (hsubset ((sortPaths_perm found).mem_iff.1 hp))
  · cases hfiles
    exact List.nil_subset _

end Search

end Buildwright.Disk
