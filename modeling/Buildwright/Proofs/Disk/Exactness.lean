-- SUMMARY: A scan finds exactly the files that are reached from its root, once and in order, whichever way directories list their entries.
import Buildwright.Proofs.Disk.Reaching

/-!
# Exactness of scans

Reading a directory fails if its path has become too long or the directory is closed, and a scan ends with
that failure. If it can read every directory that it comes to, it finds the files that are reached from its
root and have the extension, all of them, each once and in the order of their paths. It never comes to the
end of the depth that it is given, and the order in which directories list their entries does not matter.
-/
namespace Buildwright

namespace Disk

variable {d d' : Disk} {place : Location} {name extension : String} {names : List String} {e : Entry}
  {p root : Path} {t : Int} {n : Nat}

/-! ## How a search ends -/

/-- What the end of a search tells: that all directories below a path can be read, or which one cannot. -/
def Accounts (d : Disk) (root : Path) (place : Location) : Except IoError (List Path) → Prop
  | .ok _ => d.AllReadable root place
  | .error error => ∃ names e, d.Reaches place names e ∧ e.isDirectory = true ∧
      d.readDirectory (root.descend names) = .error error

/-- A search of a directory that cannot be read fails as the reading does. -/
theorem accounts_of_error (hplace : d.find? place = some e) (hdirectory : e.isDirectory = true)
    (hpath : d.LeadsUnlessLong root place e) {error : IoError}
    (hread : d.readDirectory root = .error error) :
    d.Accounts root place (d.filesWithin extension (n + 1) root) := by
  rw [filesWithin_succ, hread]
  simp only
  rw [if_neg (hpath.kind_of_error hdirectory hread)]
  exact ⟨[], e, .here hplace, hdirectory, hread⟩

/-- What the searches of its entries tell is what the search of a directory tells. -/
theorem WellFormed.accounts_of_entries (hd : d.WellFormed)
    (hresolve : d.resolve root = .ok (place, .directory t))
    (hplace : d.find? place = some (.directory t))
    (hentries : ∀ name e, d.find? (place ++ [name]) = some e → e.isDirectory = true →
      d.Accounts (root.join ⟨name⟩) (place ++ [name]) (d.filesWithin extension n (root.join ⟨name⟩))) :
    d.Accounts root place (d.filesWithin extension (n + 1) root) := by
  have hread : d.readDirectory root = .ok (d.entriesIn place) :=
    readDirectory_eq_ok.2 ⟨place, t, hresolve, rfl⟩
  have hat : ∀ name e, e.isDirectory = true → d.filesAt extension n root (name, e) =
      d.filesWithin extension n (root.join ⟨name⟩) := by
    intro name e hdirectory
    cases e with
    | directory t' => rfl
    | closed => rfl
    | file f => cases hdirectory
    | link target => cases hdirectory
  rw [filesWithin_succ, hread]
  simp only
  cases hparts : (d.entriesIn place).mapM (d.filesAt extension n root) with
  | ok parts =>
    show d.AllReadable root place
    intro names e hreaches hdirectory
    cases hreaches with
    | here => exact ⟨_, hread⟩
    | @deeper _ name rest _ _ _ hrest =>
      obtain ⟨e', he', hdirectory'⟩ := hrest.exists_directory hdirectory
      obtain ⟨part, hpart⟩ := exists_of_mapM_eq_ok hparts (hd.mem_entriesIn_iff.2 he')
      rw [hat name e' hdirectory'] at hpart
      have hbelow := hentries name e' he' hdirectory'
      rw [hpart] at hbelow
      exact hbelow rest e hrest hdirectory
  | error error =>
    obtain ⟨⟨name, e⟩, hentry, hfails⟩ := exists_of_mapM_eq_error hparts
    have he := hd.mem_entriesIn_iff.1 hentry
    have hdirectory : e.isDirectory = true := by
      cases e with
      | directory t' => rfl
      | closed => rfl
      | file f => cases hfails
      | link target => cases hfails
    rw [hat name e hdirectory] at hfails
    have hbelow := hentries name e he hdirectory
    rw [hfails] at hbelow
    obtain ⟨names, e', hreaches, hdirectory', hread'⟩ := hbelow
    exact ⟨name :: names, e', .deeper hplace hreaches, hdirectory', hread'⟩

/-- The end of a search accounts for all directories below. The induction is on the depth that is left, which
    suffices as every step leads to a place that is one name deeper. -/
theorem WellFormed.accounts (hd : d.WellFormed) (hplace : d.find? place = some e)
    (hdirectory : e.isDirectory = true) (hpath : d.LeadsUnlessLong root place e)
    (hdepth : d.depth ≤ n + place.length) :
    d.Accounts root place (d.filesWithin extension n root) := by
  induction n generalizing root place e with
  | zero =>
    have hlt := find?_length_lt_depth hplace
    omega
  | succ n ih =>
    cases hread : d.readDirectory root with
    | error error => exact accounts_of_error hplace hdirectory hpath hread
    | ok found =>
      obtain ⟨t, hresolve, rfl, -⟩ := hpath.resolve_of_read hread
      refine hd.accounts_of_entries hresolve hplace fun name e' he' hdirectory' => ?_
      have hlink : ∀ target, e' ≠ .link target := by
        rintro target rfl
        cases hdirectory'
      refine ih he' hdirectory' (hd.leads_join hresolve he' hlink) ?_
      rw [List.length_append, List.length_singleton]
      omega

/-! ## The depth of a search -/

/-- More depth than suffices makes no difference to a search. -/
theorem WellFormed.filesWithin_eq (hd : d.WellFormed) {n' : Nat} (hpos : 0 < n) (hpos' : 0 < n')
    (hdepth : ∀ place t, d.resolve root = .ok (place, .directory t) → d.depth ≤ n + place.length)
    (hdepth' : ∀ place t, d.resolve root = .ok (place, .directory t) → d.depth ≤ n' + place.length) :
    d.filesWithin extension n root = d.filesWithin extension n' root := by
  induction n generalizing root n' with
  | zero => cases hpos
  | succ n ih =>
    cases n' with
    | zero => cases hpos'
    | succ n' =>
      rw [filesWithin_succ, filesWithin_succ]
      cases hread : d.readDirectory root with
      | error error => rfl
      | ok found =>
        obtain ⟨place, t, hresolve, rfl⟩ := readDirectory_eq_ok.1 hread
        have hparts : ∀ x ∈ d.entriesIn place,
            d.filesAt extension n root x = d.filesAt extension n' root x := by
          rintro ⟨name, e⟩ hentry
          have hlt := length_lt_depth (mem_entriesIn.1 hentry)
          rw [List.length_append, List.length_singleton] at hlt
          have hle := hdepth place t hresolve
          have hle' := hdepth' place t hresolve
          have hsearch : (∀ target, e ≠ .link target) →
              d.filesWithin extension n (root.join ⟨name⟩) =
                d.filesWithin extension n' (root.join ⟨name⟩) := fun hlink =>
            ih (by omega) (by omega)
              (fun _ _ => hd.depth_le_join hresolve hle hentry hlink)
              fun _ _ => hd.depth_le_join hresolve hle' hentry hlink
          cases e with
          | directory t' => exact hsearch (by simp)
          | closed => exact hsearch (by simp)
          | file f => rfl
          | link target => rfl
        simp only [mapM_congr hparts]

/-! ## Files that are found -/

/-- A file that lies below the path of a directory is reached from its place. -/
theorem FileBelow.exists_reaches (hd : d.WellFormed) (hrooted : d.Rooted) (h : d.FileBelow root p)
    (hresolve : d.resolve root = .ok (place, .directory t)) :
    ∃ names f, d.Reaches place names (.file f) ∧ p = root.descend names := by
  induction h generalizing place t with
  | @here root found name f hread hname =>
    obtain ⟨place', t', hresolve', rfl⟩ := readDirectory_eq_ok.1 hread
    rw [hresolve] at hresolve'
    cases hresolve'
    exact ⟨[name], f, .deeper (hrooted.resolve_lies hresolve) (.here (hd.mem_entriesIn_iff.1 hname)), rfl⟩
  | @deeper root p found name t' hread hname hp ih =>
    obtain ⟨place', t'', hresolve', rfl⟩ := readDirectory_eq_ok.1 hread
    rw [hresolve] at hresolve'
    cases hresolve'
    obtain ⟨place', t'', hbelow⟩ := hp.exists_resolve
    obtain ⟨rfl, -⟩ := Prod.mk.inj (hd.resolve_join hresolve hname (by simp) hbelow)
    obtain ⟨names, f, hreaches, rfl⟩ := ih hbelow
    exact ⟨name :: names, f, .deeper (hrooted.resolve_lies hresolve) hreaches, rfl⟩

/-- A file that is reached lies below the path of the directory, if the directories below can be read. -/
theorem Reaches.fileBelow (hd : d.WellFormed) {f : File} (h : d.Reaches place names (.file f))
    (hne : names ≠ []) (hresolve : d.resolve root = .ok (place, .directory t))
    (hreadable : d.AllReadable root place) : d.FileBelow root (root.descend names) := by
  generalize hfile : Entry.file f = e at h
  induction h generalizing root t with
  | here => exact absurd rfl hne
  | @deeper place name rest t' e hplace hrest ih =>
    have hread : d.readDirectory root = .ok (d.entriesIn place) :=
      readDirectory_eq_ok.2 ⟨place, t, hresolve, rfl⟩
    cases hrest with
    | here hlast =>
      subst hfile
      exact .here hread (hd.mem_entriesIn_iff.2 hlast)
    | @deeper _ _ _ t'' _ hdirectory hrest =>
      obtain ⟨found, hread'⟩ := hreadable [name] _ (.deeper hplace (.here hdirectory)) rfl
      obtain ⟨t₁, hresolve', -, -⟩ :=
        (hd.leads_join hresolve hdirectory (by simp)).resolve_of_read hread'
      exact .deeper hread (hd.mem_entriesIn_iff.2 hdirectory)
        (ih (by simp) hresolve' (hreadable.join hplace) hfile)

/-- The files below a directory, all of whose directories can be read, are those that are reached from its
    place. -/
theorem WellFormed.fileBelow_iff_reaches (hd : d.WellFormed) (hrooted : d.Rooted)
    (hresolve : d.resolve root = .ok (place, .directory t)) (hreadable : d.AllReadable root place) :
    d.FileBelow root p ↔ ∃ names f, d.Reaches place names (.file f) ∧ p = root.descend names := by
  constructor
  · exact fun h => h.exists_reaches hd hrooted hresolve
  · rintro ⟨names, f, hreaches, rfl⟩
    refine hreaches.fileBelow hd ?_ hresolve hreadable
    rintro rfl
    have hfile := hreaches.find?
    rw [List.append_nil, hrooted.resolve_lies hresolve] at hfile
    cases hfile

/-! ## The order of files -/

theorem insertPath_ordered {ps : List Path} (h : ps.Pairwise fun p q => (compare p q).isLE) :
    (insertPath p ps).Pairwise fun p q => (compare p q).isLE := by
  induction ps with
  | nil => exact List.pairwise_singleton _ p
  | cons q rest ih =>
    obtain ⟨hq, hrest⟩ := List.pairwise_cons.1 h
    rw [insertPath]
    split
    · next hgreater =>
      refine List.pairwise_cons.2 ⟨fun r hr => ?_, ih hrest⟩
      rcases List.mem_cons.1 ((insertPath_perm p rest).mem_iff.1 hr) with rfl | hr
      · have hswap : compare q r = (compare r q).swap := Std.OrientedCmp.eq_swap
        rw [hswap, hgreater]
        rfl
      · exact hq r hr
    · next hless =>
      have hpq : (compare p q).isLE := by
        cases hcompare : compare p q with
        | gt => exact absurd hcompare hless
        | lt => rfl
        | eq => rfl
      refine List.pairwise_cons.2 ⟨fun r hr => ?_, h⟩
      rcases List.mem_cons.1 hr with rfl | hr
      · exact hpq
      · exact Std.TransCmp.isLE_trans hpq (hq r hr)

theorem sortPaths_ordered (ps : List Path) : (sortPaths ps).Pairwise fun p q => (compare p q).isLE := by
  induction ps with
  | nil => exact .nil
  | cons p rest ih => exact insertPath_ordered ih

/-- Distinct files below a directory differ in their components. -/
theorem WellFormed.eq_of_compare (hd : d.WellFormed) {q : Path} (hp : d.FileBelow root p)
    (hq : d.FileBelow root q) (h : compare p q = .eq) : p = q := by
  obtain ⟨names, hne, hplain, hpieces⟩ := hd.exists_pieces hp
  obtain ⟨names', hne', hplain', hpieces'⟩ := hd.exists_pieces hq
  have hcomponents := Path.compare_eq_iff.1 h
  rw [Path.components_of_front hp.text_ne hpieces hne, Path.components_of_front hp.text_ne hpieces' hne',
    filterMap_ofPiece?_of_plain hplain, filterMap_ofPiece?_of_plain hplain'] at hcomponents
  have hnames : names = names' := Path.Component.named_injective.list_map (List.append_cancel_left hcomponents)
  rw [← Path.mk_joined hpieces, ← Path.mk_joined hpieces', hnames]

/-- The files that a scan finds stand in the strict order of their components. -/
theorem WellFormed.filesWithExtension_increasing (hd : d.WellFormed) {files : List Path}
    (h : d.filesWithExtension root extension = .ok files) :
    files.Pairwise fun p q => compare p q = .lt := by
  obtain ⟨hnodup, hmem⟩ := hd.filesWithExtension_spec h
  have hordered : files.Pairwise fun p q => (compare p q).isLE := by
    unfold filesWithExtension at h
    split at h
    · obtain ⟨found, -, rfl⟩ := map_eq_ok.1 h
      exact sortPaths_ordered found
    · cases h
      exact .nil
  refine (hordered.and hnodup).imp_of_mem fun {p q} hp hq hpq => ?_
  obtain ⟨hle, hne⟩ := hpq
  cases hcompare : compare p q with
  | lt => rfl
  | eq => exact absurd (hd.eq_of_compare ((hmem p).1 hp).1 ((hmem q).1 hq).1 hcompare) hne
  | gt =>
    rw [hcompare] at hle
    cases hle

/-! ## The order of entries -/

/-- The disk `d'` has the entries of `d` in another order. -/
structure Reordered (d d' : Disk) : Prop where
  entries : d'.entries.Perm d.entries
  workingDirectory : d'.workingDirectory = d.workingDirectory
  now : d'.now = d.now

section Reordered

theorem Reordered.symm (h : d.Reordered d') : d'.Reordered d :=
  ⟨h.entries.symm, h.workingDirectory.symm, h.now.symm⟩

theorem Reordered.wellFormed (h : d.Reordered d') (hd : d.WellFormed) : d'.WellFormed where
  nodup := ((h.entries.map (·.1)).nodup_iff).2 hd.nodup
  plain place hplace := hd.plain place (((h.entries.map (·.1)).mem_iff).1 hplace)

variable (h : d.Reordered d') (hd : d.WellFormed)

include h hd in
theorem Reordered.find?_eq : d'.find? = d.find? := by
  funext place
  by_cases hnil : place = []
  · rw [find?, find?, if_pos hnil, if_pos hnil, h.now]
  · ext e
    constructor
    · intro he
      exact hd.find?_of_mem hnil (h.entries.mem_iff.1 (mem_of_find? hnil he))
    · intro he
      exact (h.wellFormed hd).find?_of_mem hnil (h.entries.mem_iff.2 (mem_of_find? hnil he))

include h hd in
theorem Reordered.rooted (hrooted : d.Rooted) : d'.Rooted where
  parent {place e} hplace := by
    rw [h.find?_eq hd] at hplace
    obtain ⟨t, ht⟩ := hrooted.parent hplace
    exact ⟨t, by rwa [h.find?_eq hd]⟩
  working := by
    obtain ⟨t, ht⟩ := hrooted.working
    exact ⟨t, by rwa [h.find?_eq hd, h.workingDirectory]⟩

include h hd in
theorem Reordered.walk_eq {follow : Bool} {here : Location} :
    walk d' follow n here names = walk d follow n here names := by
  have hstride : ∀ here name, d'.stride here name = d.stride here name := fun here name => by
    rw [stride, stride, h.find?_eq hd]
  induction n using Nat.strongRecOn generalizing here names with
  | ind n ihn =>
    induction names generalizing here with
    | nil => rw [walk_nil, walk_nil, h.find?_eq hd, h.now]
    | cons name rest ih =>
      rw [walk_cons, walk_cons, hstride]
      cases d.stride here name with
      | on there => exact ih
      | last found e => rfl
      | tooLong => rfl
      | link there target =>
        cases n with
        | zero => rfl
        | succ n => simp only [ihn n (Nat.lt_succ_self n)]

include h hd in
/-- A path leads to the same entry whatever the order of the entries. -/
theorem Reordered.resolve_eq (p : Path) : d'.resolve p = d.resolve p := by
  rw [resolve, resolve, locate, locate, h.workingDirectory, h.walk_eq hd]

include h hd in
theorem Reordered.reaches_iff : d'.Reaches place names e ↔ d.Reaches place names e := by
  have himp : ∀ {d d' : Disk}, d'.find? = d.find? → d.Reaches place names e → d'.Reaches place names e := by
    intro d d' hfind hreaches
    induction hreaches with
    | here hplace => exact .here (by rwa [hfind])
    | deeper hplace _ ih => exact .deeper (by rwa [hfind]) ih
  exact ⟨himp (h.find?_eq hd).symm, himp (h.find?_eq hd)⟩

include h hd in
theorem Reordered.allReadable (hreadable : d.AllReadable root place) : d'.AllReadable root place := by
  intro names e hreaches hdirectory
  obtain ⟨found, hread⟩ := hreadable names e ((h.reaches_iff hd).1 hreaches) hdirectory
  obtain ⟨place', t, hresolve, -⟩ := readDirectory_eq_ok.1 hread
  rw [← h.resolve_eq hd] at hresolve
  exact ⟨_, readDirectory_eq_ok.2 ⟨place', t, hresolve, rfl⟩⟩

end Reordered

/-! ## Scans -/

theorem filesWithExtension_of_isDirectory (h : d.isDirectory root = true) :
    d.filesWithExtension root extension =
      (d.filesWithin (Text.dropLeading '.' extension) d.depth root).map sortPaths :=
  if_pos h

section Scan

variable (hd : d.WellFormed) (hrooted : d.Rooted) (hresolve : d.resolve root = .ok (place, e))
  (hdirectory : e.isDirectory = true)

theorem isDirectory_of_resolve (hresolve : d.resolve root = .ok (place, e))
    (hdirectory : e.isDirectory = true) : d.isDirectory root = true := by
  rw [isDirectory, hresolve]
  cases e with
  | directory t => rfl
  | closed => rfl
  | file f => cases hdirectory
  | link target => cases hdirectory

theorem exists_resolve_of_isDirectory (h : d.isDirectory root = true) :
    ∃ place e, d.resolve root = .ok (place, e) ∧ e.isDirectory = true := by
  unfold isDirectory at h
  split at h
  · next place t heq => exact ⟨place, _, heq, rfl⟩
  · next place heq => exact ⟨place, _, heq, rfl⟩
  · cases h

include hd hrooted hresolve hdirectory in
theorem WellFormed.accounts_scan (extension : String) :
    d.Accounts root place (d.filesWithExtension root extension) := by
  have haccounts : d.Accounts root place (d.filesWithin (Text.dropLeading '.' extension) d.depth root) :=
    hd.accounts (hrooted.resolve_lies hresolve) hdirectory (.inl hresolve) (Nat.le_add_right d.depth place.length)
  rw [filesWithExtension_of_isDirectory (isDirectory_of_resolve hresolve hdirectory)]
  cases hwithin : d.filesWithin (Text.dropLeading '.' extension) d.depth root with
  | ok files =>
    rw [hwithin] at haccounts
    exact haccounts
  | error error =>
    rw [hwithin] at haccounts
    exact haccounts

include hd hrooted hresolve hdirectory in
/-- A scan ends well exactly if all directories that it comes to can be read. -/
theorem WellFormed.exists_filesWithExtension_iff (extension : String) :
    (∃ files, d.filesWithExtension root extension = .ok files) ↔ d.AllReadable root place := by
  have haccounts := hd.accounts_scan hrooted hresolve hdirectory extension
  cases hscan : d.filesWithExtension root extension with
  | ok files =>
    rw [hscan] at haccounts
    exact ⟨fun _ => haccounts, fun _ => ⟨files, rfl⟩⟩
  | error error =>
    rw [hscan] at haccounts
    obtain ⟨names, e', hreaches, hdirectory', hread⟩ := haccounts
    constructor
    · rintro ⟨files, hfiles⟩
      cases hfiles
    · intro hreadable
      obtain ⟨found, hread'⟩ := hreadable names e' hreaches hdirectory'
      rw [hread] at hread'
      cases hread'

include hd hrooted hresolve hdirectory in
/-- A scan that ends well has found the files with the extension that are reached. -/
theorem WellFormed.mem_filesWithExtension_iff {files : List Path}
    (h : d.filesWithExtension root extension = .ok files) :
    p ∈ files ↔ (∃ names f, d.Reaches place names (.file f) ∧ p = root.descend names) ∧
      p.extension? = some (Text.dropLeading '.' extension) := by
  have hreadable := (hd.exists_filesWithExtension_iff hrooted hresolve hdirectory extension).1 ⟨files, h⟩
  obtain ⟨found, hread⟩ := hreadable [] e (.here (hrooted.resolve_lies hresolve)) hdirectory
  obtain ⟨t, hresolve', -, -⟩ := LeadsUnlessLong.resolve_of_read (.inl hresolve) hread
  rw [(hd.filesWithExtension_spec h).2, hd.fileBelow_iff_reaches hrooted hresolve' hreadable]

end Scan

/-- Lists in the strict order of their components are the same if they have the same elements. -/
theorem eq_of_increasing {files files' : List Path} (h : files.Pairwise fun p q => compare p q = .lt)
    (h' : files'.Pairwise fun p q => compare p q = .lt) (hmem : ∀ p, p ∈ files ↔ p ∈ files') :
    files = files' := by
  have hirrefl : Std.Irrefl fun p q : Path => compare p q = .lt :=
    ⟨fun _ hlt => SortedMap.ne_of_compare_lt hlt rfl⟩
  have hasymm : Std.Asymm fun p q : Path => compare p q = .lt :=
    ⟨fun p q hlt hgt => hirrefl.irrefl p (Std.TransCmp.lt_trans hlt hgt)⟩
  exact h.eq_of_mem_iff h' hmem

/-- A scan finds the same on a disk with the entries in another order. -/
theorem Reordered.filesWithExtension (h : d.Reordered d') (hd : d.WellFormed) (hrooted : d.Rooted)
    {files : List Path} (hscan : d.filesWithExtension root extension = .ok files) :
    d'.filesWithExtension root extension = .ok files := by
  have hd' := h.wellFormed hd
  have hrooted' := h.rooted hd hrooted
  by_cases hdirectory : d.isDirectory root = true
  · obtain ⟨place, e, hresolve, he⟩ := exists_resolve_of_isDirectory hdirectory
    have hresolve' : d'.resolve root = .ok (place, e) := by rw [h.resolve_eq hd, hresolve]
    have hreadable := (hd.exists_filesWithExtension_iff hrooted hresolve he extension).1 ⟨files, hscan⟩
    obtain ⟨files', hscan'⟩ := (hd'.exists_filesWithExtension_iff hrooted' hresolve' he
      extension).2 (h.allReadable hd hreadable)
    rw [hscan']
    refine congrArg Except.ok (eq_of_increasing (hd'.filesWithExtension_increasing hscan')
      (hd.filesWithExtension_increasing hscan) fun p => ?_)
    rw [hd'.mem_filesWithExtension_iff hrooted' hresolve' he hscan',
      hd.mem_filesWithExtension_iff hrooted hresolve he hscan]
    simp only [h.reaches_iff hd]
  · have hdirectory' : ¬ d'.isDirectory root = true := by
      rwa [isDirectory, h.resolve_eq hd, ← isDirectory]
    unfold Disk.filesWithExtension at hscan ⊢
    rw [if_neg hdirectory] at hscan
    rw [if_neg hdirectory', hscan]

/-- A directory with a source in a directory of its own. -/
def nestedSource : Disk where
  entries := [(["p"], .directory 0), (["p", "sub"], .directory 0),
    (["p", "sub", "A.java"], .file ⟨.empty, 0, false⟩)]
  workingDirectory := []
  now := 0

theorem wellFormed_nestedSource : nestedSource.WellFormed :=
  ⟨by decide, by decide⟩

theorem rooted_nestedSource : nestedSource.Rooted :=
  .of_entries (by decide) (by decide)

/-- The path of the directory with the source, with slashes behind it. -/
def padded (slashes : Nat) : Path :=
  ⟨Text.joined "/" ("p" :: List.replicate slashes "")⟩

theorem utf8ByteSize_joined_replicate (first : String) (n : Nat) :
    (Text.joined "/" (first :: List.replicate n "")).utf8ByteSize = first.utf8ByteSize + n := by
  induction n generalizing first with
  | zero => simp [Text.joined]
  | succ n ih =>
    have hslash : "/".utf8ByteSize = 1 := rfl
    have hempty : "".utf8ByteSize = 0 := rfl
    rw [List.replicate_succ, Text.joined_cons "/" first (by simp), String.utf8ByteSize_append,
      String.utf8ByteSize_append, ih]
    omega

theorem utf8ByteSize_padded (slashes : Nat) : (padded slashes).text.utf8ByteSize = slashes + 1 := by
  have hp : "p".utf8ByteSize = 1 := rfl
  rw [padded, utf8ByteSize_joined_replicate, hp, Nat.add_comm]

theorem names_padded (slashes : Nat) : Disk.names (padded slashes) = ["p"] := by
  have hpieces : Text.pieces '/' (padded slashes).text = "p" :: List.replicate slashes "" := by
    show Text.pieces '/' (Text.joined "/" ("p" :: List.replicate slashes "")) = _
    refine Text.pieces_joined (fun part hpart => ?_) (by simp)
    rcases List.mem_cons.1 hpart with rfl | hpart
    · decide
    · rw [List.eq_of_mem_replicate hpart]
      decide
  rw [Disk.names, hpieces, List.filter_cons_of_pos (by decide),
    List.filter_eq_nil_iff.2 fun part hpart => by simp [List.eq_of_mem_replicate hpart]]

theorem resolve_padded {slashes : Nat} (hworking : d.workingDirectory = [])
    (hwalk : walk d true mostLinks [] ["p"] = .ok (.present ["p"] (.directory t)))
    (h : slashes + 1 ≤ longestPath) : d.resolve (padded slashes) = .ok (["p"], .directory t) := by
  have hsize : (padded slashes).text.utf8ByteSize ≤ longestPath := by rwa [utf8ByteSize_padded]
  have htext : (padded slashes).text ≠ "" := by
    intro hempty
    have hnone := utf8ByteSize_padded slashes
    rw [hempty] at hnone
    cases hnone
  have hstart : start d.workingDirectory (padded slashes) = [] := by
    rw [hworking]
    exact ite_self []
  rw [resolve_eq_ok, locate_eq_ok]
  refine ⟨⟨htext, hsize⟩, walk_steps ?_⟩
  rw [hstart, names_padded]
  exact hwalk

theorem reaches_nestedSource :
    nestedSource.Reaches ["p"] ["sub", "A.java"] (.file ⟨.empty, 0, false⟩) :=
  .deeper (t := 0) (by decide) (.deeper (t := 0) (by decide) (.here (by decide)))

/-- With too many slashes, the path of the directory in the directory is too long. -/
theorem not_allReadable_padded {slashes : Nat} (h : longestPath < slashes + 4) :
    ¬ nestedSource.AllReadable (padded slashes) ["p"] := by
  intro hreadable
  have hsub : nestedSource.Reaches ["p"] ["sub"] (.directory 0) :=
    .deeper (t := 0) (by decide) (.here (by decide))
  obtain ⟨found, hread⟩ := hreadable ["sub"] _ hsub rfl
  obtain ⟨place, t, hleads, -⟩ := readDirectory_eq_ok.1 hread
  have hlength : ((padded slashes).join ⟨"sub"⟩).text.utf8ByteSize ≤ longestPath :=
    (locate_eq_ok.1 (resolve_eq_ok.1 hleads)).1.2
  have hgrown := utf8ByteSize_add_le_join (padded slashes) (show Plain "sub" by decide)
  have hthree : "sub".utf8ByteSize = 3 := rfl
  rw [utf8ByteSize_padded] at hgrown
  omega

end Disk
end Buildwright
