-- SUMMARY: Stores that are written to an empty place: a load from there gives back what has the extension.
import Buildwright.Proofs.Disk.Emptiness
import Buildwright.Proofs.Disk.Exactness
import Buildwright.Proofs.Disk.Filling
import Buildwright.Proofs.Disk.Loading

/-!
# Stores on the disk and back

Files that are written below a directory that was empty, or was not there, are all that lies below it then.
Each directory on the way to a file has a shorter path than the file, so it can be read, and a load finds the
files again under their names. Of a store whose names differ in their extensions, a load with one of these
gives a part, and of a store that was loaded with it before, all of it.
-/
namespace Buildwright

/-! ## Parts of a store -/

namespace Store

variable {s s' : Store} {name extension : String} {content : Bytes}

/-- The part of a store that has names with a given extension. -/
def withExtension (s : Store) (extension : String) : Store where
  files :=
    { entries := s.files.entries.filter fun e => (Path.mk e.1).extension? = some extension
      increasing := s.files.increasing.filter _ }

theorem read_withExtension : (s.withExtension extension).read name = .ok content ↔
    s.read name = .ok content ∧ (Path.mk name).extension? = some extension := by
  rw [read_eq_ok, read_eq_ok]
  exact (List.mem_filter).trans (by simp [entries])

/-- Stores from which the same can be read are the same. -/
theorem ext_read (h : ∀ name content, s.read name = .ok content ↔ s'.read name = .ok content) : s = s' := by
  have hfiles : s.files = s'.files := SortedMap.ext_mem fun e => by
    have hentry := h e.1 e.2
    rwa [read_eq_ok, read_eq_ok] at hentry
  cases s
  cases s'
  exact congrArg Store.mk hfiles

end Store

namespace Disk

variable {d d' : Disk} {place top : Location} {name : String} {names rest : List String} {e : Entry}
  {p root : Path} {result : Location × Entry}

/-! ## Paths of names -/

theorem PlainPath.joined_names {relative : String} (h : PlainPath relative) :
    Disk.names ⟨relative⟩ ≠ [] ∧ (∀ name ∈ Disk.names ⟨relative⟩, Plain name) ∧
      relative = Text.joined "/" (Disk.names ⟨relative⟩) := by
  obtain ⟨names, hne, hplain, rfl⟩ := h
  rw [names_joined hplain hne]
  exact ⟨hne, hplain, rfl⟩

/-- The extension of a relative path is also that of a path below a directory. -/
theorem extension?_below (root : Path) (hplain : ∀ name ∈ names, Plain name) (hne : names ≠ []) :
    (root.below names).extension? = (Path.mk (Text.joined "/" names)).extension? := by
  rw [Path.extension?, Path.extension?, Path.fileName?, Path.fileName?, Path.components_below root hplain hne,
    Path.components_joined hplain hne, List.getLast?_append_of_ne_nil _ (by simpa using hne)]

theorem relativeTo?_below (root : Path) (hplain : ∀ name ∈ names, Plain name) (hne : names ≠ []) :
    (root.below names).relativeTo? root = some ⟨Text.joined "/" names⟩ := by
  refine Path.relativeTo?_join root ?_
  rw [pieces_joined_of_plain hplain hne]
  exact tidy_of_plain hplain

/-! ## Entries below a directory -/

/-- On the way to an entry there are directories. -/
theorem Rooted.directoryAt_of_find? (hd : d.Rooted) (h : d.find? (place ++ names) = some e)
    (hne : names ≠ []) : d.DirectoryAt place := by
  induction names using List.reverseRecOn generalizing e with
  | nil => exact absurd rfl hne
  | append_singleton before last ih =>
    obtain ⟨t, ht⟩ := hd.parent h
    rw [← List.append_assoc, List.dropLast_concat] at ht
    by_cases hbefore : before = []
    · rw [hbefore, List.append_nil] at ht
      exact ⟨t, ht⟩
    · exact ih ht hbefore

/-- Whatever lies below a place is reached from there. -/
theorem Rooted.reaches (hd : d.Rooted) (h : d.find? (place ++ names) = some e) :
    d.Reaches place names e := by
  induction names generalizing place with
  | nil => exact .here (by rwa [List.append_nil] at h)
  | cons name rest ih =>
    obtain ⟨t, ht⟩ := hd.directoryAt_of_find? h (by simp)
    exact .deeper ht (ih (by rwa [List.append_assoc]))

/-- Above a path below another that leads somewhere, the other leads to a directory. -/
theorem Rooted.resolve_of_below (hd : d.Rooted) (hroot : root.text ≠ "") (hplain : ∀ name ∈ names, Plain name)
    (hne : names ≠ []) (h : d.resolve (root.below names) = .ok result) :
    ∃ top t, d.resolve root = .ok (top, .directory t) := by
  obtain ⟨⟨-, hlength⟩, hwalk⟩ := locate_eq_ok.1 (resolve_eq_ok.1 (show d.resolve (root.below names) =
    .ok (result.1, result.2) from h))
  rw [steps_below hplain hne, start_below _ _ hplain hne] at hwalk
  obtain ⟨top, t, hfront⟩ := walk_front hd hne (hd.working.start root) hwalk
  have hshorter : root.text.utf8ByteSize ≤ (root.below names).text.utf8ByteSize := by
    rw [← descend_eq_below hroot hplain hne]
    exact utf8ByteSize_le_descend root hplain
  refine ⟨top, t, resolve_eq_ok.2 (locate_eq_ok.2 ⟨⟨hroot, Nat.le_trans hshorter hlength⟩, ?_⟩)⟩
  exact walk_steps hfront

/-- A path that leads somewhere fits. -/
theorem fits_of_resolve (h : d.resolve p = .ok (place, e)) : Fits p := by
  obtain ⟨⟨-, hlength⟩, hwalk⟩ := locate_eq_ok.1 (resolve_eq_ok.1 h)
  obtain ⟨final, hsteps, -⟩ := steps_eq p
  refine ⟨hlength, fun name hname => walk_utf8ByteSize_le hwalk name ?_⟩
  rw [hsteps]
  exact List.mem_append_left _ hname

theorem read_eq_ok {content : Bytes} :
    d.read p = .ok content ↔ ∃ place f, d.resolve p = .ok (place, .file f) ∧ f.content = content := by
  unfold Disk.read
  cases hresolve : d.resolve p with
  | error e => simp
  | ok result =>
    obtain ⟨place, e⟩ := result
    cases e <;> simp

end Disk

/-! ## Loading what is laid out -/

namespace Store

open Disk (Plain PlainPath LaidOut)

variable {d d' : Disk} {root : Path} {top : Location} {names : List String} {s : Store} {name extension : String}
  {content : Bytes} {e : Entry} {f : File}

/-- The names that lead to the files of a store from its directory. -/
def targets (s : Store) : List (List String) :=
  s.names.map fun name => Disk.names ⟨name⟩

/-- The files of a store lie below a directory, and nothing else but the directories on the way to them. -/
structure LiesIn (s : Store) (d : Disk) (root : Path) (top : Location) : Prop where
  wellFormed : d.WellFormed
  rooted : d.Rooted
  text_ne : root.text ≠ ""
  plain : ∀ name ∈ s.names, PlainPath name
  laidOut : d.LaidOut root top s.targets
  read : ∀ name content, s.read name = .ok content → d.read (root.join ⟨name⟩) = .ok content

namespace LiesIn

variable (h : s.LiesIn d root top)

include h

theorem join_eq (hname : name ∈ s.names) :
    root.join ⟨name⟩ = root.below (Disk.names ⟨name⟩) := by
  obtain ⟨-, -, hjoined⟩ := (h.plain name hname).joined_names
  exact congrArg (fun relative => root.join ⟨relative⟩) hjoined

theorem join_eq_descend (hname : name ∈ s.names) :
    root.join ⟨name⟩ = root.descend (Disk.names ⟨name⟩) := by
  obtain ⟨hne, hplain, -⟩ := (h.plain name hname).joined_names
  rw [h.join_eq hname, Disk.descend_eq_below h.text_ne hplain hne]

theorem extension?_join (hname : name ∈ s.names) :
    (root.join ⟨name⟩).extension? = (Path.mk name).extension? := by
  obtain ⟨hne, hplain, hjoined⟩ := (h.plain name hname).joined_names
  rw [h.join_eq hname, Disk.extension?_below root hplain hne, ← hjoined]

theorem relativeTo?_join (hname : name ∈ s.names) :
    (root.join ⟨name⟩).relativeTo? root = some ⟨name⟩ := by
  obtain ⟨hne, hplain, hjoined⟩ := (h.plain name hname).joined_names
  rw [h.join_eq hname, Disk.relativeTo?_below root hplain hne, ← hjoined]

/-- The path of a file leads there. -/
theorem exists_resolve (hname : name ∈ s.names) :
    ∃ f, s.read name = .ok f.content ∧
      d.resolve (root.join ⟨name⟩) = .ok (top ++ Disk.names ⟨name⟩, .file f) := by
  obtain ⟨content, hcontent⟩ := mem_names.1 hname
  obtain ⟨place, f, hresolve, rfl⟩ := Disk.read_eq_ok.1 (h.read name content hcontent)
  obtain ⟨hne, hplain, -⟩ := (h.plain name hname).joined_names
  have hleads := Disk.leadsTo_of_resolve hresolve
  rw [h.join_eq hname] at hleads
  obtain ⟨top', htop', rfl⟩ :=
    Disk.LeadsTo.of_below h.rooted h.laidOut.noLinksBelow hplain hne hleads
  obtain rfl := h.laidOut.leads top' htop'
  exact ⟨f, hcontent, hresolve⟩

/-- If there are any files, the path of the directory leads there. -/
theorem isDirectory (hname : name ∈ s.names) : d.isDirectory root = true := by
  obtain ⟨f, -, hresolve⟩ := h.exists_resolve hname
  obtain ⟨hne, hplain, -⟩ := (h.plain name hname).joined_names
  rw [h.join_eq hname] at hresolve
  obtain ⟨top', t, htop⟩ := h.rooted.resolve_of_below h.text_ne hplain hne hresolve
  exact Disk.isDirectory_of_resolve htop rfl

theorem reaches_file_iff :
    (∃ f, d.Reaches top names (.file f)) ↔ names ∈ s.targets := by
  constructor
  · rintro ⟨f, hreaches⟩
    have hentry := hreaches.find?
    by_cases hnil : names = []
    · rw [hnil, List.append_nil] at hentry
      obtain ⟨t, ht⟩ := h.laidOut.directory _ hentry
      cases ht
    · rcases h.laidOut.only names _ hnil hentry with ⟨⟨t, ht⟩, -⟩ | ⟨-, -, hmem⟩
      · cases ht
      · exact hmem
  · intro hmem
    obtain ⟨name, hname, rfl⟩ := List.mem_map.1 hmem
    obtain ⟨f, -, hresolve⟩ := h.exists_resolve hname
    exact ⟨f, h.rooted.reaches (h.rooted.resolve_lies hresolve)⟩

/-- All directories can be read, as those on the way to a file have shorter paths than the file. -/
theorem allReadable {t : Int} (hroot : d.resolve root = .ok (top, .directory t)) : d.AllReadable root top := by
  intro names e hreaches hdirectory
  by_cases hnil : names = []
  · subst hnil
    exact ⟨_, Disk.readDirectory_eq_ok.2 ⟨top, t, hroot, rfl⟩⟩
  rcases h.laidOut.only names e hnil hreaches.find? with ⟨⟨t', rfl⟩, target, htarget, hbefore, -⟩ | ⟨f, rfl, -⟩
  · obtain ⟨name, hname, rfl⟩ := List.mem_map.1 htarget
    obtain ⟨f, -, hresolve⟩ := h.exists_resolve hname
    have hfits := Disk.fits_of_resolve hresolve
    obtain ⟨hne, hplain, -⟩ := (h.plain name hname).joined_names
    obtain ⟨rest, hrest⟩ := hbefore
    rw [h.join_eq_descend hname] at hfits
    have hlength : (root.descend names).text.utf8ByteSize ≤ Disk.longestPath := by
      have hlonger : (root.descend names).text.utf8ByteSize ≤
          ((root.descend names).descend rest).text.utf8ByteSize :=
        Disk.utf8ByteSize_le_descend _ fun name hname => hplain name (hrest ▸ List.mem_append_right _ hname)
      rw [Path.descend, Path.descend, ← List.foldl_append, hrest] at hlonger
      exact Nat.le_trans hlonger hfits.1
    have hnames : ∀ name ∈ names, name.utf8ByteSize ≤ Disk.longestName := by
      intro other hother
      refine hfits.2 other ?_
      rw [Disk.descend_eq_below h.text_ne hplain hne, Disk.names_below hplain hne, ← hrest]
      exact List.mem_append_right _ (List.mem_append_left _ hother)
    exact ⟨_, Disk.readDirectory_eq_ok.2 ⟨_, t',
      h.wellFormed.resolve_descend hroot hreaches (by simp) hlength hnames, rfl⟩⟩
  · cases hdirectory

/-- A scan of the directory ends well, and finds the files with the extension. -/
theorem exists_scan (extension : String) : ∃ files, d.filesWithExtension root extension = .ok files ∧
    ∀ p, p ∈ files ↔ ∃ name ∈ s.names, p = root.join ⟨name⟩ ∧
      (Path.mk name).extension? = some (Text.dropLeading '.' extension) := by
  by_cases hdirectory : d.isDirectory root = true
  · obtain ⟨place, e, hroot, he⟩ : ∃ place e, d.resolve root = .ok (place, e) ∧ e.isDirectory = true :=
      Disk.exists_resolve_of_isDirectory hdirectory
    obtain rfl := h.laidOut.leads place (Disk.leadsTo_of_resolve hroot)
    obtain ⟨t, rfl⟩ := h.laidOut.directory e (h.rooted.resolve_lies hroot)
    obtain ⟨files, hscan⟩ := (h.wellFormed.exists_filesWithExtension_iff h.rooted hroot he
      extension).2 (h.allReadable hroot)
    refine ⟨files, hscan, fun p => ?_⟩
    rw [h.wellFormed.mem_filesWithExtension_iff h.rooted hroot he hscan]
    constructor
    · rintro ⟨⟨names, f, hreaches, rfl⟩, hextension⟩
      obtain ⟨name, hname, rfl⟩ := List.mem_map.1 (h.reaches_file_iff.1 ⟨f, hreaches⟩)
      rw [← h.join_eq_descend hname, h.extension?_join hname] at hextension
      exact ⟨name, hname, (h.join_eq_descend hname).symm, hextension⟩
    · rintro ⟨name, hname, rfl, hextension⟩
      obtain ⟨f, hreaches⟩ := h.reaches_file_iff.2 (List.mem_map_of_mem hname)
      rw [h.extension?_join hname]
      exact ⟨⟨_, f, hreaches, h.join_eq_descend hname⟩, hextension⟩
  · refine ⟨[], if_neg hdirectory, fun p => ?_⟩
    simp only [List.not_mem_nil, false_iff]
    rintro ⟨name, hname, -⟩
    exact hdirectory (h.isDirectory hname)

/-- What is loaded from there are the files with the extension. -/
theorem loadFrom_eq (extension : String) :
    loadFrom d root extension = .ok (s.withExtension (Text.dropLeading '.' extension)) := by
  obtain ⟨files, hscan, hmem⟩ := h.exists_scan extension
  obtain ⟨-, hbelow⟩ := h.wellFormed.filesWithExtension_spec hscan
  have hfile : ∀ p ∈ files, ∀ loaded, ∃ loaded', writeFile d root loaded p = .ok loaded' := by
    intro p hp loaded
    obtain ⟨name, hname, rfl, -⟩ := (hmem p).1 hp
    obtain ⟨content, hcontent⟩ := mem_names.1 hname
    rw [writeFile, h.relativeTo?_join hname, h.read name content hcontent]
    exact ⟨_, rfl⟩
  obtain ⟨loaded, hloaded⟩ := exists_foldlM_eq_ok hfile empty
  have hholds := holds_of_foldlM h.wellFormed (fun p hp => ((hbelow p).1 hp).1) hloaded
  have hsame : loaded = s.withExtension (Text.dropLeading '.' extension) := by
    refine ext_read fun name content => ?_
    rw [hholds name content, read_withExtension]
    constructor
    · rintro ⟨p, hp, hrelative, hcontent⟩
      obtain ⟨name', hname', rfl, hextension⟩ := (hmem p).1 hp
      rw [h.relativeTo?_join hname'] at hrelative
      cases hrelative
      obtain ⟨content', hread⟩ := mem_names.1 hname'
      rw [h.read _ _ hread] at hcontent
      cases hcontent
      exact ⟨hread, hextension⟩
    · rintro ⟨hread, hextension⟩
      have hname : name ∈ s.names := mem_names.2 ⟨content, hread⟩
      exact ⟨_, (hmem _).2 ⟨name, hname, rfl, hextension⟩, h.relativeTo?_join hname, h.read name content hread⟩
  rw [← hsame]
  exact bind_eq_ok.2 ⟨files, hscan, hloaded⟩

end LiesIn

/-! ## Writing to where nothing is -/

/-- A store that is written to where nothing is lies there. -/
theorem exists_liesIn_of_writeTo (hd : d.WellFormed) (hrooted : d.Rooted)
    (hclear : d.Clear root) (hplain : ∀ name ∈ s.names, PlainPath name)
    (hwrite : s.writeTo root d = .ok () d') : ∃ top, s.LiesIn d' root top := by
  obtain ⟨base, here, ahead, hv⟩ := hclear.exists_vacant hrooted
  have hentries : ∀ e ∈ s.entries, e.1 ∈ s.names := fun e he => List.mem_map_of_mem he
  have hplain' : ∀ e ∈ s.entries, PlainPath e.1 := fun e he => hplain _ (hentries e he)
  rw [writeTo_eq] at hwrite
  have hmem : ∀ e ∈ s.entries, Disk.names ⟨e.1⟩ ∈ s.targets := fun e he => List.mem_map_of_mem (hentries e he)
  have hfilled := (hv.wp_writeAll hrooted hplain' hmem (.start hrooted hd.nodup)).of_ok hwrite
  have hreads := (hrooted.wp_writeAll_below root hplain' s.files.keys_nodup).of_ok hwrite
  have htargets : ∀ target ∈ s.targets, target ≠ [] ∧ ∀ name ∈ target, Plain name := by
    intro target htarget
    obtain ⟨name, hname, rfl⟩ := List.mem_map.1 htarget
    obtain ⟨hne, hnames, -⟩ := (hplain name hname).joined_names
    exact ⟨hne, hnames⟩
  have hlaid := hv.laidOut hfilled fun target htarget => (htargets target htarget).1
  refine ⟨here ++ ahead, ?_, hfilled.grows.rooted, hclear.text_ne, hplain, hlaid, fun name content hcontent => ?_⟩
  · refine hfilled.wellFormed hd hv.directory fun target htarget name hname => ?_
    obtain ⟨rest, hrest, rfl⟩ := List.mem_map.1 htarget
    rcases List.mem_append.1 hname with hname | hname
    · refine Path.plain_of_mem_components (p := root) ?_
      rw [hv.components_eq]
      exact List.mem_append_right _ (List.mem_map_of_mem hname)
    · exact (htargets rest hrest).2 name hname
  · exact hreads hlaid.noLinksBelow (name, content) (read_eq_ok.1 hcontent)

/-! ## Stores that are loaded -/

/-- A name in a store that is loaded from a directory is a plain path with the extension, which leads to a file
    from there. -/
theorem of_loadFrom (hd : d.WellFormed) (hrooted : d.Rooted) (hload : loadFrom d root extension = .ok s)
    (hname : name ∈ s.names) :
    PlainPath name ∧ (Path.mk name).extension? = some (Text.dropLeading '.' extension) ∧
      Disk.Fits (root.join ⟨name⟩) ∧ ∃ place t f, d.resolve root = .ok (place, .directory t) ∧
        d.find? (place ++ Disk.names ⟨name⟩) = some (.file f) := by
  obtain ⟨content, hcontent⟩ := mem_names.1 hname
  obtain ⟨p, hbelow, hextension, hrelative, hread⟩ := (holdsFilesBelow_of_loadFrom hd hload name content).1 hcontent
  obtain ⟨place, t, hresolve⟩ := hbelow.exists_resolve
  obtain ⟨names, f, hreaches, rfl⟩ := hbelow.exists_reaches hd hrooted hresolve
  have hplain := hd.plain_of_reaches hreaches
  have hentry := hreaches.find?
  have hne : names ≠ [] := by
    rintro rfl
    rw [List.append_nil, hrooted.resolve_lies hresolve] at hentry
    cases hentry
  rw [Disk.descend_eq_below (Disk.text_ne_of_resolve hresolve) hplain hne] at hextension hrelative hread
  rw [Disk.relativeTo?_below root hplain hne] at hrelative
  cases hrelative
  rw [Disk.extension?_below root hplain hne] at hextension
  obtain ⟨place', f', hfile, -⟩ := Disk.read_eq_ok.1 hread
  refine ⟨⟨names, hne, hplain, rfl⟩, hextension, Disk.fits_of_resolve hfile, place, t, f, hresolve, ?_⟩
  rwa [Disk.names_joined hplain hne]

/-- The names in a store that is loaded have the extension, all of them. -/
theorem withExtension_of_loadFrom (hd : d.WellFormed) (hrooted : d.Rooted)
    (hload : loadFrom d root extension = .ok s) : s.withExtension (Text.dropLeading '.' extension) = s := by
  refine ext_read fun name content => ?_
  rw [read_withExtension, and_iff_left_of_imp]
  intro hcontent
  exact (of_loadFrom hd hrooted hload (mem_names.2 ⟨content, hcontent⟩)).2.1

/-- No name in a store that is loaded leads on from another, as files have nothing below them. -/
theorem unnested_of_loadFrom (hd : d.WellFormed) (hrooted : d.Rooted) (hload : loadFrom d root extension = .ok s)
    {name' : String} (hname : name ∈ s.names) (hname' : name' ∈ s.names)
    (hbegins : Disk.names ⟨name⟩ <+: Disk.names ⟨name'⟩) : Disk.names ⟨name⟩ = Disk.names ⟨name'⟩ := by
  obtain ⟨-, -, -, place, t, f, hresolve, hfile⟩ := of_loadFrom hd hrooted hload hname
  obtain ⟨-, -, -, place', t', f', hresolve', hfile'⟩ := of_loadFrom hd hrooted hload hname'
  rw [hresolve] at hresolve'
  cases hresolve'
  obtain ⟨rest, hrest⟩ := hbegins
  by_cases hnil : rest = []
  · rwa [hnil, List.append_nil] at hrest
  · rw [← hrest, ← List.append_assoc] at hfile'
    obtain ⟨t'', ht⟩ := hrooted.directoryAt_of_find? hfile' hnil
    rw [hfile] at ht
    cases ht

/-- A store that is loaded can be written to an empty directory exactly if no path becomes too long. -/
theorem exists_writeTo_iff (hd : d.WellFormed) (hrooted : d.Rooted) (hload : loadFrom d root extension = .ok s)
    {target : Path} {place : Location} (hempty : d'.LeadsToEmpty target place) :
    (∃ d'', s.writeTo target d' = .ok () d'') ↔
      ∀ name ∈ s.names, (target.join ⟨name⟩).text.utf8ByteSize ≤ Disk.longestPath := by
  have hmem : ∀ e ∈ s.entries, e.1 ∈ s.names := fun e he => List.mem_map_of_mem he
  rw [writeTo_eq, hempty.exists_writeAll_iff (fun e he => (of_loadFrom hd hrooted hload (hmem e he)).1)
    fun e he e' he' => unnested_of_loadFrom hd hrooted hload (hmem e he) (hmem e' he')]
  constructor
  · intro hfits name hname
    obtain ⟨e, he, rfl⟩ := List.mem_map.1 hname
    exact (hfits e he).1
  · intro hlength e he
    have hname := hmem e he
    obtain ⟨hpath, -, hfits, -⟩ := of_loadFrom hd hrooted hload hname
    obtain ⟨hne, hplain, hjoined⟩ := hpath.joined_names
    have hbelow : ∀ directory : Path, Disk.names (directory.join ⟨e.1⟩) =
        Disk.names directory ++ Disk.names ⟨e.1⟩ := fun directory => by
      rw [← Disk.names_below hplain hne, Path.below, ← hjoined]
    obtain ⟨t, hresolve⟩ := hempty.resolve_eq
    refine ⟨hlength e.1 hname, fun other hother => ?_⟩
    rw [hbelow] at hother
    rcases List.mem_append.1 hother with hother | hother
    · exact (Disk.fits_of_resolve hresolve).2 other hother
    · refine hfits.2 other ?_
      rw [hbelow]
      exact List.mem_append_right _ hother

/-! ## There and back -/

/-- A disk with an empty directory, and a text beside it. -/
def besideText : Disk where
  entries := [(["p"], .directory 0), (["old.txt"], .file ⟨.empty, 0, false⟩)]
  workingDirectory := []
  now := 0

theorem wellFormed_besideText : besideText.WellFormed :=
  ⟨by decide, by decide⟩

theorem rooted_besideText : besideText.Rooted :=
  .of_entries (by decide) (by decide)

theorem leadsToEmpty_besideText (hresolve : besideText.resolve root = .ok (["p"], .directory 0)) :
    besideText.LeadsToEmpty root ["p"] := by
  refine ⟨⟨0, hresolve⟩, fun names hne => ?_⟩
  obtain ⟨first, rest, rfl⟩ := List.exists_cons_of_ne_nil hne
  have hfree : besideText.find? (["p"] ++ [first]) = none := by simp [besideText, Disk.find?]
  exact rooted_besideText.find?_below hfree (by simp)

/-- A text, and a source in a directory. -/
def textAndSource : Store :=
  .ofList [("new.txt", .empty), ("sub/A.java", .empty)]

/-- What there is of both after they have been written to a new directory in a new directory. -/
def besideBoth : Disk where
  entries := [(["p"], .directory 0), (["old.txt"], .file ⟨.empty, 0, false⟩), (["a"], .directory 0),
    (["a", "b"], .directory 0), (["a", "b", "new.txt"], .file ⟨.empty, 0, false⟩),
    (["a", "b", "sub"], .directory 0), (["a", "b", "sub", "A.java"], .file ⟨.empty, 0, false⟩)]
  workingDirectory := []
  now := 0

theorem clear_besideText : besideText.Clear "a/b" := by
  have hcomponents : (Path.mk "a/b").components = (Path.mk "").components ++ ["a", "b"].map .named := by
    decide
  have hleads : besideText.LeadsTo "" [] := ⟨0, _, rfl⟩
  exact .absent hcomponents hleads (by decide) (by decide)

/-- One text. -/
def newText : Store :=
  .ofList [("new.txt", .empty)]

/-- The disk with the text beside the other. -/
def besideTexts : Disk where
  entries := [(["p"], .directory 0), (["old.txt"], .file ⟨.empty, 0, false⟩),
    (["new.txt"], .file ⟨.empty, 0, false⟩)]
  workingDirectory := []
  now := 0

/-- The disk with the text beside the other, after a new directory has been entered and left. -/
def besideDetour : Disk where
  entries := [(["p"], .directory 0), (["old.txt"], .file ⟨.empty, 0, false⟩), (["a"], .directory 0),
    (["new.txt"], .file ⟨.empty, 0, false⟩)]
  workingDirectory := []
  now := 0

end Store
end Buildwright
