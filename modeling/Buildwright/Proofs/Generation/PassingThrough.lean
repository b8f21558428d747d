-- SUMMARY: A generator that passes assets through makes one file of each asset that it finds, with its bytes and under the names that lead to it.
import Buildwright.Proofs.Disk.Exactness
import Buildwright.Proofs.Disk.RoundTrip
import Buildwright.Proofs.Generation.Watching

/-!
# Assets that are passed through

A scan joins the names that it meets to the path of the directory that it starts at, and passing an asset
through takes this path off again. Whatever the spelling of the directory, what is left are the names. So
each asset becomes one file, from whose path that of the asset can be told. All that can stand against it is
that a directory cannot be read, or that the path of an asset is too long.
-/
namespace Buildwright

open Disk

variable {d : Disk} {ctx : GenerationContext} {root : Path} {place : Location} {names : List String}
  {kind : FileKind} {name extension : String} {assets : List Path} {files : List GeneratedFile}
  {error : GenerationError}

/-! ## Assets -/

namespace Disk

/-- From the place of a directory, names lead through directories alone to a regular file, whose path has an
    extension. Leading dots of the extension do not count. -/
def HasAsset (d : Disk) (root : Path) (place : Location) (extension : String) (asset : Path) : Prop :=
  ∃ names f, d.Reaches place names (.file f) ∧ asset = root.descend names ∧
    asset.extension? = some (Text.dropLeading '.' extension)

section Reached

variable {f : File} {t : Int} (hresolve : d.resolve root = .ok (place, .directory t))
  (hreaches : d.Reaches place names (.file f))

include hresolve hreaches in
/-- Some name at least leads from a directory to a file. -/
theorem Rooted.ne_nil_of_reaches_file (hrooted : d.Rooted) : names ≠ [] := by
  rintro rfl
  have hfile := hreaches.find?
  rw [List.append_nil, hrooted.resolve_lies hresolve] at hfile
  cases hfile

include hresolve hreaches in
/-- A file that is reached can be read under its path unless that is too long. -/
theorem WellFormed.read_descend (hd : d.WellFormed) (hrooted : d.Rooted) (hfits : Fits (root.descend names)) :
    d.read (root.descend names) = .ok f.content := by
  have hplain := hd.plain_of_reaches hreaches
  have hne := hrooted.ne_nil_of_reaches_file hresolve hreaches
  have hnames : ∀ name ∈ names, name.utf8ByteSize ≤ longestName := by
    intro name hname
    apply hfits.2
    rw [Disk.names, pieces_descend (text_ne_of_resolve hresolve) hplain hne, List.filter_append]
    refine List.mem_append_right _ (List.mem_filter.2 ⟨hname, ?_⟩)
    simpa using (hplain name hname).1
  exact read_eq_ok.2 ⟨_, f, hd.resolve_descend hresolve hreaches (by simp) hfits.1 hnames, rfl⟩

end Reached

end Disk

/-! ## Passing through -/

/-- The file that an asset becomes: it has the bytes of the file that some names lead to from the place of a
    directory, and these names as its path, which leads from the path of the directory to that of the asset. -/
structure PassedFrom (d : Disk) (root : Path) (place : Location) (kind : FileKind) (asset : Path)
    (file : GeneratedFile) : Prop where
  reached : ∃ names f, names ≠ [] ∧ (∀ name ∈ names, Plain name) ∧ d.Reaches place names (.file f) ∧
    asset = root.descend names ∧ file = { kind, path := Text.joined "/" names, content := f.content }
  relative : asset.relativeTo? root = some ⟨file.path⟩
  joined : root.join ⟨file.path⟩ = asset

theorem passedPath_of_relativeTo? {asset relative : Path}
    (h : asset.relativeTo? (ctx.projectRoot.join root) = some relative) :
    passedPath root ctx asset = relative.slashed := by
  unfold passedPath
  rw [h]

theorem passThrough_eq_ok : passThrough root kind ctx assets d = .ok files ↔
    List.Forall₂ (fun asset file => ∃ content, d.read asset = .ok content ∧
      file = { kind, path := passedPath root ctx asset, content }) assets files := by
  rw [passThrough, mapM_eq_ok]
  refine iff_of_eq (congrArg (fun R => List.Forall₂ R assets files) ?_)
  funext asset file
  cases d.read asset with
  | ok content => simp [eq_comm]
  | error e => simp

theorem exists_passThrough_iff : (∃ files, passThrough root kind ctx assets d = .ok files) ↔
    ∀ asset ∈ assets, ∃ content, d.read asset = .ok content := by
  constructor
  · rintro ⟨files, h⟩ asset hasset
    obtain ⟨file, hfile⟩ := exists_of_mapM_eq_ok h hasset
    split at hfile
    · next content hread => exact ⟨content, hread⟩
    · cases hfile
  · intro h
    refine exists_mapM_eq_ok fun asset hasset => ?_
    obtain ⟨content, hread⟩ := h asset hasset
    exact ⟨_, by rw [hread]⟩

theorem exists_of_passThrough_eq_error (h : passThrough root kind ctx assets d = .error error) :
    ∃ asset ∈ assets, ∃ cause, d.read asset = .error cause ∧ error = .unreadable asset cause := by
  obtain ⟨asset, hasset, hfails⟩ := exists_of_mapM_eq_error h
  refine ⟨asset, hasset, ?_⟩
  split at hfails
  · cases hfails
  · next cause hread => exact ⟨cause, hread, by cases hfails; rfl⟩

namespace AssetGenerator

/-- Where nothing is found, nothing is passed through. -/
theorem generate_passThrough_eq :
    (make name extension root (passThrough root kind)).toGenerator.generate ctx d =
      (make name extension root (passThrough root kind)).discover ctx d >>= fun assets =>
        passThrough root kind ctx assets d := by
  refine congrArg (_ >>= ·) (funext fun assets => ?_)
  split
  · next hnil =>
    rw [hnil]
    rfl
  · rfl

section Scan

variable (hd : d.WellFormed) (hrooted : d.Rooted) {e : Entry}
  (hresolve : d.resolve (ctx.projectRoot.join root) = .ok (place, e)) (hdirectory : e.isDirectory = true)

theorem discover_passThrough_eq_ok :
    (make name extension root (passThrough root kind)).discover ctx d = .ok assets ↔
      d.filesWithExtension (ctx.projectRoot.join root) extension = .ok assets := by
  rw [discover_eq_ok, make, Disk.filesWithExtension, Disk.filesWithExtension]
  simp only [Text.dropLeading_dropLeading]

include hd hrooted hresolve hdirectory in
/-- The assets that are found are those that are there, in the order of their components. -/
theorem assets_spec (h : d.filesWithExtension (ctx.projectRoot.join root) extension = .ok assets) :
    assets.Pairwise (fun p q => compare p q = .lt) ∧
      (∀ p, p ∈ assets ↔ d.HasAsset (ctx.projectRoot.join root) place extension p) ∧
      ∃ t, d.resolve (ctx.projectRoot.join root) = .ok (place, .directory t) := by
  refine ⟨hd.filesWithExtension_increasing h, fun p => ?_, ?_⟩
  · rw [hd.mem_filesWithExtension_iff hrooted hresolve hdirectory h, HasAsset]
    constructor
    · rintro ⟨⟨names, f, hreaches, hp⟩, hextension⟩
      exact ⟨names, f, hreaches, hp, hextension⟩
    · rintro ⟨names, f, hreaches, hp, hextension⟩
      exact ⟨⟨names, f, hreaches, hp⟩, hextension⟩
  · have hreadable := (hd.exists_filesWithExtension_iff hrooted hresolve hdirectory extension).1 ⟨assets, h⟩
    obtain ⟨found, hread⟩ := hreadable [] e (.here (hrooted.resolve_lies hresolve)) hdirectory
    obtain ⟨t, hresolve', -, -⟩ := LeadsUnlessLong.resolve_of_read (.inl hresolve) hread
    exact ⟨t, hresolve'⟩

end Scan

end AssetGenerator

namespace Disk.HasAsset

variable {t : Int} {asset : Path} {content : Bytes}
  (hresolve : d.resolve (ctx.projectRoot.join root) = .ok (place, .directory t))
  (h : d.HasAsset (ctx.projectRoot.join root) place extension asset)

include hresolve h in
/-- An asset that is there can be read exactly if its path is not too long. -/
theorem exists_read_iff (hd : d.WellFormed) (hrooted : d.Rooted) :
    (∃ content, d.read asset = .ok content) ↔ Fits asset := by
  constructor
  · rintro ⟨content, hread⟩
    obtain ⟨place', f, hresolve', -⟩ := read_eq_ok.1 hread
    exact fits_of_resolve hresolve'
  · intro hfits
    obtain ⟨names, f, hreaches, rfl, -⟩ := h
    exact ⟨_, hd.read_descend hresolve hreaches hrooted hfits⟩

include hresolve h in
/-- An asset that is there and is read becomes a file under the names that lead to it. -/
theorem passedFrom (hd : d.WellFormed) (hrooted : d.Rooted) (hread : d.read asset = .ok content) :
    PassedFrom d (ctx.projectRoot.join root) place kind asset
      { kind, path := passedPath root ctx asset, content } := by
  obtain ⟨names, f, hreaches, rfl, -⟩ := h
  have hplain := hd.plain_of_reaches hreaches
  have hne := hrooted.ne_nil_of_reaches_file hresolve hreaches
  have hbelow := descend_eq_below (text_ne_of_resolve hresolve) hplain hne
  have hrelative : ((ctx.projectRoot.join root).descend names).relativeTo? (ctx.projectRoot.join root) =
      some ⟨Text.joined "/" names⟩ := by
    rw [hbelow]
    exact relativeTo?_below _ hplain hne
  have hpath : passedPath root ctx ((ctx.projectRoot.join root).descend names) = Text.joined "/" names :=
    (passedPath_of_relativeTo? hrelative).trans (slashed_joined hplain hne)
  have hcontent : content = f.content := by
    obtain ⟨place', f', hresolve', rfl⟩ := read_eq_ok.1 hread
    have hsame := hd.read_descend hresolve hreaches hrooted (fits_of_resolve hresolve')
    rw [hread] at hsame
    exact Except.ok.inj hsame
  rw [hpath, hcontent]
  exact ⟨⟨names, f, hne, hplain, hreaches, rfl, rfl⟩, hrelative, hbelow.symm⟩

end Disk.HasAsset

/-- The path of an asset can be told from that of the file that it becomes. -/
theorem assets_eq_of_passedFrom (h : List.Forall₂ (PassedFrom d root place kind) assets files) :
    assets = (files.map (·.path)).map fun path => root.join ⟨path⟩ := by
  induction h with
  | nil => rfl
  | cons hfirst _ ih => rw [List.map_cons, List.map_cons, hfirst.joined, ← ih]

/-! ## Generation -/

namespace AssetGenerator

section Scan

variable (hd : d.WellFormed) (hrooted : d.Rooted) {e : Entry}
  (hresolve : d.resolve (ctx.projectRoot.join root) = .ok (place, e)) (hdirectory : e.isDirectory = true)

include hd hrooted hresolve hdirectory in
/-- Each asset that is there becomes one file, and no two files have one path. -/
theorem passedFrom_of_generate
    (h : (make name extension root (passThrough root kind)).toGenerator.generate ctx d = .ok files) :
    (files.map (·.path)).Nodup ∧ ∃ assets : List Path,
      assets.Pairwise (fun p q => compare p q = .lt) ∧
      (∀ p, p ∈ assets ↔ d.HasAsset (ctx.projectRoot.join root) place extension p) ∧
      List.Forall₂ (PassedFrom d (ctx.projectRoot.join root) place kind) assets files := by
  rw [generate_passThrough_eq] at h
  obtain ⟨assets, hassets, hpassed⟩ := bind_eq_ok.1 h
  obtain ⟨hincreasing, hmem, t, hresolve'⟩ :=
    assets_spec hd hrooted hresolve hdirectory (discover_passThrough_eq_ok.1 hassets)
  have hfiles : List.Forall₂ (PassedFrom d (ctx.projectRoot.join root) place kind) assets files := by
    have hread := (List.forall₂_and_left assets files).2 ⟨fun asset => (hmem asset).1, passThrough_eq_ok.1 hpassed⟩
    refine hread.imp fun asset file ⟨hasset, content, hcontent, hfile⟩ => ?_
    rw [hfile]
    exact hasset.passedFrom hresolve' hd hrooted hcontent
  have hnodup : assets.Nodup := hincreasing.imp SortedMap.ne_of_compare_lt
  rw [assets_eq_of_passedFrom hfiles] at hnodup
  exact ⟨hnodup.of_map, assets, hincreasing, hmem, hfiles⟩

include hd hrooted hresolve hdirectory in
/-- The generator ends well exactly if all directories can be read and no asset has too long a path. -/
theorem exists_generate_iff :
    (∃ files, (make name extension root (passThrough root kind)).toGenerator.generate ctx d = .ok files) ↔
      d.AllReadable (ctx.projectRoot.join root) place ∧
      ∀ asset, d.HasAsset (ctx.projectRoot.join root) place extension asset → Fits asset := by
  rw [← hd.exists_filesWithExtension_iff hrooted hresolve hdirectory extension, generate_passThrough_eq]
  simp only [bind_eq_ok, discover_passThrough_eq_ok]
  constructor
  · rintro ⟨files, assets, hassets, hpassed⟩
    obtain ⟨-, hmem, t, hresolve'⟩ := assets_spec hd hrooted hresolve hdirectory hassets
    refine ⟨⟨assets, hassets⟩, fun asset hasset => (hasset.exists_read_iff hresolve' hd hrooted).1 ?_⟩
    exact exists_passThrough_iff.1 ⟨files, hpassed⟩ asset ((hmem asset).2 hasset)
  · rintro ⟨⟨assets, hassets⟩, hfits⟩
    obtain ⟨-, hmem, t, hresolve'⟩ := assets_spec hd hrooted hresolve hdirectory hassets
    obtain ⟨files, hpassed⟩ : ∃ files, passThrough root kind ctx assets d = .ok files := by
      refine exists_passThrough_iff.2 fun asset hasset => ?_
      have hthere := (hmem asset).1 hasset
      exact (hthere.exists_read_iff hresolve' hd hrooted).2 (hfits asset hthere)
    exact ⟨files, assets, hassets, hpassed⟩

include hd hrooted hresolve hdirectory in
/-- A failure of the generator names the directory and is that of a directory below it, or names an asset. -/
theorem generate_eq_error
    (h : (make name extension root (passThrough root kind)).toGenerator.generate ctx d = .error error) :
    (∃ names e cause, d.Reaches place names e ∧ e.isDirectory = true ∧
      d.readDirectory ((ctx.projectRoot.join root).descend names) = .error cause ∧
      error = .unreadable (ctx.projectRoot.join root) cause) ∨
    ∃ asset cause, d.HasAsset (ctx.projectRoot.join root) place extension asset ∧
      d.read asset = .error cause ∧ error = .unreadable asset cause := by
  rw [generate_passThrough_eq] at h
  rcases bind_eq_error.1 h with hdiscover | ⟨assets, hassets, hpassed⟩
  · left
    have haccounts := hd.accounts_scan hrooted hresolve hdirectory (Text.dropLeading '.' extension)
    rw [discover, make] at hdiscover
    simp only at hdiscover
    split at hdiscover
    · cases hdiscover
    · next cause hscan =>
      rw [hscan] at haccounts
      obtain ⟨names, e', hreaches, hdirectory', hread⟩ := haccounts
      exact ⟨names, e', cause, hreaches, hdirectory', hread, by cases hdiscover; rfl⟩
  · right
    obtain ⟨-, hmem, -⟩ := assets_spec hd hrooted hresolve hdirectory (discover_passThrough_eq_ok.1 hassets)
    obtain ⟨asset, hasset, cause, hread, herror⟩ := exists_of_passThrough_eq_error hpassed
    exact ⟨asset, cause, (hmem asset).1 hasset, hread, herror⟩

end Scan

end AssetGenerator

/-- A directory with an asset in a directory of its own, and with a file that is none. -/
def nestedAsset : Disk where
  entries := [(["p"], .directory 0), (["p", "sub"], .directory 0), (["p", "notes.txt"], .file ⟨.empty, 0, false⟩),
    (["p", "sub", "A.java"], .file ⟨Text.encode "class A \x7b\x7d", 0, false⟩)]
  workingDirectory := []
  now := 0

theorem wellFormed_nestedAsset : nestedAsset.WellFormed :=
  ⟨by decide, by decide⟩

theorem rooted_nestedAsset : nestedAsset.Rooted :=
  .of_entries (by decide) (by decide)

/-- The files that are made of the asset, with a root that is spelled with a detour. -/
def nestedFiles : List GeneratedFile :=
  [{ kind := .generic, path := "sub/A.java", content := Text.encode "class A \x7b\x7d" }]

/-- A directory with an asset. -/
def oneAsset : Disk where
  entries := [(["p"], .directory 0), (["p", "A.java"], .file ⟨.empty, 0, false⟩)]
  workingDirectory := []
  now := 0

theorem wellFormed_oneAsset : oneAsset.WellFormed :=
  ⟨by decide, by decide⟩

theorem rooted_oneAsset : oneAsset.Rooted :=
  .of_entries (by decide) (by decide)

section Padded

variable {slashes : Nat} (hshort : slashes + 1 ≤ longestPath) (hlong : longestPath < slashes + 7)

include hshort in
theorem resolve_oneAsset : oneAsset.resolve (padded slashes) = .ok (["p"], .directory 0) :=
  resolve_padded rfl (by decide) hshort

include hshort in
theorem hasAsset_padded :
    oneAsset.HasAsset (padded slashes) ["p"] ".java" ((padded slashes).descend ["A.java"]) := by
  have hplain : ∀ name ∈ ["A.java"], Plain name := by decide
  have htext := text_ne_of_resolve (resolve_oneAsset hshort)
  refine ⟨["A.java"], _, .deeper (t := 0) (by decide) (.here rfl), rfl, ?_⟩
  rw [descend_eq_below htext hplain (by simp), extension?_below (padded slashes) hplain (by simp)]
  decide

include hlong in
/-- With too many slashes, the path of the asset is too long. -/
theorem not_fits_padded : ¬ Fits ((padded slashes).descend ["A.java"]) := by
  intro hfits
  have hgrown := utf8ByteSize_add_le_join (padded slashes) (show Plain "A.java" by decide)
  have hsix : "A.java".utf8ByteSize = 6 := rfl
  have hlength : ((padded slashes).join ⟨"A.java"⟩).text.utf8ByteSize ≤ longestPath := hfits.1
  rw [utf8ByteSize_padded] at hgrown
  omega

include hshort hlong in
theorem generate_padded_ne_ok (files : List GeneratedFile) :
    (AssetGenerator.make "rules" ".java" (padded slashes)
      (passThrough (padded slashes) .generic)).toGenerator.generate (.ofRoot "") oneAsset ≠ .ok files := by
  intro h
  have hjoin : (GenerationContext.ofRoot "").projectRoot.join (padded slashes) = padded slashes :=
    Path.join_of_text_eq rfl _
  have hresolve := resolve_oneAsset hshort
  have hasset := hasAsset_padded hshort
  rw [← hjoin] at hresolve hasset
  have hfits := ((AssetGenerator.exists_generate_iff wellFormed_oneAsset rooted_oneAsset hresolve rfl).1
    ⟨files, h⟩).2 _ hasset
  rw [hjoin] at hfits
  exact not_fits_padded hlong hfits

end Padded

end Buildwright
