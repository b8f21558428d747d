-- SUMMARY: Where the copies of generated files go: below the directory for copies, and no file changes elsewhere.
import Buildwright.Proofs.ClassName.Agreement
import Buildwright.Proofs.Disk.Below
import Buildwright.Proofs.Disk.Loading
import Buildwright.Proofs.Generation.EarliestViolation
import Buildwright.Proofs.Generation.PassingThrough

/-!
# Copies of generated files

Assets that are passed on as they are have the names that lead to them as their paths, and the path of a
bootstrap source are the segments of its class. All these are names of entries, so a copy goes to a path below
the directory for copies, and changes no file but the one to which that path leads.
-/
namespace Buildwright

open Disk

variable {d d' : Disk} {ctx : GenerationContext} {names : List String}

/-! ## The paths of generated files -/

namespace GeneratedFile

variable {f : GeneratedFile}

/-- A plain path does not begin with a dot for its directory, so the copy of the file goes below the directory
    for copies. -/
theorem exists_below (h : PlainPath f.path) :
    ∃ names, names ≠ [] ∧ (∀ name ∈ names, Plain name) ∧
      ∀ directory : Path, directory.join ⟨f.bareTarget⟩ = directory.below names := by
  obtain ⟨names, hne, hplain, hpath⟩ := h
  have hbare : f.bareTarget = Text.joined "/" names := by
    refine (congrArg (Text.dropOnce "./") hpath).trans (Text.dropOnce_eq_self fun r hr => ?_)
    have hpieces := pieces_joined_of_plain hplain hne
    have happend : Text.pieces '/' ("." ++ "/" ++ r) = Text.pieces '/' "." ++ Text.pieces '/' r :=
      Text.pieces_append '/' "." r
    have hdot : Text.pieces '/' "." = ["."] := by decide
    have hsame : ("./" : String) ++ r = "." ++ "/" ++ r := rfl
    rw [hr, hsame, happend, hdot] at hpieces
    exact absurd rfl (hplain "." (by simp [← hpieces])).2.1
  exact ⟨names, hne, hplain, fun directory => by rw [hbare, Path.below]⟩

theorem plain_of_isSegment {segment : String} (h : ClassName.isSegment segment = true) : Plain segment := by
  have hslash : '/' ∉ segment.toList := fun hmem =>
    absurd (ClassName.isSegmentChar_of_mem h hmem) (by decide)
  obtain ⟨hne, hdot⟩ := Path.idle_eq_false.1 (ClassName.idle_of_isSegment h)
  refine ⟨hne, hdot, ?_, hslash⟩
  rintro rfl
  exact absurd h (by decide)

/-- A bootstrap source lies under the segments of its class. -/
theorem plainPath_bootstrap {b : Bootstrap} (h : ClassName.isValid b.className = true) :
    PlainPath b.file.path := by
  obtain ⟨before, last, hsegments, hpieces⟩ := ClassName.exists_pieces_of_isValid h
  have hpath := hpieces ClassName.sourceSuffix (by decide)
  refine ⟨before ++ [last ++ ClassName.sourceSuffix], by simp, ?_, ?_⟩
  · intro name hname
    rcases List.mem_append.1 hname with hname | hname
    · exact plain_of_isSegment (hsegments name (List.mem_append_left _ hname))
    · rw [List.mem_singleton.1 hname]
      have hlong : ∀ short : String, short.length ≤ 2 → last ++ ClassName.sourceSuffix ≠ short := by
        rintro short hshort rfl
        have hsuffix : ClassName.sourceSuffix.length = 5 := by decide
        rw [String.length_append] at hshort
        omega
      have hlast := (plain_of_isSegment (hsegments last (by simp))).2.2.2
      refine ⟨hlong "" (by decide), hlong "." (by decide), hlong ".." (by decide), ?_⟩
      simp [hlast, ClassName.sourceSuffix]
  · have hjoined := Text.joined_pieces '/' b.file.path
    exact hjoined.symm.trans (congrArg (Text.joined "/") hpath)

end GeneratedFile

open GeneratedFile

/-- An asset that is passed on lies under the names that lead to it. -/
theorem plainPath_of_generate {name extension : String} {root : Path} {kind : FileKind}
    {files : List GeneratedFile} (hd : d.WellFormed)
    (h : (AssetGenerator.make name extension root (passThrough root kind)).toGenerator.generate ctx d =
      .ok files) : ∀ f ∈ files, PlainPath f.path := by
  rw [AssetGenerator.generate_passThrough_eq] at h
  obtain ⟨assets, hassets, hpassed⟩ := bind_eq_ok.1 h
  intro f hf
  obtain ⟨asset, hasset, hread⟩ := exists_of_mem_mapM hpassed hf
  have hpath : f.path = passedPath root ctx asset := by
    split at hread
    · cases hread
      dsimp only
    · cases hread
  have hbelow := (((hd.filesWithExtension_spec (AssetGenerator.discover_eq_ok.1 hassets)).2 asset).1 hasset).1
  obtain ⟨names, hne, hplain, -, hrelative⟩ := hd.exists_relativeTo? hbelow
  exact ⟨names, hne, hplain,
    hpath.trans ((passedPath_of_relativeTo? hrelative).trans (slashed_joined hplain hne))⟩

namespace GeneratorPool

variable {pool : GeneratorPool} {b : Batch}

/-- All generators of a pool pass assets on as they are. -/
def PassesOn (pool : GeneratorPool) : Prop :=
  ∀ g ∈ pool.generators, ∃ name extension root kind,
    g = (AssetGenerator.make name extension root (passThrough root kind)).toGenerator

/-- The files of a batch of such a pool have plain paths. -/
theorem PassesOn.plainPath (hpool : pool.PassesOn) (hd : d.WellFormed)
    (h : pool.generate ctx d = .ok b) : ∀ f ∈ b.files, PlainPath f.path := by
  obtain ⟨hvalid, parts, houtputs, -, rfl⟩ := generate_eq_ok_iff.1 h
  have hparts : ∀ f ∈ parts.flatten, PlainPath f.path := by
    intro f hf
    obtain ⟨g, hg, part, hpart, hmem⟩ := (mem_flatten_of_mapM (mapM_eq_ok.2 houtputs)).1 hf
    obtain ⟨name, extension, root, kind, rfl⟩ := hpool g hg
    exact plainPath_of_generate hd hpart f hmem
  rw [ofFiles_eq]
  intro f hf
  rcases List.mem_append.1 hf with hf | hf
  · exact hparts f hf
  · split at hf
    · cases hf
    · obtain ⟨bs, hbs, rfl⟩ : ∃ bs, pool.bootstrap = some bs ∧ bs.file = f := by simpa using hf
      exact plainPath_bootstrap (hvalid bs hbs)

end GeneratorPool

/-! ## The copies -/

namespace DebugDump

/-- A place is out of reach from a directory if no path below the directory leads there. -/
def OutOfReach (d : Disk) (directory : Path) (place : Location) : Prop :=
  ∀ names, names ≠ [] → (∀ name ∈ names, Plain name) → ¬ d.LeadsTo (directory.below names) place

theorem OutOfReach.of_extends {directory : Path} {place : Location} (h : OutOfReach d' directory place)
    (hd : d.Extends d') : OutOfReach d directory place :=
  fun names hne hplain hleads => h names hne hplain (hleads.extends hd)

theorem writeCopy_growsAt (directory : Path) (acc : Nat × Disk) (f : GeneratedFile) (h : acc.2.Rooted) :
    acc.2.GrowsAt (writeCopy directory acc f).2 (directory.join ⟨f.bareTarget⟩) := by
  unfold writeCopy
  cases hrun : Disk.writeWithDirectories (directory.join ⟨f.bareTarget⟩) f.content acc.2 with
  | ok u d' => exact h.wp_writeWithDirectories_elsewhere.of_ok hrun
  | error e d' => exact h.wp_writeWithDirectories_elsewhere.of_error hrun

/-- No file changes that is out of reach from the directory for copies. -/
theorem filesAgree_writeAll {dump : DebugDump} {files : List GeneratedFile} {place : Location}
    (hd : d.Rooted) (hfiles : ∀ f ∈ files, PlainPath f.path)
    (hreach : ∀ directory, dump.directory = some directory →
      OutOfReach (dump.writeAll files d).2 directory place) :
    d.FilesAgree (dump.writeAll files d).2 place := by
  unfold writeAll at hreach ⊢
  cases hdirectory : dump.directory with
  | none => exact SameFiles.refl d place
  | some directory =>
    have hout := hreach directory hdirectory
    simp only [hdirectory] at hout ⊢
    clear hreach
    -- The induction is on the copies from the last to the first: all that is out of reach in the end was so
    -- before the last of them.
    induction files using List.reverseRecOn with
    | nil => exact SameFiles.refl d place
    | append_singleton files f ih =>
      rw [List.foldl_append, List.foldl_cons, List.foldl_nil] at hout ⊢
      have hgrows := writeAll_grows ⟨some directory⟩ files hd
      simp only [writeAll] at hgrows
      generalize files.foldl (writeCopy directory) (0, d) = acc at hout hgrows ih ⊢
      have hstep := writeCopy_growsAt directory acc f hgrows.rooted
      obtain ⟨names, hne, hplain, hbelow⟩ := exists_below (hfiles f (by simp))
      have hbefore := ih (fun f hf => hfiles f (List.mem_append_left _ hf))
        (hout.of_extends hstep.grows.extends_before)
      refine hbefore.trans (hstep.elsewhere place ?_)
      rw [hbelow]
      exact hout names hne hplain

end DebugDump
end Buildwright
