-- SUMMARY: Sources are staged below the staging root whatever their paths are, and none where another needs a directory.
import Buildwright.Proofs.Disk.Lexical
import Buildwright.Proofs.Generation.Materialisation

/-!
# The places of staged sources

Nothing checks the path of a generated file. It may be absolute, go upwards, or have backslashes, dots and
empty pieces in it. All of them are gone once the path is a class name and the class name is a staging path:
what is left of it are names below the staging root. Only the last of the names has a dot, so a directory
is never needed where a file is.
-/
namespace Buildwright

open ClassName

/-! ## Components of staging paths -/

namespace ClassName

/-- The components of a staging path are the names that it goes through. -/
theorem components_stagingPath (name : String) :
    (Path.mk (stagingPath name)).components = (stagedNames name).map .named := by
  have hhead : (Path.mk (stagingPath name)).anatomy.1 = "" := by
    rw [Path.head_eq, isAbsolute_stagingPath, pieces_stagingPath]
    rfl
  have hplain : ∀ piece ∈ stagedNames name, Disk.Plain piece := by
    intro piece hpiece
    obtain ⟨hidle, hparent⟩ := isName_of_mem_stagedNames hpiece
    obtain ⟨hempty, hcurrent⟩ := Path.idle_eq_false.1 hidle
    exact ⟨hempty, hcurrent, hparent, Text.not_mem_of_mem_pieces (List.mem_filter.1 hpiece).1⟩
  rw [Path.components_eq, hhead, Path.headComponents_empty, List.nil_append, ← Path.filterMap_ofPiece?_filter]
  exact Disk.filterMap_ofPiece?_of_plain hplain

/-- The directory below which sources are staged. -/
def stagingDirectory : Path := "src/main/java"

theorem components_stagingDirectory :
    stagingDirectory.components = ["src", "main", "java"].map .named := by decide

/-- Joined to a path, a staging path goes on from the staging directory there. -/
theorem exists_components_join_stagingPath (root : Path) (name : String) :
    ∃ names, names ≠ [] ∧ (root.join ⟨stagingPath name⟩).components =
      (root.join stagingDirectory).components ++ names.map .named := by
  obtain ⟨before, last, -, hnames⟩ := exists_stagedNames name
  refine ⟨before ++ [last ++ sourceSuffix], by simp, ?_⟩
  rw [Path.components_join_named root (isAbsolute_stagingPath name) (components_stagingPath name),
    Path.components_join_named root (by decide) components_stagingDirectory, hnames, List.map_append,
    List.append_assoc]

end ClassName

/-! ## Writing below a directory -/

namespace Disk

/-- Files that names lead to from a directory are written below it, however far the writing gets. -/
theorem Grows.wp_writeAll {before d : Disk} {root directory : Path} {es : List (String × Bytes)}
    (hgrows : before.Grows d) (hbelow : before.ChangedBelow d directory)
    (hes : ∀ e ∈ es, ∃ names, names ≠ [] ∧
      (root.join ⟨e.1⟩).components = directory.components ++ names.map .named) :
    wp (es.forM fun e => writeWithDirectories (root.join ⟨e.1⟩) e.2)
      (fun _ d' => before.ChangedBelow d' directory) (fun _ d' => before.ChangedBelow d' directory) d := by
  have hwrites : wp (es.forM fun e => writeWithDirectories (root.join ⟨e.1⟩) e.2)
      (fun _ d' => before.Grows d' ∧ before.ChangedBelow d' directory)
      (fun _ d' => before.ChangedBelow d' directory) d := by
    refine wp.forM_keeps ?_ ⟨hgrows, hbelow⟩
    rintro e he d ⟨hgrows, hbelow⟩
    obtain ⟨names, hne, hcomponents⟩ := hes e he
    have hstep : ∀ d', d.Grows d' ∧ d.ChangedAlong d' (root.join ⟨e.1⟩) → before.ChangedBelow d' directory := by
      rintro d' ⟨hgrows', halong⟩
      have hnext := halong.changedBelow_of_components hcomponents (Path.inward_named names 0)
        fun _ => mt List.map_eq_nil_iff.1 hne
      exact hbelow.trans hgrows.extends_before hnext hgrows'.extends_before
    refine (hgrows.rooted.wp_writeWithDirectories_along _ e.2).mono ?_ fun _ => hstep
    exact fun _ d' hd' => ⟨hgrows.trans hd'.1, hstep d' hd'⟩
  exact hwrites.mono (fun _ _ h => h.2) fun _ _ h => h

end Disk

/-! ## The sources of a batch -/

namespace Batch

/-- The files of a batch have staging paths below the staging root, none of which is a directory of
    another. -/
structure StagesApart (b : Batch) : Prop where
  relative : ∀ f ∈ b.files, (Path.mk f.stagingPath).isAbsolute = false
  below : ∀ f ∈ b.files, ∃ names, names ≠ [] ∧ (∀ name ∈ names, name ≠ "." ∧ name ≠ "..") ∧
    (Path.mk f.stagingPath).components = [.named "src", .named "main", .named "java"] ++ names.map .named
  unnested : ∀ f ∈ b.files, ∀ g ∈ b.files,
    (Path.mk f.stagingPath).components <+: (Path.mk g.stagingPath).components →
      (Path.mk f.stagingPath).components = (Path.mk g.stagingPath).components

/-- Below a place there are the sources of a batch, each a file under the names of its staging path, and
    directories on the way to them, but nothing else. -/
structure LiesBelow (b : Batch) (d : Disk) (place : Location) : Prop where
  file : ∀ f ∈ b.sources, ∃ file, d.find? (place ++ stagedNames f.className) = some (.file file)
  only : ∀ names e, names ≠ [] → d.find? (place ++ names) = some e →
    (∃ file, e = .file file) ∧ (∃ f ∈ b.sources, names = stagedNames f.className) ∨
      (∃ t, e = .directory t) ∧
        ∃ f ∈ b.sources, names <+: stagedNames f.className ∧ names ≠ stagedNames f.className

variable {b : Batch} {d d' : Disk} {root : Path} {place : Location}

theorem stagesApart (b : Batch) : b.StagesApart := by
  constructor
  case relative => exact fun f _ => isAbsolute_stagingPath f.className
  case below =>
    intro f _
    obtain ⟨before, last, -, hnames⟩ := exists_stagedNames f.className
    refine ⟨before ++ [last ++ sourceSuffix], by simp, fun name hname => ?_, ?_⟩
    · have hmem : name ∈ stagedNames f.className := hnames ▸ List.mem_append_right _ hname
      obtain ⟨hidle, hparent⟩ := isName_of_mem_stagedNames hmem
      exact ⟨(Path.idle_eq_false.1 hidle).2, hparent⟩
    · rw [GeneratedFile.stagingPath, components_stagingPath, hnames, List.map_append]
      rfl
  case unnested =>
    intro f _ g _ hbegins
    simp only [GeneratedFile.stagingPath, components_stagingPath] at hbegins ⊢
    rw [List.prefix_map_iff_of_injective Path.Component.named_injective] at hbegins
    rw [stagedNames_unnested hbegins]

/-- Sources are written below the staging directory, however far the writing gets. -/
theorem writeTo_changedBelow (b : Batch) (root : Path) (hd : d.Rooted) :
    wp (b.stage.store.writeTo root)
      (fun _ d' => d.ChangedBelow d' (root.join stagingDirectory))
      (fun _ d' => d.ChangedBelow d' (root.join stagingDirectory)) d := by
  rw [Store.writeTo_eq]
  refine hd.grows.wp_writeAll (.refl d _) fun e he => ?_
  obtain ⟨f, -, hname⟩ := mem_stage_store_names.1 (List.mem_map_of_mem he)
  rw [← hname]
  exact exists_components_join_stagingPath root f.className

theorem liesBelow_of_holds {hroot : d.LeadsToEmpty root place}
    (h : (b.site hroot).Holds d' (Disk.Site.written b.located fun _ => none)) : b.LiesBelow d' place := by
  have hstaged : ∀ names ∈ (b.site hroot).targets, ∃ f ∈ b.sources, names = stagedNames f.className := by
    intro names hnames
    obtain ⟨f, hf, rfl⟩ := List.mem_map.1 hnames
    exact ⟨f, hf, rfl⟩
  constructor
  case file =>
    intro f hf
    have hlocated : stagedNames f.className ∈ b.located.map (·.1) := by
      obtain ⟨e, he, hname⟩ := List.mem_map.1 (mem_stage_store_names.2 ⟨f, hf, rfl⟩)
      rw [located, List.map_map]
      exact List.mem_map.2 ⟨e, he, congrArg (fun name => Disk.names ⟨name⟩) hname⟩
    obtain ⟨content, hcontent⟩ := Option.isSome_iff_exists.1 (Disk.Site.isSome_written.2 (.inl hlocated))
    obtain ⟨-, file, hfile, -⟩ := h.file hcontent
    exact ⟨file, hfile⟩
  case only =>
    intro names e hne he
    rcases h.only hne he with ⟨file, rfl, hcontent⟩ | ⟨hdirectory, target, hmem, hbegins⟩
    · exact .inl ⟨⟨file, rfl⟩, hstaged names (h.mem_targets hcontent)⟩
    · obtain ⟨f, hf, htarget⟩ := hstaged target hmem
      rw [htarget] at hbegins
      exact .inr ⟨hdirectory, f, hf, hbegins⟩

/-- Whatever the paths of its files are, the staging paths of a batch are relative, go through the staging
    root and then only through names, and none of them is a directory of another. Writing the sources
    changes nothing that is not below the staging directory. Below an empty directory, they are all written
    unless a path is too long, each to a file of its own names, with nothing but directories on the way. -/
theorem stage_confined (b : Batch) (root : Path) (hd : d.Rooted) :
    b.StagesApart ∧
    wp (b.stage.store.writeTo root)
      (fun _ d' => d.ChangedBelow d' (root.join stagingDirectory))
      (fun _ d' => d.ChangedBelow d' (root.join stagingDirectory)) d ∧
    ∀ place, d.LeadsToEmpty root place → (∀ f ∈ b.sources, Disk.Fits (root.join ⟨f.stagingPath⟩)) →
      ∃ d', b.stage.store.writeTo root d = .ok () d' ∧ b.LiesBelow d' place := by
  refine ⟨b.stagesApart, b.writeTo_changedBelow root hd, fun place hroot hfits => ?_⟩
  obtain ⟨⟨⟩, d', hrun, hholds⟩ := (writeTo_spec hroot hfits).returns
  exact ⟨d', hrun, liesBelow_of_holds hholds⟩

/-- Sources with paths that are absolute, go upwards, or have empty pieces, backslashes and dots in them. -/
def oddSources : Batch where
  files := ["/etc/passwd.java", "../../A.java", "a//B.java", "a\x5cC.java", "./src/main/java/./D.java",
    "a.java", "a.b.java", "a/b.java/E.java", "..java", ".java"].map fun path => ⟨.generic, path, .empty⟩
  bootstrapClass := none

theorem stage_confined_oddSources :
    GeneratorPool.oneDirectory.Rooted ∧ oddSources.sources = oddSources.files ∧ oddSources.StagesApart ∧
    ∃ d', oddSources.stage.store.writeTo "/work" GeneratorPool.oneDirectory = .ok () d' ∧
      GeneratorPool.oneDirectory.ChangedBelow d' "/work/src/main/java" ∧
      oddSources.LiesBelow d' ["work"] := by
  have hrooted : GeneratorPool.oneDirectory.Rooted := .of_entries (by decide +kernel) (by decide +kernel)
  have hfits : ∀ f ∈ oddSources.sources, Disk.Fits ((Path.mk "/work").join ⟨f.stagingPath⟩) := by
    decide +kernel
  have hdirectory : (Path.mk "/work").join stagingDirectory = "/work/src/main/java" := by decide +kernel
  obtain ⟨hapart, hbelow, hempty⟩ := stage_confined oddSources "/work" hrooted
  rw [hdirectory] at hbelow
  obtain ⟨d', hrun, hlies⟩ := hempty ["work"] GeneratorPool.leadsToEmpty_oneDirectory hfits
  exact ⟨hrooted, by decide +kernel, hapart, d', hrun, hbelow.of_ok hrun, hlies⟩

end Batch
end Buildwright
