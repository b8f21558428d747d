-- SUMMARY: What a build makes known to be watched: what its generators of assets find, and each file of it once.
import Buildwright.Proofs.Build.AllOrNothing
import Buildwright.Proofs.Generation.Watching
import Buildwright.Proofs.Path

/-!
# Complete and unrepeated watching

A build searches for assets twice, for its generators and for the files to be watched. The directories of
its generators may overlap, and may be spelled differently, so one file may be found several times and under
several paths. What is watched is the union of what is found, in which a file has one path.
-/
namespace Buildwright

/-! ## Paths of one file -/

namespace Path

variable {file : Path} {paths : List Path}

/-- In a list in strict order, a path that it has under some spelling is there once. -/
theorem countP_same (hincreasing : paths.Pairwise fun p q => compare p q = .lt)
    (hmem : ∃ p ∈ paths, p.same file = true) : paths.countP (·.same file) = 1 := by
  have hnodup : (paths.map components).Nodup := by
    refine List.pairwise_map.2 (hincreasing.imp fun {p q} hlt heq => ?_)
    rw [compare_eq_iff.2 heq] at hlt
    cases hlt
  have hcount : paths.countP (·.same file) = (paths.map components).count file.components := by
    rw [List.count, List.countP_map]
    exact List.countP_congr fun p _ => by simp [same]
  obtain ⟨p, hp, hsame⟩ := hmem
  rw [hcount]
  refine List.count_eq_one_of_mem hnodup (List.mem_map.2 ⟨p, hp, ?_⟩)
  simpa [same] using hsame

end Path

/-! ## What a pool watches -/

/-- The paths are those of the files that generators of assets find on a disk: in strict order, and for
    each file one. With each generator, this goes for the assets that are handed to its transform. -/
structure WatchesFound (generators : List AssetGenerator) (ctx : GenerationContext) (d : Disk)
    (watched : List Path) : Prop where
  increasing : watched.Pairwise fun p q => compare p q = .lt
  found : ∀ file : Path, (∃ p ∈ watched, p.same file = true) ↔
    ∃ g ∈ generators, ∃ assets, g.discover ctx d = .ok assets ∧ ∃ asset ∈ assets, asset.same file = true
  once : ∀ g ∈ generators, ∃ assets, g.discover ctx d = .ok assets ∧
    g.toGenerator.generate ctx d = (if assets = [] then .ok [] else g.transform ctx assets d) ∧
    ∀ asset ∈ assets, watched.countP (·.same asset) = 1

namespace GeneratorPool

variable {pool : GeneratorPool} {generators : List AssetGenerator} {ctx : GenerationContext} {d d' : Disk}
  {watched : List Path}

/-- A pool watches the same where its generators find the same. -/
theorem watchedAssets_congr (hpool : pool.generators = generators.map (·.toGenerator))
    (h : ∀ g ∈ generators, g.discover ctx d' = g.discover ctx d) :
    pool.watchedAssets ctx d' = pool.watchedAssets ctx d := by
  have hall : ∀ g ∈ pool.generators, g.watchedAssets ctx d' = g.watchedAssets ctx d := by
    intro g hg
    rw [hpool] at hg
    obtain ⟨a, ha, rfl⟩ := List.mem_map.1 hg
    exact h a ha
  rw [watchedAssets, watchedAssets, mapM_congr hall]

theorem watchesFound (hpool : pool.generators = generators.map (·.toGenerator))
    (h : pool.watchedAssets ctx d = .ok watched) : WatchesFound generators ctx d watched := by
  obtain ⟨founds, hfounds, rfl⟩ := watchedAssets_eq_ok.1 h
  rw [hpool] at hfounds
  have hincreasing := (SortedMap.setOf founds.flatten).keys_increasing
  have hfound : ∀ file : Path, (∃ p ∈ (SortedMap.setOf founds.flatten).keys, p.same file = true) ↔
      ∃ g ∈ generators, ∃ assets, g.discover ctx d = .ok assets ∧
        ∃ asset ∈ assets, asset.same file = true := by
    intro file
    simp only [Path.same_iff]
    rw [← SortedMap.contains_iff, SortedMap.contains_setOf]
    constructor
    · rintro ⟨asset, hasset, hsame⟩
      obtain ⟨g, hg, assets, hassets, hasset⟩ := (mem_flatten_of_mapM hfounds).1 hasset
      obtain ⟨a, ha, rfl⟩ := List.mem_map.1 hg
      exact ⟨a, ha, assets, hassets, asset, hasset, hsame⟩
    · rintro ⟨a, ha, assets, hassets, asset, hasset, hsame⟩
      have hg : a.toGenerator ∈ generators.map (·.toGenerator) := List.mem_map_of_mem ha
      exact ⟨asset, (mem_flatten_of_mapM hfounds).2 ⟨_, hg, assets, hassets, hasset⟩, hsame⟩
  refine ⟨hincreasing, hfound, fun g hg => ?_⟩
  obtain ⟨assets, hassets⟩ := exists_of_mapM_eq_ok hfounds (List.mem_map_of_mem hg)
  have hdiscover : g.discover ctx d = .ok assets := hassets
  refine ⟨assets, hdiscover, ?_, fun asset hasset => Path.countP_same hincreasing ?_⟩
  · show (g.discover ctx d >>= fun assets => _) = _
    rw [hdiscover]
    rfl
  · exact (hfound asset).2 ⟨g, hg, assets, hdiscover, asset, hasset, by simp [Path.same]⟩

end GeneratorPool

/-! ## What a build watches -/

namespace BuildPipeline

variable {p : BuildPipeline} {classes : Path} {b : Batch} {s s' : Session} {report : BuildReport}
  {watched : List Path} {before after : List Publication}

theorem PublishedInOrder.exists_watched (h : p.PublishedInOrder classes b s watched before after) :
    ∃ added, after = before ++ added ∧ added.filterMap Publication.watched? = watched := by
  obtain ⟨target, classRecords, restRecords, -, -, -, hclass, hrest, rfl⟩ := h
  refine ⟨_, rfl, ?_⟩
  have hclasses : classRecords.filterMap Publication.watched? = [] :=
    List.filterMap_eq_nil_iff.2 fun r hr => Publication.watched?_of_isClass (hclass r hr)
  have hrests : restRecords.filterMap Publication.watched? = [] :=
    List.filterMap_eq_nil_iff.2 fun r hr => Publication.watched?_of_isRest (hrest r hr)
  have hwatched : (watched.map .hotDeploymentWatch).filterMap Publication.watched? = watched := by
    rw [List.filterMap_map]
    exact List.filterMap_some
  rw [List.filterMap_append, List.filterMap_append, List.filterMap_append, hclasses, hrests, hwatched]
  exact List.append_nil watched

/-- A build with files reports as watched what it makes known to be watched, in the same order. With a pool
    of generators of assets that find the same in the end as at first, these are the files that some
    generator finds, each once, so that every asset behind a generated file is watched. -/
theorem run_watches_found {generators : List AssetGenerator}
    (hpool : p.pool.generators = generators.map (·.toGenerator)) (hrun : p.run classes s = .ok report s')
    (hfiles : report.isEmpty = false)
    (hdisk : ∀ g ∈ generators,
      g.discover (p.projectContext classes) s'.disk = g.discover (p.projectContext classes) s.disk) :
    (∃ added, s'.published = s.published ++ added ∧
      added.filterMap Publication.watched? = report.watchedAssets) ∧
    WatchesFound generators (p.projectContext classes) s.disk report.watchedAssets := by
  obtain ⟨b, hb, -, hcompleted⟩ := (p.wp_run_completed classes s).of_ok hrun
  have hne : b.files ≠ [] := by
    intro hempty
    rw [run_of_empty hb hempty] at hrun
    cases hrun
    cases hfiles
  obtain ⟨-, hwatched, hpublished⟩ := hcompleted hne
  rw [GeneratorPool.watchedAssets_congr hpool hdisk] at hwatched
  exact ⟨hpublished.exists_watched, GeneratorPool.watchesFound hpool hwatched⟩

/-- Two generators of assets, the second of which looks through a directory that the first looks through,
    too, under another path and with another spelling of the extension. -/
def overlapping : List AssetGenerator :=
  [.make "rules" "drl" "src/main" (passThrough "src/main" .generic),
    .make "resources" "..drl" "./src//main/resources/" (passThrough "src/main/resources" .generic)]

/-- A project with two rules, one of which both generators find. -/
def overlappingDisk : Disk where
  entries := [(["project"], .directory 0), (["project", "src"], .directory 0),
    (["project", "src", "main"], .directory 0), (["project", "src", "main", "B.drl"], .file default),
    (["project", "src", "main", "resources"], .directory 0),
    (["project", "src", "main", "resources", "A.drl"], .file default)]
  workingDirectory := []
  now := 0

/-- A build with both generators. -/
def overlappingRules : BuildPipeline where
  pool := ⟨overlapping.map (·.toGenerator), none⟩
  compiler := ⟨"none", fun _ _ _ w => .ok (.success .empty []) w⟩
  restPolicy := .jaxRsResource
  debugDump := ⟨none⟩
  appPackage := defaultAppPackage
  dependencyInjection := true
  classpath := []

theorem run_watches_found_overlapping :
    ∃ report s', overlappingRules.run "/project/target/classes" (.start overlappingDisk) = .ok report s' ∧
      report.generatedFiles = 3 ∧
      report.watchedAssets = ["/project/src/main/B.drl", "/project/src/main/resources/A.drl"] ∧
      s'.published.filterMap Publication.watched? = report.watchedAssets ∧
      WatchesFound overlapping (.ofRoot "/project") overlappingDisk report.watchedAssets := by
  have hends : wp (overlappingRules.run "/project/target/classes")
      (fun report s' => report.generatedFiles = 3 ∧
        report.watchedAssets = ["/project/src/main/B.drl", "/project/src/main/resources/A.drl"] ∧
        ∀ g ∈ overlapping,
          g.discover (.ofRoot "/project") s'.disk = g.discover (.ofRoot "/project") overlappingDisk)
      (fun _ _ => False) (.start overlappingDisk) := by
    decide +kernel
  have hcontext : overlappingRules.projectContext "/project/target/classes" = .ofRoot "/project" := by
    decide +kernel
  obtain ⟨report, s', hrun, hcount, hwatched, hdisk⟩ := hends.returns
  have hfiles : report.isEmpty = false := by simp [BuildReport.isEmpty, hcount]
  rw [← hcontext] at hdisk
  obtain ⟨⟨added, hpublished, hadded⟩, hfound⟩ := run_watches_found rfl hrun hfiles hdisk
  rw [hcontext] at hfound
  refine ⟨report, s', hrun, hcount, hwatched, ?_, hfound⟩
  rw [hpublished]
  exact hadded

end BuildPipeline
end Buildwright
