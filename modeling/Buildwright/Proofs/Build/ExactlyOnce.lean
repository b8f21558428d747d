-- SUMMARY: Every generated source is published exactly once, under its own class and with its own content.
import Buildwright.Proofs.Build.Copying

/-!
# Exactly once

Between a generated file and its publication lie four translations: from the path to the class, from
there to the staging path, and, on either side of the compiler, back to the class and on to the class
file. With the copying compiler one can see that no two sources are merged on this way and that none is
renamed, whatever their paths look like.
-/
namespace Buildwright

/-- Each source of a batch is published once, and no other class is. Under the policy that makes REST
    resources known on their own, so is each source that serves REST requests. -/
structure Batch.PublishedOnce (b : Batch) (policy : RestPolicy) (added : List Publication) : Prop where
  classes : (added.filter (·.isClass)).Perm
    (b.sources.map fun f => .generatedClass f.className f.content true)
  class_once : ∀ f ∈ b.sources, added.count (.generatedClass f.className f.content true) = 1
  class_own : ∀ f ∈ b.sources, ∀ content application,
    .generatedClass f.className content application ∈ added → content = f.content ∧ application = true
  rest : policy = .jaxRsResource → added.filter (·.isRest) =
    (b.sources.filter (·.kind = .rest)).map fun f => .restResource f.className
  rest_once : policy = .jaxRsResource → ∀ f ∈ b.sources,
    added.count (.restResource f.className) = if f.kind = .rest then 1 else 0

namespace Batch

variable {b : Batch} {policy : RestPolicy} {added : List Publication}

theorem restClasses_files (b : Batch) :
    Registration.restClasses b.files = (b.sources.filter (·.kind = .rest)).map (·.className) := by
  rw [Registration.restClasses, sources, List.filter_filter]
  congr 1
  apply List.filter_congr
  intro f _
  exact Bool.and_comm _ _

/-! ## Counting -/

/-- Sources are told apart by their classes. -/
theorem eq_of_className_eq (h : (b.sources.map (·.className)).Nodup) {f g : GeneratedFile}
    (hf : f ∈ b.sources) (hg : g ∈ b.sources) (heq : f.className = g.className) : f = g :=
  List.inj_on_of_nodup_map h hf hg heq

theorem count_generatedClass (h : (b.sources.map (·.className)).Nodup)
    (hclasses : (added.filter (·.isClass)).Perm
      (b.sources.map fun f => .generatedClass f.className f.content true)) {f : GeneratedFile}
    (hf : f ∈ b.sources) : added.count (.generatedClass f.className f.content true) = 1 := by
  have hnodup : (b.sources.map fun f =>
      Publication.generatedClass f.className f.content true).Nodup := by
    refine h.of_map.map_on ?_
    intro f hf g hg heq
    exact eq_of_className_eq h hf hg (Publication.generatedClass.inj heq).1
  rw [← List.count_filter (p := (·.isClass)) rfl, hclasses.count_eq]
  exact List.count_eq_one_of_mem hnodup (List.mem_map_of_mem hf)

theorem eq_of_generatedClass_mem (h : (b.sources.map (·.className)).Nodup)
    (hclasses : (added.filter (·.isClass)).Perm
      (b.sources.map fun f => .generatedClass f.className f.content true)) {f : GeneratedFile}
    (hf : f ∈ b.sources) {content : Bytes} {application : Bool}
    (hmem : .generatedClass f.className content application ∈ added) :
    content = f.content ∧ application = true := by
  have hclass : .generatedClass f.className content application ∈ added.filter (·.isClass) :=
    List.mem_filter.2 ⟨hmem, rfl⟩
  obtain ⟨g, hg, heq⟩ := List.mem_map.1 (hclasses.mem_iff.1 hclass)
  obtain ⟨hname, rfl, rfl⟩ := Publication.generatedClass.inj heq
  rw [eq_of_className_eq h hg hf hname]
  exact ⟨rfl, rfl⟩

theorem count_restResource (h : (b.sources.map (·.className)).Nodup)
    (hrest : added.filter (·.isRest) =
      (b.sources.filter (·.kind = .rest)).map fun f => .restResource f.className) {f : GeneratedFile}
    (hf : f ∈ b.sources) :
    added.count (.restResource f.className) = if f.kind = .rest then 1 else 0 := by
  have hnodup : ((b.sources.filter (·.kind = .rest)).map fun f =>
      Publication.restResource f.className).Nodup := by
    refine (h.of_map.filter _).map_on ?_
    intro f hf g hg heq
    exact eq_of_className_eq h (List.mem_filter.1 hf).1 (List.mem_filter.1 hg).1
      (Publication.restResource.inj heq)
  have hiff : Publication.restResource f.className ∈ ((b.sources.filter (·.kind = .rest)).map fun f =>
      Publication.restResource f.className) ↔ f.kind = .rest := by
    rw [List.mem_map]
    constructor
    · rintro ⟨g, hg, heq⟩
      obtain ⟨hg, hkind⟩ := List.mem_filter.1 hg
      rw [← eq_of_className_eq h hg hf (Publication.restResource.inj heq)]
      simpa using hkind
    · intro hkind
      exact ⟨f, List.mem_filter.2 ⟨hf, by simpa using hkind⟩, rfl⟩
  rw [← List.count_filter (p := (·.isRest)) rfl, hrest, hnodup.count]
  simp only [hiff]

/-- What `classes` and `rest` say is enough if no two sources share a class. -/
theorem PublishedOnce.of_filter (h : (b.sources.map (·.className)).Nodup)
    (hclasses : (added.filter (·.isClass)).Perm
      (b.sources.map fun f => .generatedClass f.className f.content true))
    (hrest : policy = .jaxRsResource → added.filter (·.isRest) =
      (b.sources.filter (·.kind = .rest)).map fun f => .restResource f.className) :
    b.PublishedOnce policy added where
  classes := hclasses
  class_once := fun _ hf => count_generatedClass h hclasses hf
  class_own := fun _ hf _ _ hmem => eq_of_generatedClass_mem h hclasses hf hmem
  rest := hrest
  rest_once := fun hpolicy _ hf => count_restResource h (hrest hpolicy) hf

end Batch

/-! ## The run -/

namespace BuildPipeline

variable {p : BuildPipeline} {classes : Path} {b : Batch} {s : Session}

/-- Without a bootstrap source, a build with the copying compiler publishes each source of its batch
    exactly once. -/
theorem run_published_once {watched : List Path} (hcompiler : p.compiler = .copying)
    (hbootstrap : p.pool.bootstrap = none)
    (hgenerate : p.pool.generate (p.projectContext classes) s.disk = .ok b)
    (hwatched : p.pool.watchedAssets (p.projectContext classes) (p.dumped b s).disk = .ok watched) :
    ∃ report s' added, p.run classes s = .ok report s' ∧ s'.published = s.published ++ added ∧
      b.PublishedOnce p.restPolicy added := by
  obtain ⟨hnone, hnodup⟩ := GeneratorPool.generate_without_bootstrap hbootstrap hgenerate
  by_cases hfiles : b.files = []
  · refine ⟨_, s, [], run_of_empty hgenerate hfiles, (List.append_nil _).symm, ?_⟩
    have hsources : b.sources = [] := by rw [Batch.sources, hfiles, List.filter_nil]
    apply Batch.PublishedOnce.of_filter hnodup
    · rw [hsources]
      exact .refl _
    · intro _
      rw [hsources]
      rfl
  · obtain ⟨report, s', target, hrun, hpublished, hclasses⟩ :=
      run_copying hcompiler hgenerate hfiles hwatched
    refine ⟨report, s', _, hrun, hpublished, Batch.PublishedOnce.of_filter hnodup ?_ ?_⟩
    · rw [filter_isClass_publications, hnone]
      refine ((hclasses.perm hnodup).map _).trans ?_
      rw [List.map_map]
      exact .refl _
    · intro hpolicy
      rw [filter_isRest_publications, hpolicy, b.restClasses_files, Registration.restPublications,
        List.map_map]
      rfl

/-- Files whose paths have `./`, the staging directory or backslashes in them, and one that is no source
    although it serves REST requests. -/
def oddFiles : List GeneratedFile :=
  [⟨.rest, "./src/main/java/org/kie/A.java", Text.encode "class A {}"⟩,
    ⟨.generic, "org\x5ckie.B.java", Text.encode "class B {}"⟩,
    ⟨.rest, "org/kie/C.xml", Text.encode "<c/>"⟩]

theorem run_published_once_oddFiles :
    ∃ report s' added,
      (copying oddFiles none).run ⟨"/project/target/classes"⟩ (.start default) = .ok report s' ∧
      s'.published = (Session.start default).published ++ added ∧
      (⟨oddFiles, none⟩ : Batch).PublishedOnce .jaxRsResource added :=
  @run_published_once (copying oddFiles none) _ ⟨oddFiles, none⟩ (.start default) [] rfl rfl
    (by decide +kernel) rfl

end BuildPipeline
end Buildwright
