-- SUMMARY: The bootstrap source becomes the bean that it is reserved for, unless its name begins like the staging directory.
import Buildwright.Proofs.Build.Copying

/-!
# The bootstrap bean

A bootstrap source is given by a class name, but enters its batch as a file, and the class of a file is
read off its path. The path has no staging directory in front, yet `ofPath` takes one off if the name
itself begins with it. Such a source loses part of its name, and is never recognised as the bootstrap
class; any other keeps its name, is staged on its own, and becomes the one bean of the build.
-/
namespace Buildwright

/-! ## The class of the bootstrap source -/

namespace ClassName

/-- The staging directory in the form in which a class name begins with it. -/
def stagingPackage : String := "src.main.java."

theorem slashed_stagingPackage : slashed stagingPackage = stagingRoot := by decide

theorem dotted_stagingRoot : dotted stagingRoot = stagingPackage := by decide

/-- The directory in front of a slashed name is the package in front of the name. -/
theorem slashed_eq_stagingRoot_append {x r : String} (hx : SeparatorFree x)
    (h : slashed x = stagingRoot ++ r) : x = stagingPackage ++ dotted r := by
  rw [← dotted_stagingRoot, ← dotted_append, ← h, dotted_slashed, dotted_eq_self_iff.2 hx]

end ClassName

namespace Bootstrap

open ClassName

variable {bs : Bootstrap}

theorem className_file (bs : Bootstrap) :
    bs.file.className = dotted (Text.dropOnce stagingRoot (slashed bs.className)) := by
  have hpath : Text.dropOnce "./" bs.file.path = bs.file.path :=
    dropOnce_slashed bs.className rfl
  rw [GeneratedFile.className, ofPath, hpath, file, stem_source]

/-- The file of a bootstrap source has the reserved class exactly if the name does not begin with the
    staging package. -/
theorem className_file_eq_iff (hname : SeparatorFree bs.className) :
    bs.file.className = bs.className ↔ Text.beginsWith stagingPackage bs.className = false := by
  rw [className_file, ← Bool.not_eq_true, Text.beginsWith_eq_true]
  constructor
  · rintro h ⟨r, hr⟩
    have hlength := congrArg String.length h
    rw [hr, slashed_append, slashed_stagingPackage, Text.dropOnce_append, dotted_slashed,
      length_dotted, String.length_append] at hlength
    have hpackage : stagingPackage.length = 14 := rfl
    omega
  · intro h
    have hkept : Text.dropOnce stagingRoot (slashed bs.className) = slashed bs.className := by
      apply Text.dropOnce_eq_self
      intro r hr
      exact h ⟨_, slashed_eq_stagingRoot_append hname hr⟩
    rw [hkept, dotted_slashed, dotted_eq_self_iff.2 hname]

end Bootstrap

/-! ## The bootstrap source among the sources -/

namespace GeneratorPool.Accepted

variable {bs : Bootstrap} {files : List GeneratedFile}

/-- No accepted source has the class of a bootstrap source with the reserved class. -/
theorem className_ne (h : Accepted (some bs.className) files) {f : GeneratedFile}
    (hf : f ∈ files.filter (·.isSource)) : f.className ≠ bs.className :=
  fun heq => h.not_reserved f hf (congrArg some heq.symm)

theorem classNames_nodup_append (h : Accepted (some bs.className) files)
    (hclass : bs.file.className = bs.className) :
    ((files.filter (·.isSource) ++ [bs.file]).map (·.className)).Nodup := by
  rw [List.map_append]
  refine List.nodup_append.2 ⟨h.classNames_nodup, List.nodup_singleton _, ?_⟩
  rintro name hold name' hnew rfl
  obtain ⟨f, hf, rfl⟩ := List.mem_map.1 hold
  have heq : f.className = bs.file.className := by simpa using hnew
  exact h.className_ne hf (heq.trans hclass)

/-- Published under the names of their files, the sources have one bean, and it is the bootstrap class. -/
theorem filter_isBean (h : Accepted (some bs.className) files)
    (hclass : bs.file.className = bs.className) :
    (((files.filter (·.isSource) ++ [bs.file]).map fun f => (f.className, f.content)).map
      (Registration.classPublication (some bs.className))).filter (·.isBean) =
        [.generatedBean bs.className (Text.encode bs.source)] := by
  have hnone : (((files.filter (·.isSource)).map fun f => (f.className, f.content)).map
      (Registration.classPublication (some bs.className))).filter (·.isBean) = [] := by
    rw [List.filter_eq_nil_iff, List.map_map]
    intro r hr hbean
    obtain ⟨f, hf, rfl⟩ := List.mem_map.1 hr
    rw [Function.comp_apply, Registration.isBean_classPublication] at hbean
    exact h.not_reserved f hf hbean
  rw [List.map_append, List.map_append, List.filter_append, hnone, List.nil_append, List.map_singleton,
    List.map_singleton, hclass, Registration.classPublication, if_pos rfl]
  rfl

end GeneratorPool.Accepted

/-! ## The bean -/

/-- The bootstrap source of a batch is what it is meant to be: its file has the reserved class, is staged
    for it and shares its place with no generated source, and the class is made known as a bean, once, and
    never as a class of the application. -/
structure Batch.BootstrapIntact (b : Batch) (bs : Bootstrap) (generated : List GeneratedFile)
    (added : List Publication) : Prop where
  class_reserved : bs.file.className = bs.className
  staging_path : bs.file.stagingPath = ClassName.stagingPath bs.className
  staged : b.stage.store.read (ClassName.stagingPath bs.className) = .ok (Text.encode bs.source)
  unshared : ∀ f ∈ generated, f.isSource = true → f.stagingPath ≠ bs.file.stagingPath
  bean : added.filter (·.isBean) = [.generatedBean bs.className (Text.encode bs.source)]
  no_class : ∀ content application, .generatedClass bs.className content application ∉ added

namespace BuildPipeline

open ClassName Registration

variable {p : BuildPipeline} {classes : Path} {b : Batch} {s : Session} {bs : Bootstrap}
  {generated : List GeneratedFile} {target : Store} {watched : List Path}

/-- The reserved class is a bean wherever it is made known. -/
theorem not_mem_publications (hb : b.bootstrapClass = some bs.className) (content : Bytes)
    (application : Bool) :
    .generatedClass bs.className content application ∉ p.publications b target watched := by
  intro hmem
  have hclass : .generatedClass bs.className content application ∈
      (p.publications b target watched).filter (·.isClass) := List.mem_filter.2 ⟨hmem, rfl⟩
  rw [filter_isClass_publications, List.mem_map, hb] at hclass
  obtain ⟨c, -, hc⟩ := hclass
  unfold classPublication at hc
  split at hc
  · cases hc
  · next hne =>
    obtain ⟨hname, -⟩ := Publication.generatedClass.inj hc
    exact hne (congrArg some hname.symm)

theorem bootstrapIntact_publications (hfiles : GeneratorPool.Accepted (some bs.className) generated)
    (hb : b = ⟨generated ++ [bs.file], some bs.className⟩)
    (hclasses : b.HasClasses (compiledClasses target)) (hclass : bs.file.className = bs.className) :
    b.BootstrapIntact bs generated (p.publications b target watched) := by
  have hsources : b.sources = generated.filter (·.isSource) ++ [bs.file] := by
    rw [hb, Batch.sources_append_bootstrap]
  have hnodup : (b.sources.map (·.className)).Nodup := by
    rw [hsources]
    exact hfiles.classNames_nodup_append hclass
  have hpath : bs.file.stagingPath = stagingPath bs.className := by
    rw [GeneratedFile.stagingPath, hclass]
  refine ⟨hclass, hpath, ?_, ?_, ?_, not_mem_publications (by rw [hb])⟩
  · rw [← hpath]
    apply Batch.read_stage hnodup
    rw [hsources]
    exact List.mem_append_right _ List.mem_cons_self
  · intro f hf hsource heq
    have hname : f.className = bs.file.className := stagingPath_ofPath_inj.1 heq
    exact hfiles.className_ne (List.mem_filter.2 ⟨hf, hsource⟩) (hname.trans hclass)
  · have hperm := ((hclasses.perm hnodup).map (classPublication (some bs.className))).filter (·.isBean)
    rw [hsources, hfiles.filter_isBean hclass] at hperm
    rw [filter_isBean_publications, hb]
    exact List.perm_singleton.1 hperm

/-- A bootstrap source that has lost part of its name is no bean, and neither is any other class. -/
theorem filter_isBean_publications_eq_nil
    (hfiles : GeneratorPool.Accepted (some bs.className) generated)
    (hb : b = ⟨generated ++ [bs.file], some bs.className⟩)
    (hclasses : b.HasClasses (compiledClasses target)) (hclass : bs.file.className ≠ bs.className) :
    (p.publications b target watched).filter (·.isBean) = [] := by
  rw [filter_isBean_publications, List.filter_eq_nil_iff]
  intro r hr hbean
  obtain ⟨⟨name, content⟩, hc, rfl⟩ := List.mem_map.1 hr
  rw [isBean_classPublication, hb] at hbean
  obtain ⟨f, hf, rfl, -⟩ := (hclasses.mem_iff name content).1 hc
  rw [hb, Batch.sources_append_bootstrap] at hf
  rcases List.mem_append.1 hf with hf | hf
  · exact hfiles.not_reserved f hf hbean
  · cases List.mem_singleton.1 hf
    exact hclass (Option.some.inj hbean).symm

/-- With the copying compiler, the bootstrap source of a build is intact exactly if its name does not
    begin with the staging package. If it does, the build ends well all the same, without any bean. -/
theorem bootstrapIntact_iff (hcompiler : p.compiler = .copying)
    (hbootstrap : p.pool.bootstrap = some bs)
    (hgenerate : p.pool.generate (p.projectContext classes) s.disk = .ok b) (hfiles : b.files ≠ [])
    (hwatched : p.pool.watchedAssets (p.projectContext classes) (p.dumped b s).disk = .ok watched) :
    ∃ generated report s' added,
      b.files = generated ++ [bs.file] ∧ p.run classes s = .ok report s' ∧
      s'.published = s.published ++ added ∧
      (b.BootstrapIntact bs generated added ↔ Text.beginsWith stagingPackage bs.className = false) ∧
      (Text.beginsWith stagingPackage bs.className = true → added.filter (·.isBean) = []) := by
  obtain ⟨hvalid, generated, haccepted, hb⟩ :=
    GeneratorPool.generate_with_bootstrap hbootstrap hgenerate hfiles
  obtain ⟨report, s', target, hrun, hpublished, hclasses⟩ :=
    run_copying hcompiler hgenerate hfiles hwatched
  have hiff := Bootstrap.className_file_eq_iff (separatorFree_of_isValid hvalid)
  refine ⟨generated, report, s', _, by rw [hb], hrun, hpublished, ?_, ?_⟩
  · constructor
    · intro hintact
      exact hiff.1 hintact.class_reserved
    · intro hname
      exact bootstrapIntact_publications haccepted hb hclasses (hiff.2 hname)
  · intro hname
    apply filter_isBean_publications_eq_nil haccepted hb hclasses
    intro hclass
    rw [hiff.1 hclass] at hname
    cases hname

/-- A file of a generator. -/
def plainFile : GeneratedFile := ⟨.generic, "org/kie/A.java", Text.encode "class A {}"⟩

/-- A bootstrap source whose name keeps clear of the staging package. -/
def plainBootstrap : Bootstrap := ⟨"org.kie.Boot", "class Boot {}"⟩

theorem bootstrapIntact_iff_plainBootstrap :
    ∃ generated report s' added,
      [plainFile, plainBootstrap.file] = generated ++ [plainBootstrap.file] ∧
      (copying [plainFile] (some plainBootstrap)).run ⟨"/project/target/classes"⟩ (.start default) =
        .ok report s' ∧
      s'.published = (Session.start default).published ++ added ∧
      ((⟨[plainFile, plainBootstrap.file], some "org.kie.Boot"⟩ : Batch).BootstrapIntact plainBootstrap
          generated added ↔ Text.beginsWith stagingPackage "org.kie.Boot" = false) ∧
      (Text.beginsWith stagingPackage "org.kie.Boot" = true → added.filter (·.isBean) = []) :=
  @bootstrapIntact_iff (copying [plainFile] (some plainBootstrap)) _
    ⟨[plainFile, plainBootstrap.file], some "org.kie.Boot"⟩ (.start default) plainBootstrap [] rfl rfl
    (by decide +kernel) (by decide) rfl

/-- A bootstrap source whose name begins with the staging package. -/
def stagedBootstrap : Bootstrap := ⟨"src.main.java.Boot", "class Boot {}"⟩

/-- Although the name is valid, the bootstrap source is not intact, and no bean is published. -/
theorem not_bootstrapIntact_stagedBootstrap :
    ClassName.isValid stagedBootstrap.className = true ∧
    ∃ b report s',
      (copying [plainFile] (some stagedBootstrap)).pool.generate
        ((copying [plainFile] (some stagedBootstrap)).projectContext ⟨"/project/target/classes"⟩)
        (Session.start default).disk = .ok b ∧ b.files ≠ [] ∧
      (copying [plainFile] (some stagedBootstrap)).pool.watchedAssets
        ((copying [plainFile] (some stagedBootstrap)).projectContext ⟨"/project/target/classes"⟩)
        ((copying [plainFile] (some stagedBootstrap)).dumped b (.start default)).disk = .ok [] ∧
      (copying [plainFile] (some stagedBootstrap)).run ⟨"/project/target/classes"⟩ (.start default) =
        .ok report s' ∧
      s'.published = [.generatedClass "Boot" (Text.encode "class Boot {}") true,
        .generatedClass "org.kie.A" (Text.encode "class A {}") true, .feature "kie"] ∧
      ¬ ∃ generated added, b.BootstrapIntact stagedBootstrap generated added := by
  refine ⟨by decide +kernel, ⟨[plainFile, stagedBootstrap.file], some "src.main.java.Boot"⟩, _, _,
    by decide +kernel, by decide, rfl, rfl, by decide +kernel, ?_⟩
  rintro ⟨generated, added, hintact⟩
  exact absurd hintact.class_reserved (by decide +kernel)

end BuildPipeline
end Buildwright
