-- SUMMARY: A compiler that copies sources, and the classes that a build makes with it.
import Buildwright.Proofs.Build.AllOrNothing
import Buildwright.Proofs.Entries
import Buildwright.Proofs.Generation.Acceptance

/-!
# The copying compiler

The copying compiler writes every source, as it is, to the class file that belongs to its staged name.
What a build makes with it shows where each source went: the classes are those of the staged sources, each
with the content that was staged for it.
-/
namespace Buildwright

open ClassName (ofPath classFilePath)

/-! ## Copying -/

/-- Writes the source under a staged name to its class file. -/
def Store.copySource (sources target : Store) (name : String) : Except StoreError Store :=
  (sources.read name).map (target.write (classFilePath (ofPath name)))

/-- Writes the sources under staged names to their class files. -/
def Store.copySources (sources target : Store) (names : List String) : Except StoreError Store :=
  names.foldlM sources.copySource target

/-- The compiler that copies sources, and finds fault with none. -/
def Compiler.copying : Compiler where
  name := "copying"
  compile names sources _ := fun w =>
    match sources.copySources .empty names with
    | .ok target => .ok (.ofDiagnostics target []) w
    | .error e => .error (.store e) w

namespace Store

variable {sources target target' : Store} {names : List String}

/-- Copying fails for no name that can be read. -/
theorem copySources_isOk (h : ∀ name ∈ names, name ∈ sources.names) :
    ∃ target', sources.copySources target names = .ok target' := by
  induction names generalizing target with
  | nil => exact ⟨target, rfl⟩
  | cons name rest ih =>
    obtain ⟨content, hread⟩ := mem_names.1 (h name List.mem_cons_self)
    obtain ⟨target', htarget'⟩ :=
      @ih (target.write (classFilePath (ofPath name)) content) fun n hn =>
        h n (List.mem_cons_of_mem name hn)
    refine ⟨target', ?_⟩
    rw [copySources, List.foldlM_cons, bind_eq_ok]
    exact ⟨_, by rw [copySource, hread]; rfl, htarget'⟩

theorem copySource_eq_ok {name : String} :
    sources.copySource target name = .ok target' ↔
      ∃ content, sources.read name = .ok content ∧
        target' = target.write (classFilePath (ofPath name)) content := by
  unfold copySource
  cases sources.read name with
  | ok content => simp [Except.map, eq_comm]
  | error e => simp [Except.map]

theorem mem_names_copySources (h : sources.copySources target names = .ok target') {key : String} :
    key ∈ target'.names ↔ key ∈ names.map (fun n => classFilePath (ofPath n)) ∨ key ∈ target.names := by
  induction names generalizing target with
  | nil =>
    cases h
    simp
  | cons name rest ih =>
    rw [copySources, List.foldlM_cons, bind_eq_ok] at h
    obtain ⟨_, hone, hrest⟩ := h
    obtain ⟨content, -, rfl⟩ := copySource_eq_ok.1 hone
    rw [ih hrest, mem_names_write, List.map_cons, List.mem_cons, or_left_comm, or_assoc]

/-- What copying has put under a key is a source whose class file it is. -/
theorem mem_entries_copySources (h : sources.copySources target names = .ok target') {key : String}
    {content : Bytes} (hmem : (key, content) ∈ target'.entries) :
    (∃ name ∈ names, key = classFilePath (ofPath name) ∧ sources.read name = .ok content) ∨
      (key, content) ∈ target.entries := by
  induction names generalizing target with
  | nil =>
    cases h
    exact .inr hmem
  | cons name rest ih =>
    rw [copySources, List.foldlM_cons, bind_eq_ok] at h
    obtain ⟨_, hone, hrest⟩ := h
    obtain ⟨content', hread, rfl⟩ := copySource_eq_ok.1 hone
    rcases ih hrest with ⟨n, hn, hkey⟩ | hold
    · exact .inl ⟨n, List.mem_cons_of_mem name hn, hkey⟩
    · rcases mem_entries_write.1 hold with ⟨hkey, rfl⟩ | ⟨-, hold⟩
      · exact .inl ⟨name, List.mem_cons_self, hkey, hread⟩
      · exact .inr hold

end Store

/-! ## The classes of a batch -/

/-- The classes that a batch has when its sources are copied: those of its sources, each once, and with
    the content that was staged. -/
structure Batch.HasClasses (b : Batch) (classes : List (String × Bytes)) : Prop where
  names_nodup : (classes.map (·.1)).Nodup
  mem_iff : ∀ name content, (name, content) ∈ classes ↔
    ∃ f ∈ b.sources, name = f.className ∧ b.stage.store.read f.stagingPath = .ok content

namespace Batch

variable {b : Batch}

theorem mem_stage_names {name : String} :
    name ∈ b.stage.names ↔ ∃ f ∈ b.sources, f.stagingPath = name :=
  List.mem_map

theorem stage_names_readable : ∀ name ∈ b.stage.names, name ∈ b.stage.store.names := by
  exact fun _ hname => mem_stage_store_names.2 (mem_stage_names.1 hname)

theorem stagingPaths_nodup (h : (b.sources.map (·.className)).Nodup) :
    (b.sources.map (·.stagingPath)).Nodup := by
  refine (List.nodup_map_iff_inj_on h.of_map).2 ?_
  intro f hf g hg heq
  exact List.inj_on_of_nodup_map h hf hg (ClassName.stagingPath_ofPath_inj.1 heq)

/-- What is staged are the sources with their contents, if no two files share a class. -/
theorem entries_stage_perm (h : (b.sources.map (·.className)).Nodup) :
    b.stage.store.entries.Perm (b.sources.map fun f => (f.stagingPath, f.content)) := by
  apply Store.entries_ofList_perm
  simpa [List.map_map, Function.comp_def] using stagingPaths_nodup h

/-- A staged source is that of its file, if no two files share a class. -/
theorem read_stage (h : (b.sources.map (·.className)).Nodup) {f : GeneratedFile}
    (hf : f ∈ b.sources) : b.stage.store.read f.stagingPath = .ok f.content :=
  Store.read_eq_ok.2 ((entries_stage_perm h).mem_iff.2 (List.mem_map_of_mem hf))

theorem HasClasses.perm {classes : List (String × Bytes)} (hclasses : b.HasClasses classes)
    (h : (b.sources.map (·.className)).Nodup) :
    classes.Perm (b.sources.map fun f => (f.className, f.content)) := by
  have hnodup : (b.sources.map fun f => (f.className, f.content)).Nodup := by
    apply List.Nodup.of_map Prod.fst
    rw [List.map_map]
    exact h
  refine (List.perm_ext_iff_of_nodup hclasses.names_nodup.of_map hnodup).2 ?_
  rintro ⟨name, content⟩
  rw [hclasses.mem_iff, List.mem_map]
  constructor
  · rintro ⟨f, hf, rfl, hread⟩
    rw [read_stage h hf] at hread
    rw [← Except.ok.inj hread]
    exact ⟨f, hf, rfl⟩
  · rintro ⟨f, hf, heq⟩
    obtain ⟨rfl, rfl⟩ := Prod.mk.inj heq
    exact ⟨f, hf, rfl, read_stage h hf⟩

end Batch

/-! ## The classes of a copied batch -/

theorem Registration.compiledClass?_classFilePath (path : String) (content : Bytes) :
    compiledClass? (classFilePath (ofPath path), content) = some (ofPath path, content) := by
  have hend : Text.endsWith ClassName.classSuffix (classFilePath (ofPath path)) = true :=
    Text.endsWith_eq_true.2 ⟨_, rfl⟩
  rw [compiledClass?, if_pos hend, ClassName.ofPath_classFilePath, ClassName.dotted_ofPath]

namespace Batch

variable {b : Batch} {target : Store}

theorem mem_entries_copied (h : b.stage.store.copySources .empty b.stage.names = .ok target)
    {key : String} {content : Bytes} :
    (key, content) ∈ target.entries ↔
      ∃ f ∈ b.sources, key = classFilePath f.className ∧
        b.stage.store.read f.stagingPath = .ok content := by
  have hback : ∀ f : GeneratedFile, ofPath f.stagingPath = f.className := by
    intro f
    rw [GeneratedFile.stagingPath, ClassName.ofPath_stagingPath]
    exact ClassName.dotted_ofPath f.path
  have hforth : ∀ {content}, (key, content) ∈ target.entries →
      ∃ f ∈ b.sources, key = classFilePath f.className ∧
        b.stage.store.read f.stagingPath = .ok content := by
    intro content hmem
    rcases Store.mem_entries_copySources h hmem with ⟨name, hname, hkey, hread⟩ | hnone
    · obtain ⟨f, hf, rfl⟩ := mem_stage_names.1 hname
      exact ⟨f, hf, by rw [hkey, hback], hread⟩
    · cases hnone
  constructor
  · exact hforth
  · rintro ⟨f, hf, hkey, hread⟩
    have hname : key ∈ target.names := by
      refine (Store.mem_names_copySources h).2 (.inl ?_)
      exact List.mem_map.2 ⟨f.stagingPath, List.mem_map_of_mem hf, by rw [hkey, hback]⟩
    -- The entry under the key is that of some source, which can only be one with the same class.
    obtain ⟨content', hcontent'⟩ := Store.mem_names.1 hname
    rw [Store.read_eq_ok] at hcontent'
    obtain ⟨g, -, hkey', hread'⟩ := hforth hcontent'
    have hclass : f.className = g.className := by
      rw [hkey] at hkey'
      exact ClassName.classFilePath_ofPath_inj.1 hkey'
    have hpath : f.stagingPath = g.stagingPath := ClassName.stagingPath_ofPath_inj.2 hclass
    rw [hpath, hread'] at hread
    rwa [← Except.ok.inj hread]

theorem copied_ne_empty (h : b.stage.store.copySources .empty b.stage.names = .ok target)
    (hs : b.sources ≠ []) : target.isEmpty ≠ true := by
  intro hempty
  obtain ⟨f, hf⟩ := List.exists_mem_of_ne_nil _ hs
  have hname : classFilePath (ofPath f.stagingPath) ∈ target.names :=
    (Store.mem_names_copySources h).2 (.inl (List.mem_map_of_mem (List.mem_map_of_mem hf)))
  obtain ⟨content, hread⟩ := Store.mem_names.1 hname
  rw [Store.read_eq_ok, Store.entries, List.isEmpty_iff.1 hempty] at hread
  cases hread

/-- Copying a batch makes the classes of its sources. -/
theorem hasClasses_copied (h : b.stage.store.copySources .empty b.stage.names = .ok target) :
    b.HasClasses (Registration.compiledClasses target) := by
  constructor
  · rw [Registration.compiledClasses, List.map_filterMap]
    have hkeys : target.entries.Pairwise fun e e' => e.1 ≠ e'.1 :=
      List.pairwise_map.1 target.files.keys_nodup
    refine List.pairwise_filterMap.2 (hkeys.imp_of_mem ?_)
    rintro ⟨key, content⟩ ⟨key', content'⟩ hmem hmem' hne name hname name' hname' rfl
    obtain ⟨f, -, rfl, -⟩ := (mem_entries_copied h).1 hmem
    obtain ⟨g, -, rfl, -⟩ := (mem_entries_copied h).1 hmem'
    have hf : f.className = name := by
      simpa [GeneratedFile.className, Registration.compiledClass?_classFilePath] using hname
    have hg : g.className = name := by
      simpa [GeneratedFile.className, Registration.compiledClass?_classFilePath] using hname'
    exact hne (by rw [hf, hg])
  · intro name content
    rw [Registration.compiledClasses, List.mem_filterMap]
    constructor
    · rintro ⟨⟨key, content'⟩, hmem, hclass⟩
      obtain ⟨f, hf, rfl, hread⟩ := (mem_entries_copied h).1 hmem
      rw [GeneratedFile.className, Registration.compiledClass?_classFilePath] at hclass
      obtain ⟨rfl, rfl⟩ := Prod.mk.inj (Option.some.inj hclass)
      exact ⟨f, hf, rfl, hread⟩
    · rintro ⟨f, hf, rfl, hread⟩
      refine ⟨_, (mem_entries_copied h).2 ⟨f, hf, rfl, hread⟩, ?_⟩
      exact Registration.compiledClass?_classFilePath f.path content

end Batch

/-! ## Builds that copy -/

/-- The generator that gives the same files every time, and watches none. -/
def Generator.constant (files : List GeneratedFile) : Generator where
  name := "constant"
  generate _ _ := .ok files
  watchedAssets _ _ := .ok []

namespace BuildPipeline

/-- The build of given files with the copying compiler. -/
def copying (files : List GeneratedFile) (bootstrap : Option Bootstrap) : BuildPipeline where
  pool := ⟨[.constant files], bootstrap⟩
  compiler := .copying
  restPolicy := .jaxRsResource
  debugDump := ⟨none⟩
  appPackage := defaultAppPackage
  dependencyInjection := true
  classpath := []

variable {p : BuildPipeline} {classes : Path} {b : Batch} {s : Session} {target : Store}

theorem answer_copying (hcompiler : p.compiler = .copying)
    (h : b.stage.store.copySources .empty b.stage.names = .ok target) :
    p.answer classes b s = .ok (.success target []) ⟨s.disk, []⟩ := by
  unfold answer
  rw [hcompiler, Compiler.copying]
  simp only [h]
  rfl

/-- With the copying compiler, compilation cannot fail. -/
theorem wp_compileBatch_copying (hcompiler : p.compiler = .copying)
    (h : b.stage.store.copySources .empty b.stage.names = .ok target) :
    wp (p.compileBatch classes b)
      (fun out s' => out = (target, []) ∧ s'.disk = s.disk ∧ s'.published = s.published)
      (fun _ _ => False) s := by
  by_cases hs : b.sources = []
  · rw [stage_names_eq_nil.2 hs] at h
    cases h
    exact wp_compileBatch (fun _ => ⟨rfl, rfl, rfl⟩) fun hsome => absurd hs hsome
  · refine wp_compileBatch_of_success hs (answer_copying hcompiler h) (fun _ => ⟨rfl, rfl, rfl⟩) ?_
    exact fun hempty => Batch.copied_ne_empty h hs hempty

/-- With the copying compiler, a build with a batch ends well, and what it publishes are the classes of
    the sources of the batch. -/
theorem run_copying {watched : List Path} (hcompiler : p.compiler = .copying)
    (hgenerate : p.pool.generate (p.projectContext classes) s.disk = .ok b) (hfiles : b.files ≠ [])
    (hwatched : p.pool.watchedAssets (p.projectContext classes) (p.dumped b s).disk = .ok watched) :
    ∃ report s' target, p.run classes s = .ok report s' ∧
      s'.published = s.published ++ p.publications b target watched ∧
      b.HasClasses (Registration.compiledClasses target) := by
  have hcopies : ∃ target, b.stage.store.copySources .empty b.stage.names = .ok target :=
    Store.copySources_isOk b.stage_names_readable
  obtain ⟨target, htarget⟩ := hcopies
  have hrun : wp (p.run classes)
      (fun _ s' => s'.published = s.published ++ p.publications b target watched)
      (fun _ _ => False) s := by
    apply wp_run_of_generate hgenerate
    · intro hempty
      exact absurd hempty hfiles
    · intro _
      refine wp.mono ?_ (fun _ _ h => h) (wp_compileBatch_copying hcompiler htarget)
      rintro _ s' ⟨rfl, hdisk, hpublished⟩
      rw [hdisk, hwatched, hpublished]
      constructor
      · intro e he
        cases he
      · intro watched' hw
        cases hw
        rfl
  obtain ⟨report, s', hreturns, hpublished⟩ := hrun.returns
  exact ⟨report, s', target, hreturns, hpublished, Batch.hasClasses_copied htarget⟩

end BuildPipeline
end Buildwright
