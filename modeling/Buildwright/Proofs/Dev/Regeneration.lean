-- SUMMARY: Which generated files can be read back after an incremental compilation: those that no later file has been written over.
import Buildwright.Generation.Pool
import Buildwright.Proofs.Build.Copying
import Buildwright.Proofs.Dev.Providers
import Buildwright.Proofs.Disk.Overwriting

/-!
# Regenerated files

A code generation provider writes generated files one after the other, and the class files of their sources
behind them. Nothing is done about files that go to one place, as a batch does that refuses them: only the
last of them can be read in the end. The compiler in between works from store to store.
-/
namespace Buildwright

/-- A compiler that leaves the files on the disk as they are. -/
def Compiler.KeepsFiles (c : Compiler) : Prop :=
  ∀ names sources ctx (w : Workshop) o w', w.disk.Rooted → c.compile names sources ctx w = .ok o w' →
    w.disk.Grows w'.disk ∧ w.disk.SameFiles w'.disk

namespace JavaProvider

variable {java : JavaProvider} {s : Session} {es : List (Path × Bytes)}

/-- The files of a store that are written below a directory. -/
def classFiles (output : Path) (target : Store) : List (Path × Bytes) :=
  target.entries.map fun e => (output.join ⟨e.1⟩, e.2)

theorem wp_writeTo_holdsLast {d : Disk} (output : Path) (target : Store) (h : d.HoldsLast es) :
    wp (target.writeTo output) (fun _ d' => d'.HoldsLast (es ++ classFiles output target))
      (fun _ _ => True) d :=
  h.wp_forM (fun e : String × Bytes => output.join ⟨e.1⟩) (·.2) target.entries

/-- The Java provider writes class files, which are the last of all. -/
theorem wp_compile_holdsLast (hcompiler : java.compiler.KeepsFiles) (files : SortedSet Path)
    (ctx : CompileContext) (h : s.disk.HoldsLast es) :
    wp (java.compile files ctx)
      (fun o s' => ∃ target : Store, o.written = target.names.map (fun name => ctx.output.join ⟨name⟩) ∧
        s'.disk.HoldsLast (es ++ classFiles ctx.output target))
      (fun _ _ => True) s := by
  cases hcase : files.isEmpty with
  | true =>
    rw [compile_of_isEmpty hcase]
    exact wp.pure ⟨.empty, rfl, by simpa [classFiles, Store.entries, Store.empty, SortedMap.empty] using h⟩
  | false =>
    refine wp_compile hcase (fun _ _ => trivial) (fun _ _ _ _ _ => trivial) (fun _ _ _ _ _ => trivial) ?_
    intro staged target warnings w _ hanswer
    obtain ⟨hgrows, hsame⟩ := hcompiler _ _ _ _ _ w h.rooted hanswer
    have hkept : w.disk.HoldsLast es := h.keep hgrows hsame
    refine (wp_writeTo_holdsLast ctx.output target hkept).mono ?_ fun _ _ _ => trivial
    exact fun _ d' hd' => ⟨target, rfl, hd'⟩

end JavaProvider

namespace CodegenProvider

variable {codegen : CodegenProvider} {s s' : Session} {es : List (Path × Bytes)}
  {files sources : SortedSet Path} {ctx : CompileContext} {generated : List GeneratedFile}
  {o : ProviderOutput}

/-- The path at which a generated file is written. -/
def target (output : Path) (f : GeneratedFile) : Path :=
  output.join ⟨f.bareTarget⟩

/-- The generated files where they are written. -/
def placed (output : Path) (generated : List GeneratedFile) : List (Path × Bytes) :=
  generated.map fun f => (target output f, f.content)

/-- The generated files are written in turn. -/
theorem wp_generate (output : Path) (h : s.disk.HoldsLast es) :
    wp (generated.foldlM (writeGenerated output) sources)
      (fun _ s' => s'.disk.HoldsLast (es ++ placed output generated)) (fun _ _ => True) s := by
  induction generated generalizing s es sources with
  | nil => exact wp.pure (by simpa [placed] using h)
  | cons f rest ih =>
    rw [List.foldlM_cons]
    refine wp.bind (wp.bind (wp.onSessionDisk
      ((h.wp_writeWithDirectories (target output f) f.content).mono ?_ fun _ _ _ => trivial)))
    intro _ d' hd'
    refine wp.pure ?_
    rw [placed, List.map_cons, List.append_cons]
    exact ih (s := { s with disk := d' }) hd'

/-- A code generation provider writes the generated files in turn, and class files behind them. -/
theorem wp_compileGenerated_holdsLast (hcompiler : codegen.java.compiler.KeepsFiles)
    (generated : List GeneratedFile) (ctx : CompileContext) (hd : s.disk.Rooted) :
    wp (codegen.compileGenerated generated ctx)
      (fun o s' => ∃ target : Store, o.written = target.names.map (fun name => ctx.output.join ⟨name⟩) ∧
        s'.disk.HoldsLast (placed ctx.output generated ++ JavaProvider.classFiles ctx.output target))
      (fun _ _ => True) s := by
  refine wp.bind ((wp_generate ctx.output (.start hd)).mono (fun sources s' h => ?_) fun _ _ _ => trivial)
  rw [List.nil_append] at h
  exact JavaProvider.wp_compile_holdsLast hcompiler sources ctx h

/-- After an incremental compilation that ends well, every generated file can be read where it was written, with
    its own content, exactly if it has the content of the last file that was written to its place, be that
    another generated file or a class file. -/
theorem reads_generated_iff (hd : s.disk.Rooted) (hcompiler : codegen.java.compiler.KeepsFiles)
    (h : codegen.compile files ctx s = .ok o s') :
    ∃ generated, ∃ classes : Store,
      codegen.transform (codegen.generationContext ctx) files.keys s.disk = .ok generated ∧
      o.written = classes.names.map (fun name => ctx.output.join ⟨name⟩) ∧
      ((∀ f ∈ generated, s'.disk.read (target ctx.output f) = .ok f.content) ↔
        ∀ f ∈ generated, s'.disk.LastThere
          (placed ctx.output generated ++ JavaProvider.classFiles ctx.output classes)
          (target ctx.output f) f.content) := by
  rw [compile_eq] at h
  have hspec : wp (Session.look .generation (codegen.transform (codegen.generationContext ctx) files.keys)
        >>= fun generated => codegen.compileGenerated generated ctx)
      (fun o s' => ∃ generated, ∃ classes : Store,
        codegen.transform (codegen.generationContext ctx) files.keys s.disk = .ok generated ∧
        o.written = classes.names.map (fun name => ctx.output.join ⟨name⟩) ∧
        s'.disk.HoldsLast (placed ctx.output generated ++ JavaProvider.classFiles ctx.output classes))
      (fun _ _ => True) s := by
    refine wp.bind (wp.look (fun generated hgenerated => ?_) fun _ _ => trivial)
    refine (wp_compileGenerated_holdsLast hcompiler generated ctx hd).mono ?_ fun _ _ _ => trivial
    exact fun o s' ⟨classes, hwritten, hholds⟩ => ⟨generated, classes, hgenerated, hwritten, hholds⟩
  obtain ⟨generated, classes, hgenerated, hwritten, hholds⟩ := hspec.of_ok h
  refine ⟨generated, classes, hgenerated, hwritten, forall₂_congr fun f hf => hholds.read_iff ?_⟩
  rw [List.map_append, List.mem_append]
  refine .inl (List.mem_map.2 ⟨(target ctx.output f, f.content), ?_, rfl⟩)
  exact List.mem_map.2 ⟨f, hf, rfl⟩

/-! ### Rules with one file name -/

theorem keepsFiles_copying : Compiler.copying.KeepsFiles := by
  intro names sources ctx w o w' hw hcompile
  simp only [Compiler.copying] at hcompile
  split at hcompile
  · cases hcompile
    exact ⟨hw.grows, .refl _⟩
  · cases hcompile

/-- A provider that takes rules over as they are, from a directory of the project. -/
def rulesProvider : CodegenProvider where
  extension := "drl"
  transform := passThrough "r" .generic
  appPackage := defaultAppPackage
  projectRoot := some "/p"
  policy := .assumeStale
  java := ⟨.copying, .assumeStale⟩

/-- A disk with two rules below that directory, and with rules of the same file name in others. -/
def ruleFiles : Disk where
  entries := [(["p"], .directory 0), (["p", "r"], .directory 0), (["p", "r", "a"], .directory 0),
    (["p", "r", "a", "R.drl"], .file ⟨Text.encode "rule one", 0, false⟩),
    (["p", "r", "S.drl"], .file ⟨Text.encode "rule two", 0, false⟩),
    (["p", "R.drl"], .file ⟨Text.encode "rule three", 0, false⟩),
    (["p", "b"], .directory 0), (["p", "b", "R.drl"], .file ⟨Text.encode "rule four", 0, false⟩),
    (["out"], .directory 0)]
  workingDirectory := []
  now := 0

theorem rooted_ruleFiles : ruleFiles.Rooted :=
  .of_entries (by decide) (by decide)

/-- The rules below the directory. -/
def innerRules : SortedSet Path :=
  .setOf ["/p/r/a/R.drl", "/p/r/S.drl"]

/-- The files that are generated for the rules below the directory. -/
def innerFiles : List GeneratedFile :=
  [⟨.generic, "S.drl", Text.encode "rule two"⟩, ⟨.generic, "a/R.drl", Text.encode "rule one"⟩]

/-- The rules below the directory have paths of their own, and each is there in the end. -/
theorem reads_generated_iff_innerRules :
    ruleFiles.Rooted ∧ Compiler.copying.KeepsFiles ∧
      ∃ s' classes, rulesProvider.compile innerRules (.make "/out" []) (.start ruleFiles) = .ok ⟨[], []⟩ s' ∧
        ∀ f ∈ innerFiles, s'.disk.LastThere
          (placed "/out" innerFiles ++ JavaProvider.classFiles "/out" classes) (target "/out" f) f.content := by
  have hrun : (Session.effect (rulesProvider.compile innerRules (.make "/out" []))
      (.start ruleFiles)).1.toOption = some ⟨[], []⟩ := by decide +kernel
  obtain ⟨s', hcompile, hdisk⟩ := Session.exists_run_of_effect hrun
  have htransform : rulesProvider.transform (rulesProvider.generationContext (.make "/out" []))
      innerRules.keys ruleFiles = .ok innerFiles := by decide +kernel
  obtain ⟨generated, classes, hgenerated, -, hiff⟩ :=
    reads_generated_iff rooted_ruleFiles keepsFiles_copying hcompile
  obtain rfl : innerFiles = generated := Except.ok.inj (htransform.symm.trans hgenerated)
  refine ⟨rooted_ruleFiles, keepsFiles_copying, s', classes, hcompile, hiff.1 ?_⟩
  rw [hdisk]
  decide +kernel

/-- The rules that do not lie below the directory. -/
def outerRules : SortedSet Path :=
  .setOf ["/p/R.drl", "/p/b/R.drl"]

/-- The files that are generated for them, which have one path. -/
def outerFiles : List GeneratedFile :=
  [⟨.generic, "R.drl", Text.encode "rule three"⟩, ⟨.generic, "R.drl", Text.encode "rule four"⟩]

/-- Where a batch refuses two files of one path, an incremental compilation writes the second over the first,
    and ends well. -/
theorem not_reads_generated_outerRules :
    ∃ s', rulesProvider.compile outerRules (.make "/out" []) (.start ruleFiles) = .ok ⟨[], []⟩ s' ∧
      rulesProvider.transform (rulesProvider.generationContext (.make "/out" [])) outerRules.keys ruleFiles =
        .ok outerFiles ∧
      outerFiles.foldlM (GeneratorPool.accept none) [] = .error (.duplicatePath "R.drl") ∧
      ¬ ∀ f ∈ outerFiles, s'.disk.read (target "/out" f) = .ok f.content := by
  have hrun : (Session.effect (rulesProvider.compile outerRules (.make "/out" []))
      (.start ruleFiles)).1.toOption = some ⟨[], []⟩ := by decide +kernel
  obtain ⟨s', hcompile, hdisk⟩ := Session.exists_run_of_effect hrun
  refine ⟨s', hcompile, by decide +kernel, by decide +kernel, ?_⟩
  rw [hdisk]
  decide +kernel

end CodegenProvider
end Buildwright
