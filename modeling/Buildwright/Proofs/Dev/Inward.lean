-- SUMMARY: Generated files are written below their directory, as long as their paths name nothing once they have gone above it.
import Buildwright.Generation.Dump
import Buildwright.Proofs.Build.Copying
import Buildwright.Proofs.Dev.Providers
import Buildwright.Proofs.Disk.Lexical

/-!
# Files that stay inward

The paths of generated files are joined to a directory as they are, be it for copies or for the classes of
an incremental compilation. A path that stays inward leads to a place below the directory, and so do the
paths of the directories on the way. One that is absolute, or goes above where it begins, may lead anywhere.
-/
namespace Buildwright

variable {files : List GeneratedFile} {f : GeneratedFile} {d : Disk} {codegen : CodegenProvider}
  {assets sources : SortedSet Path} {ctx : CompileContext} {s : Session}

namespace GeneratedFile

/-- The path of a file names nothing once it has gone above where it begins. -/
def IsInward (f : GeneratedFile) : Prop :=
  Path.inward (some 0) (Path.mk f.bareTarget).components = true

instance (f : GeneratedFile) : Decidable f.IsInward :=
  inferInstanceAs (Decidable (_ = true))

/-- A file that stays inward is written with its directories below any directory. -/
theorem IsInward.wp_writeWithDirectories (h : f.IsInward) (hd : d.Rooted) (directory : Path) :
    wp (Disk.writeWithDirectories (directory.join ⟨f.bareTarget⟩) f.content)
      (fun _ d' => d.Grows d' ∧ d.ChangedBelow d' directory)
      (fun _ d' => d.Grows d' ∧ d.ChangedBelow d' directory) d := by
  refine (hd.wp_writeWithDirectories_along _ f.content).mono ?_ ?_
  · exact fun _ _ ⟨hgrows, halong⟩ => ⟨hgrows, halong.changedBelow h⟩
  · exact fun _ _ ⟨hgrows, halong⟩ => ⟨hgrows, halong.changedBelow h⟩

end GeneratedFile

namespace DebugDump

theorem writeCopy_changedBelow (directory : Path) (acc : Nat × Disk) (hf : f.IsInward) (hd : acc.2.Rooted) :
    acc.2.Grows (writeCopy directory acc f).2 ∧ acc.2.ChangedBelow (writeCopy directory acc f).2 directory := by
  have hwrite := hf.wp_writeWithDirectories hd directory
  unfold writeCopy
  cases hrun : Disk.writeWithDirectories (directory.join ⟨f.bareTarget⟩) f.content acc.2 with
  | ok u d' => exact hwrite.of_ok hrun
  | error e d' => exact hwrite.of_error hrun

/-- Copies of files that stay inward lie below the directory for copies. -/
theorem writeAll_changedBelow (hd : d.Rooted) (hfiles : ∀ f ∈ files, f.IsInward) (directory : Path) :
    d.ChangedBelow ((DebugDump.mk (some directory)).writeAll files d).2 directory := by
  have hcopies : ∀ acc : Nat × Disk, d.Grows acc.2 → d.ChangedBelow acc.2 directory →
      d.ChangedBelow (files.foldl (writeCopy directory) acc).2 directory := by
    induction files with
    | nil => exact fun _ _ hbelow => hbelow
    | cons f rest ih =>
      intro acc hgrows hbelow
      obtain ⟨hf, hrest⟩ := List.forall_mem_cons.1 hfiles
      obtain ⟨hgrows', hbelow'⟩ := writeCopy_changedBelow directory acc hf hgrows.rooted
      have hall := hbelow.trans hgrows.extends_before hbelow' hgrows'.extends_before
      rw [List.foldl_cons]
      exact ih hrest (writeCopy directory acc f) (hgrows.trans hgrows') hall
  exact hcopies (0, d) hd.grows (.refl d directory)

end DebugDump

namespace CodegenProvider

/-- What a provider does before it hands the sources among the generated files to the Java provider. -/
def generate (codegen : CodegenProvider) (assets : SortedSet Path) (ctx : CompileContext) :
    EStateM RecompileError Session (SortedSet Path) := do
  let generated ← Session.look .generation (codegen.transform (codegen.generationContext ctx) assets.keys)
  generated.foldlM (writeGenerated ctx.output) .empty

theorem compile_eq_generate :
    codegen.compile assets ctx = codegen.generate assets ctx >>= fun sources => codegen.java.compile sources ctx := by
  rw [compile_eq, generate, bind_assoc]
  rfl

/-- Generated files that stay inward are written below the output directory. -/
theorem wp_writeGenerated_changedBelow (hfiles : ∀ f ∈ files, f.IsInward) (output : Path)
    (hgrows : d.Grows s.disk) (hbelow : d.ChangedBelow s.disk output) :
    wp (files.foldlM (writeGenerated output) sources) (fun _ s' => d.ChangedBelow s'.disk output)
      (fun _ s' => d.ChangedBelow s'.disk output) s := by
  induction files generalizing s sources with
  | nil => exact wp.pure hbelow
  | cons f rest ih =>
    obtain ⟨hf, hrest⟩ := List.forall_mem_cons.1 hfiles
    rw [List.foldlM_cons]
    refine wp.bind (wp.bind (wp.onSessionDisk
      ((hf.wp_writeWithDirectories hgrows.rooted output).mono ?_ ?_)))
    · rintro _ d' ⟨hgrows', hbelow'⟩
      refine wp.pure (ih (s := { s with disk := d' }) hrest (hgrows.trans hgrows') ?_)
      exact hbelow.trans hgrows.extends_before hbelow' hgrows'.extends_before
    · exact fun _ d' ⟨hgrows', hbelow'⟩ =>
        hbelow.trans hgrows.extends_before hbelow' hgrows'.extends_before

theorem wp_generate_changedBelow (hd : s.disk.Rooted)
    (hfiles : ∀ generated, codegen.transform (codegen.generationContext ctx) assets.keys s.disk = .ok generated →
      ∀ f ∈ generated, f.IsInward) :
    wp (codegen.generate assets ctx) (fun _ s' => s.disk.ChangedBelow s'.disk ctx.output)
      (fun _ s' => s.disk.ChangedBelow s'.disk ctx.output) s := by
  refine wp.bind (wp.look (fun generated hgenerated => ?_) fun _ _ => .refl _ _)
  exact wp_writeGenerated_changedBelow (hfiles generated hgenerated) ctx.output hd.grows (.refl _ _)

end CodegenProvider

/-- Generated files that stay inward are copied below the directory for copies, and written below the output
    directory before they are compiled, on every disk and however far either comes. -/
theorem written_changedBelow (hd : s.disk.Rooted) (hfiles : ∀ f ∈ files, f.IsInward) (directory : Path)
    (htransform : ∀ generated,
      codegen.transform (codegen.generationContext ctx) assets.keys s.disk = .ok generated → generated = files) :
    s.disk.ChangedBelow ((DebugDump.mk (some directory)).writeAll files s.disk).2 directory ∧
      wp (codegen.generate assets ctx) (fun _ s' => s.disk.ChangedBelow s'.disk ctx.output)
        (fun _ s' => s.disk.ChangedBelow s'.disk ctx.output) s := by
  refine ⟨DebugDump.writeAll_changedBelow hd hfiles directory,
    CodegenProvider.wp_generate_changedBelow hd fun generated hgenerated => ?_⟩
  rw [htransform generated hgenerated]
  exact hfiles

/-! ## Files that go elsewhere -/

/-- A disk with nothing but an empty directory. -/
def emptyDirectory : Disk where
  entries := [(["d"], .directory 0)]
  workingDirectory := []
  now := 0

theorem rooted_emptyDirectory : emptyDirectory.Rooted :=
  .of_entries (by decide) (by decide)

/-- A provider whose transform gives fixed files. -/
def fixedProvider (files : List GeneratedFile) : CodegenProvider where
  extension := "drl"
  transform _ _ _ := .ok files
  appPackage := defaultAppPackage
  projectRoot := none
  policy := .assumeStale
  java := ⟨.copying, .assumeStale⟩

/-- A file whose path goes up, but not above where it begins. -/
def detourFile : GeneratedFile :=
  ⟨.generic, "a/../b/x.txt", Text.encode "x"⟩

/-- A file whose path goes above where it begins, and one whose path begins at the root. -/
def outwardFiles : List GeneratedFile :=
  [⟨.generic, "../x.txt", Text.encode "x"⟩, ⟨.generic, "/y.txt", Text.encode "y"⟩]

theorem written_changedBelow_detourFile :
    emptyDirectory.Rooted ∧ detourFile.IsInward ∧
      emptyDirectory.ChangedBelow ((DebugDump.mk (some "/d")).writeAll [detourFile] emptyDirectory).2 "/d" ∧
      wp ((fixedProvider [detourFile]).generate .empty (.make "/d" []))
        (fun _ s' => emptyDirectory.ChangedBelow s'.disk "/d")
        (fun _ s' => emptyDirectory.ChangedBelow s'.disk "/d") (.start emptyDirectory) := by
  have hinward : detourFile.IsInward := by decide +kernel
  have hfiles : ∀ f ∈ [detourFile], f.IsInward := by simpa using hinward
  exact ⟨rooted_emptyDirectory, hinward, written_changedBelow (s := .start emptyDirectory) rooted_emptyDirectory
    hfiles "/d" fun _ hgenerated => (Except.ok.inj hgenerated).symm⟩

/-- The disk once both have been written. -/
def leftTheDirectory : Disk where
  entries := [(["d"], .directory 0), (["x.txt"], .file ⟨Text.encode "x", 0, false⟩),
    (["y.txt"], .file ⟨Text.encode "y", 0, false⟩)]
  workingDirectory := []
  now := 0

theorem not_changedBelow_leftTheDirectory : ¬ emptyDirectory.ChangedBelow leftTheDirectory "/d" := by
  intro hbelow
  have hunlinked : leftTheDirectory.Unlinked := .of_entries (by simp [leftTheDirectory])
  have hchanged : ¬ emptyDirectory.SameAt leftTheDirectory ["x.txt"] := by
    unfold Disk.SameAt
    decide
  have hplace : (Path.mk "/d").lexical emptyDirectory.workingDirectory = ["d"] := by decide
  have hcomponents : (Path.mk "/d").components = [.root, .named "d"] := by decide
  rcases hbelow.lies hunlinked rfl hchanged with ⟨ahead, -, heq⟩ | ⟨front, hfront, heq⟩
  · rw [hplace] at heq
    simp at heq
  · rw [hcomponents, ← List.mem_inits] at hfront
    have hother : ∀ front ∈ [.root, .named "d"].inits,
        ["x.txt"] ≠ front.foldl Path.Component.follow emptyDirectory.workingDirectory := by decide
    exact hother front hfront heq

/-- Neither the copies nor the files of an incremental compilation are kept below the directory that they are
    meant for. -/
theorem not_written_changedBelow_outwardFiles :
    ¬ emptyDirectory.ChangedBelow ((DebugDump.mk (some "/d")).writeAll outwardFiles emptyDirectory).2 "/d" ∧
      ∃ sources s', (fixedProvider outwardFiles).generate .empty (.make "/d" []) (.start emptyDirectory) =
        .ok sources s' ∧ ¬ emptyDirectory.ChangedBelow s'.disk "/d" := by
  have hcopies : ((DebugDump.mk (some "/d")).writeAll outwardFiles emptyDirectory).2 = leftTheDirectory := by
    decide +kernel
  have hrun : (Session.effect ((fixedProvider outwardFiles).generate .empty (.make "/d" []))
      (.start emptyDirectory)).1.toOption = some .empty := by decide +kernel
  have heffect : (Session.effect ((fixedProvider outwardFiles).generate .empty (.make "/d" []))
      (.start emptyDirectory)).2 = leftTheDirectory := by decide +kernel
  obtain ⟨s', hgenerate, hdisk⟩ := Session.exists_run_of_effect hrun
  refine ⟨hcopies ▸ not_changedBelow_leftTheDirectory, _, s', hgenerate, ?_⟩
  rw [hdisk, heffect]
  exact not_changedBelow_leftTheDirectory

end Buildwright
