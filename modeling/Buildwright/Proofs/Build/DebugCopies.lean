-- SUMMARY: Copies for debugging: what a build shows with and without them, and when that is the same.
import Buildwright.Proofs.Build.Copying
import Buildwright.Proofs.Generation.Watching

/-!
# Debug copies and the outcome of a build

Copies for debugging are written once the files are generated, and before the files to be watched are
searched for. They are no part of what is compiled. For pools of assets and compilers that do not depend on
the disk, a build therefore shows the same with and without copies exactly if the search finds none of them.
It does find a copy that lies below a directory of assets and has their extension.
-/
namespace Buildwright

/-! ## Compilers that do not depend on the disk -/

namespace Compiler

/-- What a compiler answers on a disk. -/
def reply (c : Compiler) (names : List String) (sources : Store) (ctx : CompileContext) (d : Disk) :
    Except CompileError CompilationOutcome :=
  match c.compile names sources ctx ⟨d, []⟩ with
  | .ok o _ => .ok o
  | .error e _ => .error e

/-- The disk that a compiler leaves. -/
def leaves (c : Compiler) (names : List String) (sources : Store) (ctx : CompileContext) (d : Disk) :
    Disk :=
  match c.compile names sources ctx ⟨d, []⟩ with
  | .ok _ w | .error _ w => w.disk

/-- A compiler whose answers depend on what it is asked only, and that leaves what a search finds as it
    is. -/
structure Steady {α : Type} (c : Compiler) (search : Disk → α) : Prop where
  reply_eq : ∀ names sources ctx d d', c.reply names sources ctx d = c.reply names sources ctx d'
  search_eq : ∀ names sources ctx d, search (c.leaves names sources ctx d) = search d

end Compiler

namespace BuildPipeline

variable {p : BuildPipeline} {classes : Path} {b : Batch} {s : Session}

/-! ## What a build shows -/

/-- The build without copies for debugging. -/
def withoutDump (p : BuildPipeline) : BuildPipeline :=
  { p with debugDump := ⟨none⟩ }

/-- What a build shows: how it ends, but for the number of copies, and everything that is published by
    then. -/
def shown (p : BuildPipeline) (classes : Path) (s : Session) :
    Except BuildError BuildReport × List Publication :=
  match p.run classes s with
  | .ok report s' => (.ok { report with debugFilesWritten := 0 }, s'.published)
  | .error e s' => (.error e, s'.published)

/-- The output of a batch on a disk, with the warnings, or the failure of its compilation. -/
def compiled (p : BuildPipeline) (classes : Path) (b : Batch) (d : Disk) :
    Except BuildError (Store × List Diagnostic) :=
  if b.sources = [] then .ok (.empty, [])
  else
    match p.compiler.reply b.stage.names b.stage.store (p.compileContext classes) d with
    | .ok (.success target warnings) =>
      if target.isEmpty then .error (.emptyOutput b.stage.names.length) else .ok (target, warnings)
    | .ok (.failure errors) => .error (.compilation (CompilationOutcome.failure errors).summary)
    | .error e => .error (.compiler e)

/-- What a build with a batch shows, given what is found to be watched. -/
def shownOf (p : BuildPipeline) (classes : Path) (b : Batch) (s : Session)
    (watched : Except GenerationError (List Path)) : Except BuildError BuildReport × List Publication :=
  match p.compiled classes b s.disk with
  | .error e => (.error e, s.published)
  | .ok (target, warnings) =>
    match watched with
    | .error e => (.error (.generation e), s.published)
    | .ok watched =>
      (.ok { p.finished classes b s target warnings watched with debugFilesWritten := 0 },
        s.published ++ p.publications b target watched)

/-- The files to be watched, as they are found on the disk of a session. -/
def watchedOn (p : BuildPipeline) (classes : Path) (s : Session) : Except GenerationError (List Path) :=
  p.pool.watchedAssets (p.projectContext classes) s.disk

section Steady

variable (hcompiler : p.compiler.Steady (p.pool.watchedAssets (p.projectContext classes)))

include hcompiler in
theorem compiled_eq (d d' : Disk) : p.compiled classes b d = p.compiled classes b d' := by
  rw [compiled, compiled, hcompiler.reply_eq _ _ _ d d']

include hcompiler in
/-- Compilation ends as it is told, publishes nothing, and changes nothing for the search. -/
theorem wp_compileBatch_steady :
    wp (p.compileBatch classes b)
      (fun out s' => p.compiled classes b s.disk = .ok out ∧ s'.published = s.published ∧
        p.watchedOn classes s' = p.watchedOn classes s)
      (fun e s' => p.compiled classes b s.disk = .error e ∧ s'.published = s.published) s := by
  have hsearch := hcompiler.search_eq b.stage.names b.stage.store (p.compileContext classes) s.disk
  apply wp_compileBatch
  · intro hs
    exact ⟨by rw [compiled, if_pos hs], rfl, rfl⟩
  · intro hs
    rw [compiled, if_neg hs, Compiler.reply]
    rw [Compiler.leaves] at hsearch
    refine wp_compileStaged ?_ ?_ ?_ ?_
    · intro target warnings w hw hne
      rw [answer] at hw
      simp only [hw] at hsearch ⊢
      exact ⟨by rw [hne]; rfl, rfl, hsearch⟩
    · intro target warnings w hw hempty
      rw [answer] at hw
      simp only [hw, hempty]
      exact ⟨rfl, rfl⟩
    · intro errors w hw
      rw [answer] at hw
      simp only [hw]
      exact ⟨trivial, rfl⟩
    · intro e w hw
      rw [answer] at hw
      simp only [hw]
      exact ⟨trivial, rfl⟩

end Steady

theorem shown_eq_of_wp {shows : Except BuildError BuildReport × List Publication}
    (h : wp (p.run classes) (fun report s' => (.ok { report with debugFilesWritten := 0 }, s'.published) = shows)
      (fun e s' => (.error e, s'.published) = shows) s) : p.shown classes s = shows := by
  unfold wp at h
  rw [shown]
  cases hrun : p.run classes s <;> simpa only [hrun] using h

/-- A build whose generation fails shows its failure. -/
theorem shown_of_error {e : GenerationError}
    (h : p.pool.generate (p.projectContext classes) s.disk = .error e) :
    p.shown classes s = (.error (.generation e), s.published) := by
  apply shown_eq_of_wp
  apply wp_run
  · intro e' he'
    rw [h] at he'
    cases he'
    rfl
  · intro b hb
    rw [h] at hb
    cases hb
  · intro b hb
    rw [h] at hb
    cases hb

theorem shown_of_empty (h : p.pool.generate (p.projectContext classes) s.disk = .ok b)
    (hfiles : b.files = []) :
    p.shown classes s = (.ok (.ofNothing (Project.rootOf classes)), s.published) := by
  rw [shown, run_of_empty h hfiles]
  rfl

/-- A build with a batch shows what its compilation and the search behind the copies come to. -/
theorem shown_of_batch (hcompiler : p.compiler.Steady (p.pool.watchedAssets (p.projectContext classes)))
    (h : p.pool.generate (p.projectContext classes) s.disk = .ok b) (hfiles : b.files ≠ []) :
    p.shown classes s = p.shownOf classes b s (p.watchedOn classes (p.dumped b s)) := by
  have hdisk : p.compiled classes b (p.dumped b s).disk = p.compiled classes b s.disk :=
    compiled_eq hcompiler _ _
  apply shown_eq_of_wp
  refine wp_run_of_generate h (fun hempty => absurd hempty hfiles) fun _ => ?_
  refine wp.mono ?_ ?_ (wp_compileBatch_steady hcompiler)
  · rintro ⟨target, warnings⟩ s' ⟨hcompiled, hpublished, hwatched⟩
    rw [hdisk] at hcompiled
    rw [← hwatched, watchedOn, shownOf, hcompiled, hpublished]
    constructor
    · intro e he
      simp only [he]
      rfl
    · intro watched hw
      simp only [hw]
      rfl
  · rintro e s' ⟨hcompiled, hpublished⟩
    rw [hdisk] at hcompiled
    rw [shownOf, hcompiled, hpublished]
    rfl

/-! ## With and without copies -/

/-- If compilation ends well, what is found to be watched shows. -/
theorem shownOf_inj {out : Store × List Diagnostic} (h : p.compiled classes b s.disk = .ok out)
    {watched watched' : Except GenerationError (List Path)} :
    p.shownOf classes b s watched = p.shownOf classes b s watched' ↔ watched = watched' := by
  refine ⟨fun heq => ?_, fun heq => by rw [heq]⟩
  obtain ⟨target, warnings⟩ := out
  rw [shownOf, shownOf, h] at heq
  cases watched with
  | error e =>
    cases watched' with
    | error e' =>
      simp only [Prod.mk.injEq, Except.error.injEq, BuildError.generation.injEq, and_true] at heq
      rw [heq]
    | ok found' => simp at heq
  | ok found =>
    cases watched' with
    | error e' => simp at heq
    | ok found' =>
      simp only [finished, Prod.mk.injEq, Except.ok.injEq, BuildReport.mk.injEq, true_and, and_true] at heq
      rw [heq.1]

/-- The search for the files to be watched ends well behind the copies, and finds no file that it would not
    have found before them. -/
def FindsNoCopy (p : BuildPipeline) (classes : Path) (b : Batch) (s : Session) : Prop :=
  ∃ before after, p.watchedOn classes s = .ok before ∧ p.watchedOn classes (p.dumped b s) = .ok after ∧
    ∀ asset ∈ after, asset ∈ before

theorem watchedOn_dumped_iff (hpool : p.pool.OfAssets) (hformed : s.disk.WellFormed)
    (hrooted : s.disk.Rooted) (h : p.pool.generate (p.projectContext classes) s.disk = .ok b) :
    p.watchedOn classes (p.dumped b s) = p.watchedOn classes s ↔ p.FindsNoCopy classes b s := by
  have hgrows : s.disk.Grows (p.dumped b s).disk := p.debugDump.writeAll_grows b.files hrooted
  constructor
  · intro heq
    obtain ⟨before, hbefore⟩ := hpool.exists_watchedAssets h
    exact ⟨before, before, hbefore, heq.trans hbefore, fun _ hasset => hasset⟩
  · rintro ⟨before, after, hbefore, hafter, hnothing⟩
    rw [hbefore, hafter, (hpool.watchedAssets_eq_iff hformed hrooted hgrows hbefore hafter).2 hnothing]

/-- With a pool of assets, a compiler that does not depend on the disk, and any directory for copies, a build
    on a well-formed disk shows the same with and without copies exactly if the search for the files to be
    watched finds no copy, whenever the build comes as far as to search behind copies. -/
theorem shown_withoutDump_iff (hpool : p.pool.OfAssets)
    (hcompiler : p.compiler.Steady (p.pool.watchedAssets (p.projectContext classes)))
    (hformed : s.disk.WellFormed) (hrooted : s.disk.Rooted) :
    p.shown classes s = p.withoutDump.shown classes s ↔
      ∀ b out, p.pool.generate (p.projectContext classes) s.disk = .ok b → b.files ≠ [] →
        p.compiled classes b s.disk = .ok out → p.FindsNoCopy classes b s := by
  cases hgenerate : p.pool.generate (p.projectContext classes) s.disk with
  | error e =>
    have hgenerate' : p.withoutDump.pool.generate (p.withoutDump.projectContext classes) s.disk = .error e :=
      hgenerate
    rw [shown_of_error hgenerate, shown_of_error hgenerate']
    simp
  | ok b =>
    have hgenerate' : p.withoutDump.pool.generate (p.withoutDump.projectContext classes) s.disk = .ok b :=
      hgenerate
    by_cases hfiles : b.files = []
    · rw [shown_of_empty hgenerate hfiles, shown_of_empty hgenerate' hfiles]
      simp only [true_iff]
      rintro b' - hb' hne
      cases hb'
      exact absurd hfiles hne
    · have hplain : p.withoutDump.shown classes s = p.shownOf classes b s (p.watchedOn classes s) :=
        shown_of_batch (p := p.withoutDump) hcompiler hgenerate' hfiles
      rw [shown_of_batch hcompiler hgenerate hfiles, hplain]
      cases hcompiled : p.compiled classes b s.disk with
      | error e =>
        simp only [shownOf, hcompiled, true_iff]
        rintro b' out hb' - hout
        cases hb'
        rw [hcompiled] at hout
        cases hout
      | ok out =>
        rw [shownOf_inj hcompiled, watchedOn_dumped_iff hpool hformed hrooted hgenerate]
        constructor
        · rintro hfinds b' out' hb' - -
          cases hb'
          exact hfinds
        · intro hfinds
          exact hfinds b out rfl hfiles hcompiled

/-- A build that makes one file of each rule of a project, and copies it to a directory. -/
def rules (copies : Path) : BuildPipeline where
  pool := ⟨[(AssetGenerator.make "rules" "drl" AssetGenerator.defaultRoot
    (passThrough AssetGenerator.defaultRoot .generic)).toGenerator], none⟩
  compiler := .copying
  restPolicy := .jaxRsResource
  debugDump := ⟨some copies⟩
  appPackage := defaultAppPackage
  dependencyInjection := true
  classpath := []

/-- A project with one rule. -/
def ruleDisk : Disk where
  entries := [(["project"], .directory 0), (["project", "src"], .directory 0),
    (["project", "src", "main"], .directory 0), (["project", "src", "main", "A.drl"], .file default)]
  workingDirectory := []
  now := 0

theorem rules_ofAssets (copies : Path) : (rules copies).pool.OfAssets :=
  fun _ hg => ⟨_, List.mem_singleton.1 hg⟩

theorem copying_steady {α : Type} (search : Disk → α) : Compiler.copying.Steady search where
  reply_eq names sources _ d d' := by
    cases h : sources.copySources .empty names <;> simp [Compiler.reply, Compiler.copying, h]
  search_eq names sources _ d := by
    cases h : sources.copySources .empty names <;> simp [Compiler.leaves, Compiler.copying, h]

theorem ruleDisk_wellFormed : ruleDisk.WellFormed :=
  ⟨by decide, by decide⟩

theorem ruleDisk_rooted : ruleDisk.Rooted :=
  .of_entries (by decide) (by decide)

/-- Copies that are not below the directory of the rules do not show. -/
theorem shown_withoutDump_iff_rules :
    ((rules "/project/target/copies").debugDump.writeAll [⟨.generic, "A.drl", default⟩] ruleDisk).1 = 1 ∧
    (rules "/project/target/copies").shown "/project/target/classes" (.start ruleDisk) =
      (rules "/project/target/copies").withoutDump.shown "/project/target/classes" (.start ruleDisk) := by
  have hgenerate : (rules "/project/target/copies").pool.generate
      ((rules "/project/target/copies").projectContext "/project/target/classes") ruleDisk =
        .ok ⟨[⟨.generic, "A.drl", default⟩], none⟩ := by
    decide +kernel
  refine ⟨by decide +kernel, (shown_withoutDump_iff (rules_ofAssets _) (copying_steady _)
    ruleDisk_wellFormed ruleDisk_rooted).2 ?_⟩
  intro b out hb _ _
  obtain rfl := Except.ok.inj (hgenerate.symm.trans hb)
  exact ⟨[⟨"/project/src/main/A.drl"⟩], [⟨"/project/src/main/A.drl"⟩], by decide +kernel,
    by decide +kernel, fun _ hasset => hasset⟩

/-- Copies below the directory of the rules do: a copy is found to be watched, and made known. -/
theorem not_shown_withoutDump_rules :
    (rules "/project/src/main/copies").pool.OfAssets ∧
    (∀ search : Disk → Except GenerationError (List Path),
      (rules "/project/src/main/copies").compiler.Steady search) ∧
    ruleDisk.WellFormed ∧ ruleDisk.Rooted ∧
    ((rules "/project/src/main/copies").shown "/project/target/classes" (.start ruleDisk)).2 =
      [.hotDeploymentWatch "/project/src/main/A.drl", .hotDeploymentWatch "/project/src/main/copies/A.drl",
        .feature featureName] ∧
    ((rules "/project/src/main/copies").withoutDump.shown "/project/target/classes" (.start ruleDisk)).2 =
      [.hotDeploymentWatch "/project/src/main/A.drl", .feature featureName] ∧
    (rules "/project/src/main/copies").shown "/project/target/classes" (.start ruleDisk) ≠
      (rules "/project/src/main/copies").withoutDump.shown "/project/target/classes" (.start ruleDisk) :=
  ⟨rules_ofAssets _, copying_steady, ruleDisk_wellFormed, ruleDisk_rooted, by decide +kernel,
    by decide +kernel, by decide +kernel⟩

end BuildPipeline
end Buildwright
