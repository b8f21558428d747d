-- SUMMARY: Weakest preconditions of the stages of a build and of a whole run.
import Buildwright.Build.Pipeline
import Buildwright.Proofs.WeakestPre

/-!
# The stages of a build

One rule for each stage, and one for a run that is put together from them. The rule of a run names the
places at which it can end: at generation, with an empty batch, at compilation, at the search for the
files to be watched, and behind the publication. What comes before the publication is in no rule able to
publish.
-/
namespace Buildwright.BuildPipeline

variable {p : BuildPipeline} {classes : Path} {b : Batch} {s : Session}

/-- The context in which the sources of a batch are compiled. -/
def compileContext (p : BuildPipeline) (classes : Path) : CompileContext :=
  CompileContext.make classes p.classpath

/-- The context in which the generators run. -/
def projectContext (p : BuildPipeline) (classes : Path) : GenerationContext :=
  p.generationContext (Project.rootOf classes)

/-- The session behind the copies for debugging. -/
def dumped (p : BuildPipeline) (b : Batch) (s : Session) : Session :=
  { s with disk := (p.debugDump.writeAll b.files s.disk).2 }

/-- The session behind the one call of the compiler that a batch takes. -/
def called (p : BuildPipeline) (classes : Path) (b : Batch) (s : Session) (w : Workshop) : Session :=
  s.afterCall p.compiler b.stage.names b.stage.store (p.compileContext classes) w

/-- The answer of the compiler to the sources of a batch. -/
def answer (p : BuildPipeline) (classes : Path) (b : Batch) (s : Session) :
    EStateM.Result CompileError Workshop CompilationOutcome :=
  p.compiler.compile b.stage.names b.stage.store (p.compileContext classes) ⟨s.disk, []⟩

/-- The report of a build whose batch has been compiled. -/
def finished (p : BuildPipeline) (classes : Path) (b : Batch) (s : Session) (target : Store)
    (warnings : List Diagnostic) (watched : List Path) : BuildReport where
  projectRoot := Project.rootOf classes
  generatedFiles := b.files.length
  debugFilesWritten := (p.debugDump.writeAll b.files s.disk).1
  registration := .ofBatch target b.files b.bootstrapClass
  watchedAssets := watched
  warnings := warnings

/-! ## Compilation -/

theorem wp_compileStaged {Q : Store × List Diagnostic → Session → Prop}
    {E : BuildError → Session → Prop}
    (hsuccess : ∀ target warnings w, p.answer classes b s = .ok (.success target warnings) w →
      target.isEmpty = false → Q (target, warnings) (p.called classes b s w))
    (hempty : ∀ target warnings w, p.answer classes b s = .ok (.success target warnings) w →
      target.isEmpty = true → E (.emptyOutput b.stage.names.length) (p.called classes b s w))
    (hfailure : ∀ errors w, p.answer classes b s = .ok (.failure errors) w →
      E (.compilation (CompilationOutcome.failure errors).summary) (p.called classes b s w))
    (herror : ∀ e w, p.answer classes b s = .error e w →
      E (.compiler e) (p.called classes b s w)) :
    wp (p.compileStaged classes b.stage) Q E s := by
  unfold compileStaged
  apply wp.bind
  apply wp.wrapping
  refine wp.compile ?_ herror
  intro o w hw
  cases o with
  | success target warnings =>
    show wp (if target.isEmpty = true then _ else _) Q E _
    by_cases hne : target.isEmpty = true
    · rw [if_pos hne]
      exact wp.throw (hempty target warnings w hw hne)
    · rw [if_neg hne]
      exact wp.pure (hsuccess target warnings w hw (by simpa using hne))
  | failure errors => exact wp.throw (hfailure errors w hw)

theorem stage_names_eq_nil : b.stage.names = [] ↔ b.sources = [] := by
  simp [Batch.stage]

theorem wp_compileBatch {Q : Store × List Diagnostic → Session → Prop}
    {E : BuildError → Session → Prop} (hnone : b.sources = [] → Q (.empty, []) s)
    (hsome : b.sources ≠ [] → wp (p.compileStaged classes b.stage) Q E s) :
    wp (p.compileBatch classes b) Q E s := by
  unfold compileBatch
  by_cases hs : b.sources = []
  · rw [if_pos (stage_names_eq_nil.2 hs)]
    exact wp.pure (hnone hs)
  · rw [if_neg (mt stage_names_eq_nil.1 hs)]
    exact hsome hs

/-- The rule of a compilation whose compiler is known to report success. -/
theorem wp_compileBatch_of_success {Q : Store × List Diagnostic → Session → Prop}
    {E : BuildError → Session → Prop} {target : Store} {warnings : List Diagnostic} {w : Workshop}
    (hs : b.sources ≠ []) (hanswer : p.answer classes b s = .ok (.success target warnings) w)
    (hsuccess : target.isEmpty = false → Q (target, warnings) (p.called classes b s w))
    (hempty : target.isEmpty = true →
      E (.emptyOutput b.stage.names.length) (p.called classes b s w)) :
    wp (p.compileBatch classes b) Q E s := by
  refine wp_compileBatch (fun hnone => absurd hnone hs) fun _ => wp_compileStaged ?_ ?_ ?_ ?_
  · intro target' warnings' w' hw
    rw [hanswer] at hw
    cases hw
    exact hsuccess
  · intro target' warnings' w' hw
    rw [hanswer] at hw
    cases hw
    exact hempty
  · intro errors w' hw
    rw [hanswer] at hw
    cases hw
  · intro e w' hw
    rw [hanswer] at hw
    cases hw

/-! ## A whole run -/

/-- Copies for debugging always end well, and only the disk changes. -/
theorem wp_dump {Q : Nat → Session → Prop} {E : BuildError → Session → Prop}
    (h : Q (p.debugDump.writeAll b.files s.disk).1 (p.dumped b s)) : wp (p.dump b) Q E s := by
  unfold wp
  exact h

theorem wp_run {Q : BuildReport → Session → Prop} {E : BuildError → Session → Prop}
    (hgenerate : ∀ e, p.pool.generate (p.projectContext classes) s.disk = .error e →
      E (.generation e) s)
    (hempty : ∀ b, p.pool.generate (p.projectContext classes) s.disk = .ok b → b.files = [] →
      Q (.ofNothing (Project.rootOf classes)) s)
    (hbatch : ∀ b, p.pool.generate (p.projectContext classes) s.disk = .ok b → b.files ≠ [] →
      wp (p.compileBatch classes b)
        (fun out s' =>
          (∀ e, p.pool.watchedAssets (p.projectContext classes) s'.disk = .error e →
            E (.generation e) s') ∧
          (∀ watched, p.pool.watchedAssets (p.projectContext classes) s'.disk = .ok watched →
            Q (p.finished classes b s out.1 out.2 watched)
              { s' with published := s'.published ++ p.publications b out.1 watched }))
        E (p.dumped b s)) :
    wp (p.run classes) Q E s := by
  unfold run
  apply wp.bind
  refine wp.look ?_ hgenerate
  intro b hb
  by_cases hfiles : b.files = []
  · rw [if_pos hfiles]
    exact wp.pure (hempty b hb hfiles)
  · rw [if_neg hfiles]
    apply wp.bind
    apply wp_dump
    apply wp.bind
    refine wp.mono ?_ (fun _ _ h => h) (hbatch b hb hfiles)
    rintro ⟨target, warnings⟩ s' ⟨herror, hok⟩
    apply wp.bind
    refine wp.look ?_ herror
    intro watched hwatched
    apply wp.bind
    apply wp.publish
    exact wp.pure (hok watched hwatched)

/-- The rule of a run whose generation is known to end well. -/
theorem wp_run_of_generate {Q : BuildReport → Session → Prop} {E : BuildError → Session → Prop}
    (hgenerate : p.pool.generate (p.projectContext classes) s.disk = .ok b)
    (hempty : b.files = [] → Q (.ofNothing (Project.rootOf classes)) s)
    (hbatch : b.files ≠ [] →
      wp (p.compileBatch classes b)
        (fun out s' =>
          (∀ e, p.pool.watchedAssets (p.projectContext classes) s'.disk = .error e →
            E (.generation e) s') ∧
          (∀ watched, p.pool.watchedAssets (p.projectContext classes) s'.disk = .ok watched →
            Q (p.finished classes b s out.1 out.2 watched)
              { s' with published := s'.published ++ p.publications b out.1 watched }))
        E (p.dumped b s)) :
    wp (p.run classes) Q E s := by
  apply wp_run
  · intro e he
    rw [hgenerate] at he
    cases he
  · intro b' hb'
    rw [hgenerate] at hb'
    cases hb'
    exact hempty
  · intro b' hb'
    rw [hgenerate] at hb'
    cases hb'
    exact hbatch

/-- A build with an empty batch ends where it began. -/
theorem run_of_empty (hgenerate : p.pool.generate (p.projectContext classes) s.disk = .ok b)
    (hfiles : b.files = []) : p.run classes s = .ok (.ofNothing (Project.rootOf classes)) s := by
  have hrun : wp (p.run classes) (fun report s' => report = .ofNothing (Project.rootOf classes) ∧ s' = s)
      (fun _ _ => False) s := by
    apply wp_run_of_generate hgenerate
    · intro _
      exact ⟨rfl, rfl⟩
    · intro hne
      exact absurd hfiles hne
  obtain ⟨_, _, hreturns, rfl, rfl⟩ := hrun.returns
  exact hreturns

end Buildwright.BuildPipeline
