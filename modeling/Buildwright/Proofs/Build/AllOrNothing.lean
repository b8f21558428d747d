-- SUMMARY: A build publishes everything it has to publish, in order, or nothing at all.
import Buildwright.Proofs.Build.Pipeline
import Buildwright.Proofs.Build.Publication

/-!
# All or nothing

Everything that can fail in a build comes before the one stage that publishes. A failed build therefore
leaves the record of publications as it was, wherever it failed, and a build that ends well has published
classes, REST records, files to be watched and the feature, in this order.
-/
namespace Buildwright.BuildPipeline

/-- The output that a build registers: what the compiler made of the sources of its batch, and nothing
    if there are no sources. -/
def Output (p : BuildPipeline) (classes : Path) (b : Batch) (s : Session) (target : Store) : Prop :=
  if b.sources = [] then target = .empty
  else ∃ warnings w, p.answer classes b (p.dumped b s) = .ok (.success target warnings) w

/-- The compiler has been called for the sources of a batch: once, and not at all if there are none. -/
def CalledForSources (p : BuildPipeline) (classes : Path) (b : Batch) (s s' : Session) : Prop :=
  if b.sources = [] then s'.calls = s.calls
  else ∃ commands, s'.calls = s.calls ++
    [⟨p.compiler.name, b.stage.names, b.stage.store, p.compileContext classes, commands⟩]

/-- Compilation publishes nothing, and calls the compiler for the sources of its batch. -/
theorem wp_compileBatch_silent (p : BuildPipeline) (classes : Path) (b : Batch) (s : Session) :
    wp (p.compileBatch classes b)
      (fun out s' => s'.published = s.published ∧ p.Output classes b s out.1 ∧
        p.CalledForSources classes b s s')
      (fun _ s' => s'.published = s.published) (p.dumped b s) := by
  apply wp_compileBatch
  · intro hs
    refine ⟨rfl, ?_, ?_⟩
    · rw [Output, if_pos hs]
    · rw [CalledForSources, if_pos hs]
      rfl
  · intro hs
    refine wp_compileStaged ?_ ?_ ?_ ?_
    · intro target warnings w hw _
      refine ⟨rfl, ?_, ?_⟩
      · rw [Output, if_neg hs]
        exact ⟨warnings, w, hw⟩
      · rw [CalledForSources, if_neg hs]
        exact ⟨w.commands, rfl⟩
    · intro _ _ _ _ _
      rfl
    · intro _ _ _
      rfl
    · intro _ _ _
      rfl

/-- The publications behind `before` are those of a batch: one record for each class of the output, then
    the REST records, then one record for each of the `watched` files, and the feature last. -/
def PublishedInOrder (p : BuildPipeline) (classes : Path) (b : Batch) (s : Session)
    (watched : List Path) (before after : List Publication) : Prop :=
  ∃ target classRecords restRecords,
    p.Output classes b s target ∧
    classRecords = (Registration.compiledClasses target).map
      (Registration.classPublication b.bootstrapClass) ∧
    restRecords = Registration.restPublications p.restPolicy (Registration.restClasses b.files) ∧
    (∀ r ∈ classRecords, r.isClass = true) ∧ (∀ r ∈ restRecords, r.isRest = true) ∧
    after = before ++ (classRecords ++ restRecords ++ watched.map .hotDeploymentWatch ++
      [.feature featureName])

theorem publishedInOrder_publications (p : BuildPipeline) {classes : Path} {b : Batch} {s : Session}
    {target : Store} (houtput : p.Output classes b s target) (watched : List Path)
    (before : List Publication) :
    p.PublishedInOrder classes b s watched before
      (before ++ p.publications b target watched) := by
  refine ⟨target, (Registration.compiledClasses target).map
      (Registration.classPublication b.bootstrapClass),
    Registration.restPublications p.restPolicy (Registration.restClasses b.files),
    houtput, rfl, rfl, ?_, ?_, rfl⟩
  · intro r hr
    obtain ⟨c, -, rfl⟩ := List.mem_map.1 hr
    exact Registration.isClass_classPublication b.bootstrapClass c
  · intro r hr
    exact Registration.isRest_restPublications hr

/-- What a build that ends well leaves behind. With an empty batch it has neither published anything nor
    called the compiler. With any other batch it has called the compiler for the sources of the batch, and
    has published in order. -/
def Completed (p : BuildPipeline) (classes : Path) (s : Session) (report : BuildReport)
    (s' : Session) : Prop :=
  ∃ b, p.pool.generate (p.projectContext classes) s.disk = .ok b ∧
    (b.files = [] → s'.published = s.published ∧ s'.calls = s.calls) ∧
    (b.files ≠ [] →
      p.CalledForSources classes b s s' ∧
      p.pool.watchedAssets (p.projectContext classes) s'.disk = .ok report.watchedAssets ∧
      p.PublishedInOrder classes b s report.watchedAssets s.published s'.published)

theorem wp_run_completed (p : BuildPipeline) (classes : Path) (s : Session) :
    wp (p.run classes) (p.Completed classes s) (fun _ s' => s'.published = s.published) s := by
  apply wp_run
  · intro e _
    rfl
  · intro b hb hfiles
    exact ⟨b, hb, fun _ => ⟨rfl, rfl⟩, fun h => absurd hfiles h⟩
  · intro b hb hfiles
    refine wp.mono ?_ (fun _ _ h => h) (p.wp_compileBatch_silent classes b s)
    rintro ⟨target, warnings⟩ s' ⟨hsilent, houtput, hcalls⟩
    refine ⟨fun _ _ => hsilent, ?_⟩
    intro watched hwatched
    refine ⟨b, hb, fun h => absurd h hfiles, fun _ => ⟨hcalls, hwatched, ?_⟩⟩
    show p.PublishedInOrder classes b s watched s.published (s'.published ++ _)
    rw [hsilent]
    exact p.publishedInOrder_publications houtput watched s.published

/-- A build that fails, at whichever stage, has published nothing, and one that ends well has published
    all that it has to. -/
theorem run_all_or_nothing (p : BuildPipeline) (classes : Path) (s : Session) :
    match p.run classes s with
    | .ok report s' => p.Completed classes s report s'
    | .error _ s' => s'.published = s.published := by
  have h := p.wp_run_completed classes s
  unfold wp at h
  cases hrun : p.run classes s with
  | ok report s' => simpa only [hrun] using h
  | error e s' => simpa only [hrun] using h

end Buildwright.BuildPipeline
