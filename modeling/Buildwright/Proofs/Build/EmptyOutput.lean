-- SUMMARY: When a build that ends well has published a class: exactly if no compiler reports success with output other than classes only.
import Buildwright.Proofs.Build.Copying

/-!
# Output without classes

A compiler that reports success for sources must have made a class of them, and a build that ends well with
sources must have published one. A build takes output without any entry for a failure, but it does not look
at what the entries are, while registration passes over those that are no class files. So it keeps both
promises exactly for compilers whose output, if there is any, has a class file in it.
-/
namespace Buildwright

/-- A store with a class file in it. -/
def Store.HasClassFile (s : Store) : Prop :=
  ∃ name ∈ s.names, Text.endsWith ClassName.classSuffix name = true

theorem Registration.compiledClasses_ne_nil_iff {target : Store} :
    compiledClasses target ≠ [] ↔ target.HasClassFile := by
  rw [compiledClasses, ne_eq, List.filterMap_eq_nil_iff]
  simp [compiledClass?, Store.HasClassFile, Store.names, SortedMap.keys, Store.entries]

namespace BuildPipeline

variable {p : BuildPipeline} {classes : Path} {b : Batch} {s : Session}

/-- A build does not pass off output without classes as a success: if it ends well and its batch has
    sources, it has published a class, and if the compiler reports success without a class file, it fails for
    this reason and publishes nothing. -/
structure NoEmptySuccess (p : BuildPipeline) (classes : Path) (s : Session) : Prop where
  published : ∀ b report s', p.pool.generate (p.projectContext classes) s.disk = .ok b →
    b.sources ≠ [] → p.run classes s = .ok report s' →
      ∃ added, s'.published = s.published ++ added ∧ ∃ r ∈ added, r.isClass = true
  rejected : ∀ b target warnings w, p.pool.generate (p.projectContext classes) s.disk = .ok b →
    b.sources ≠ [] → p.answer classes b (p.dumped b s) = .ok (.success target warnings) w →
      ¬ target.HasClassFile →
        ∃ s', p.run classes s = .error (.emptyOutput b.sources.length) s' ∧
          s'.published = s.published

theorem files_ne_nil_of_sources (hs : b.sources ≠ []) : b.files ≠ [] := by
  intro hfiles
  exact hs (by rw [Batch.sources, hfiles, List.filter_nil])

theorem exists_isClass_publications {target : Store} (h : target.HasClassFile)
    (watched : List Path) : ∃ r ∈ p.publications b target watched, r.isClass = true := by
  have hne : (p.publications b target watched).filter (·.isClass) ≠ [] := by
    rw [filter_isClass_publications]
    simpa using Registration.compiledClasses_ne_nil_iff.2 h
  obtain ⟨r, hr⟩ := List.exists_mem_of_ne_nil _ hne
  exact ⟨r, List.mem_filter.1 hr⟩

/-- Where the output of the compiler has a class file unless it is empty, a build that ends well has
    published a class. -/
theorem wp_run_publishes_class (hb : p.pool.generate (p.projectContext classes) s.disk = .ok b)
    (hs : b.sources ≠ [])
    (h : ∀ target warnings w, p.answer classes b (p.dumped b s) = .ok (.success target warnings) w →
      target.HasClassFile ∨ target.isEmpty = true) :
    wp (p.run classes)
      (fun _ s' => ∃ added, s'.published = s.published ++ added ∧ ∃ r ∈ added, r.isClass = true)
      (fun _ _ => True) s := by
  refine wp_run_of_generate hb (fun hfiles => absurd hfiles (files_ne_nil_of_sources hs)) fun _ => ?_
  refine wp_compileBatch (fun hnone => absurd hnone hs) fun _ => ?_
  refine wp_compileStaged ?_ (fun _ _ _ _ _ => trivial) (fun _ _ _ => trivial) fun _ _ _ => trivial
  intro target warnings w hanswer hsome
  have hclass : target.HasClassFile := (h target warnings w hanswer).resolve_right (by simp [hsome])
  refine ⟨fun _ _ => trivial, fun watched _ => ?_⟩
  exact ⟨p.publications b target watched, rfl, exists_isClass_publications hclass watched⟩

/-- A build whose compiler reports success with empty output fails for this reason. -/
theorem run_of_emptyOutput {target : Store} {warnings : List Diagnostic} {w : Workshop}
    (hb : p.pool.generate (p.projectContext classes) s.disk = .ok b) (hs : b.sources ≠ [])
    (hanswer : p.answer classes b (p.dumped b s) = .ok (.success target warnings) w)
    (hempty : target.isEmpty = true) :
    ∃ s', p.run classes s = .error (.emptyOutput b.sources.length) s' ∧
      s'.published = s.published := by
  have hrun : wp (p.run classes) (fun _ _ => False)
      (fun e s' => e = .emptyOutput b.sources.length ∧ s'.published = s.published) s := by
    refine wp_run_of_generate hb (fun hfiles => files_ne_nil_of_sources hs hfiles) fun _ => ?_
    refine wp_compileBatch_of_success hs hanswer (fun hsome => by simp [hempty] at hsome) fun _ => ?_
    exact ⟨by simp [Batch.stage], rfl⟩
  obtain ⟨_, s', hfails, rfl, hpublished⟩ := hrun.fails
  exact ⟨s', hfails, hpublished⟩

/-- A build whose compiler reports success with some output does not fail for want of output. -/
theorem run_ne_emptyOutput {target : Store} {warnings : List Diagnostic} {w : Workshop}
    (hb : p.pool.generate (p.projectContext classes) s.disk = .ok b) (hs : b.sources ≠ [])
    (hanswer : p.answer classes b (p.dumped b s) = .ok (.success target warnings) w)
    (hsome : target.isEmpty = false) (n : Nat) (s' : Session) :
    p.run classes s ≠ .error (.emptyOutput n) s' := by
  intro hfails
  have hrun : wp (p.run classes) (fun _ _ => True) (fun e _ => e ≠ .emptyOutput n) s := by
    refine wp_run_of_generate hb (fun _ => trivial) fun _ => ?_
    refine wp_compileBatch_of_success hs hanswer (fun _ => ?_) fun hempty => by simp [hempty] at hsome
    exact ⟨fun _ _ => nofun, fun _ _ => trivial⟩
  exact hrun.of_error hfails rfl

/-- No build passes off output without classes as a success, exactly if its compiler, where it reports
    success for the sources of the batch, has put a class file into its output or nothing at all. -/
theorem noEmptySuccess_iff (p : BuildPipeline) (classes : Path) (s : Session) :
    p.NoEmptySuccess classes s ↔
      ∀ b target warnings w, p.pool.generate (p.projectContext classes) s.disk = .ok b →
        b.sources ≠ [] → p.answer classes b (p.dumped b s) = .ok (.success target warnings) w →
          target.HasClassFile ∨ target.isEmpty = true := by
  constructor
  · intro h b target warnings w hb hs hanswer
    by_contra hother
    obtain ⟨hclass, hsome⟩ := not_or.1 hother
    obtain ⟨s', hfails, -⟩ := h.rejected b target warnings w hb hs hanswer hclass
    exact run_ne_emptyOutput hb hs hanswer (by simpa using hsome) _ s' hfails
  · intro h
    constructor
    · intro b report s' hb hs hreturns
      exact (wp_run_publishes_class hb hs fun target warnings w => h b target warnings w hb hs).of_ok
        hreturns
    · intro b target warnings w hb hs hanswer hclass
      exact run_of_emptyOutput hb hs hanswer
        ((h b target warnings w hb hs hanswer).resolve_left hclass)

/-- A compiler that leaves the classes out, and puts a resource into its output. -/
def resourceCompiler : Compiler where
  name := "resources"
  compile _ _ _ := pure (.success (.ofList [("META-INF/kie.conf", Text.encode "x")]) [])

/-- The build of one source with that compiler. -/
def resourceBuild : BuildPipeline :=
  { copying [⟨.generic, "org/kie/A.java", Text.encode "class A {}"⟩] none with
    compiler := resourceCompiler }

/-- A build that ends well with a source, of which it has published no class. -/
theorem not_noEmptySuccess_resourceBuild :
    (∃ report s', resourceBuild.run "/project/target/classes" (.start default) = .ok report s' ∧
      s'.published = [.feature "kie"]) ∧
    ¬ resourceBuild.NoEmptySuccess "/project/target/classes" (.start default) := by
  have hrun : ∃ report s',
      resourceBuild.run "/project/target/classes" (.start default) = .ok report s' ∧
        s'.published = [.feature "kie"] := ⟨_, _, rfl, rfl⟩
  refine ⟨hrun, fun h => ?_⟩
  obtain ⟨report, s', hreturns, hpublished⟩ := hrun
  obtain ⟨added, hadded, r, hr, hclass⟩ := h.published _ report s' rfl (by decide +kernel) hreturns
  have hfeature : added = [.feature "kie"] := hadded.symm.trans hpublished
  rw [hfeature, List.mem_singleton] at hr
  rw [hr] at hclass
  cases hclass

end BuildPipeline
end Buildwright
