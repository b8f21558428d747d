-- SUMMARY: The report of a recompilation: each changed file has its place in it, and each batch its one run.
import Buildwright.Proofs.Dev.Evaluation

/-!
# The bookkeeping of a recompilation

A report tells what has become of each changed file and of each batch of stale files. `Runs` says how the
batches are compiled: each is handed over once, with exactly its files, to the provider of its extension,
which works in the session that the run before has left. Together with the verdicts of the evaluation this
determines the report.
-/
namespace Buildwright

/-! ## Runs -/

namespace IncrementalRecompiler

/-- The runs for batches that are compiled in their order, from a session to another. -/
inductive Runs (r : IncrementalRecompiler) :
    List (String × SortedSet Path) → Session → List ProviderRun → Session → Prop where
  | nil {s : Session} : Runs r [] s [] s
  | succeeded {e : String} {files : SortedSet Path} {batches : List (String × SortedSet Path)}
      {provider : CompilationProvider} {o : ProviderOutput} {runs : List ProviderRun}
      {s s₁ s₂ : Session} (hprovider : r.registry.find? e = some provider)
      (hcompile : provider.compile files r.context s = .ok o s₁) (hrest : Runs r batches s₁ runs s₂) :
      Runs r ((e, files) :: batches) s (⟨e, files, .ok o⟩ :: runs) s₂
  | failed {e : String} {files : SortedSet Path} {batches : List (String × SortedSet Path)}
      {provider : CompilationProvider} {error : RecompileError} {runs : List ProviderRun}
      {s s₁ s₂ : Session} (hprovider : r.registry.find? e = some provider)
      (hcompile : provider.compile files r.context s = .error error s₁)
      (hrest : Runs r batches s₁ runs s₂) :
      Runs r ((e, files) :: batches) s (⟨e, files, .error error⟩ :: runs) s₂

variable {r : IncrementalRecompiler} {batches : List (String × SortedSet Path)}
  {runs : List ProviderRun} {s s' : Session}

/-- There is one run for each batch, with its extension and its files. -/
theorem Runs.batches_eq (h : Runs r batches s runs s') :
    runs.map (fun run => (run.extension, run.files)) = batches := by
  induction h with
  | nil => rfl
  | succeeded _ _ _ ih => exact congrArg (_ :: ·) ih
  | failed _ _ _ ih => exact congrArg (_ :: ·) ih

theorem Runs.exists_run (h : Runs r batches s runs s') {e : String} {files : SortedSet Path}
    (hbatch : (e, files) ∈ batches) : ∃ run ∈ runs, run.extension = e ∧ run.files = files := by
  rw [← h.batches_eq] at hbatch
  obtain ⟨run, hrun, heq⟩ := List.mem_map.1 hbatch
  exact ⟨run, hrun, congrArg Prod.fst heq, congrArg Prod.snd heq⟩

/-- Among runs for batches of distinct extensions, a run is the only one with its extension. -/
theorem Runs.filter_eq (h : Runs r batches s runs s') (hnodup : (batches.map (·.1)).Nodup)
    {run : ProviderRun} (hrun : run ∈ runs) :
    runs.filter (·.extension = run.extension) = [run] := by
  have hextensions : (runs.map (·.extension)).Nodup := by
    rw [← h.batches_eq, List.map_map] at hnodup
    exact hnodup
  obtain ⟨before, after, rfl⟩ := List.append_of_mem hrun
  rw [List.map_append, List.map_cons, List.nodup_middle, List.nodup_cons, List.mem_append] at hextensions
  have hother : ∀ {l : List ProviderRun}, run.extension ∉ l.map (·.extension) →
      l.filter (·.extension = run.extension) = [] := by
    intro l hl
    refine List.filter_eq_nil_iff.2 fun other hother heq => hl ?_
    exact List.mem_map.2 ⟨other, hother, of_decide_eq_true heq⟩
  rw [List.filter_append, hother fun hbefore => hextensions.1 (.inl hbefore),
    List.filter_cons_of_pos (by simp), hother fun hafter => hextensions.1 (.inr hafter), List.nil_append]

/-- Batches that all have a provider are all run. -/
theorem runProviders_runs (h : ∀ batch ∈ batches, ∃ p, r.registry.find? batch.1 = some p)
    (s : Session) : Runs r batches s (r.runProviders batches s).1 (r.runProviders batches s).2 := by
  induction batches generalizing s with
  | nil => exact .nil
  | cons batch rest ih =>
    obtain ⟨e, files⟩ := batch
    obtain ⟨provider, hprovider⟩ := h (e, files) List.mem_cons_self
    have hrest := fun batch hbatch => h batch (List.mem_cons_of_mem _ hbatch)
    have hstep : r.runProviders ((e, files) :: rest) s =
        ((r.runProvider e files s).1.toList ++
            (r.runProviders rest (r.runProvider e files s).2).1,
          (r.runProviders rest (r.runProvider e files s).2).2) := rfl
    rw [hstep, runProvider, hprovider]
    cases hcompile : provider.compile files r.context s with
    | ok o s₁ =>
      simp only [hcompile]
      exact .succeeded hprovider hcompile (ih hrest s₁)
    | error error s₁ =>
      simp only [hcompile]
      exact .failed hprovider hcompile (ih hrest s₁)

end IncrementalRecompiler

/-! ## The outcome of a batch -/

namespace RecompileReport

/-- A batch has exactly one run, with exactly its files. If the run has failed, it is the only failure for
    the extension, and carries the files of the batch; otherwise its output is part of what was written and
    warned of, and there is no failure for the extension. -/
def Accounts (report : RecompileReport) (e : String) (files : SortedSet Path) : Prop :=
  ∃ run, report.runs.filter (·.extension = e) = [run] ∧ run.files = files ∧
    match run.outcome with
    | .ok o =>
      report.failures.filter (·.1 = e) = [] ∧ o.written <:+: report.written ∧
        o.warnings <:+: report.warnings
    | .error error => report.failures.filter (·.1 = e) = [(e, files, error)]

variable {report : RecompileReport}

/-- The failures for an extension are those of its runs. -/
theorem failures_filter (report : RecompileReport) (e : String) :
    report.failures.filter (·.1 = e) =
      (RecompileReport.mk report.evaluation (report.runs.filter (·.extension = e))).failures := by
  unfold failures
  induction report.runs with
  | nil => rfl
  | cons run rest ih =>
    cases hrun : run.outcome with
    | ok o => by_cases he : run.extension = e <;> simp [hrun, he, ih]
    | error error => by_cases he : run.extension = e <;> simp [hrun, he, ih]

theorem written_infix {run : ProviderRun} {o : ProviderOutput} (h : run ∈ report.runs)
    (ho : run.outcome = .ok o) : o.written <:+: report.written := by
  refine List.infix_of_mem_flatten (List.mem_map.2 ⟨run, h, ?_⟩)
  rw [ho]

theorem warnings_infix {run : ProviderRun} {o : ProviderOutput} (h : run ∈ report.runs)
    (ho : run.outcome = .ok o) : o.warnings <:+: report.warnings := by
  refine List.infix_of_mem_flatten (List.mem_map.2 ⟨run, h, ?_⟩)
  rw [ho]

/-- A batch that has exactly one run is accounted for. -/
theorem accounts_of_filter {run : ProviderRun}
    (h : report.runs.filter (·.extension = run.extension) = [run]) :
    report.Accounts run.extension run.files := by
  have hmem : run ∈ report.runs := by
    have hrun : run ∈ report.runs.filter (·.extension = run.extension) := by rw [h]; simp
    exact (List.mem_filter.1 hrun).1
  refine ⟨run, h, rfl, ?_⟩
  cases ho : run.outcome with
  | ok o =>
    refine ⟨?_, written_infix hmem ho, warnings_infix hmem ho⟩
    rw [failures_filter, h]
    simp [failures, ho]
  | error error =>
    show report.failures.filter _ = _
    rw [failures_filter, h]
    simp [failures, ho]

end RecompileReport

/-! ## The whole report -/

open IncrementalRecompiler

/-- A report is consistent with the changes it is about, and with what the providers did between two
    sessions. -/
structure RecompileReport.Consistent (report : RecompileReport) (r : IncrementalRecompiler)
    (changes : List FileChange) (s s' : Session) : Prop where
  /-- Every recorded state is final. -/
  states_settled : ∀ e ∈ report.evaluation.states.entries, e.2 = .stale ∨ e.2 = .fresh
  /-- A batch consists of the stale files with its extension. -/
  batch_eq : ∀ batch ∈ report.evaluation.stale.entries, ∀ p,
    p ∈ batch.2.keys ↔
      (p, .stale) ∈ report.evaluation.states.entries ∧ p.dottedExtension? = some batch.1
  /-- A stale file is in exactly one batch. -/
  batch_of_stale : ∀ p, (p, .stale) ∈ report.evaluation.states.entries →
    ∃! batch, batch ∈ report.evaluation.stale.entries ∧ p ∈ batch.2.keys
  /-- No batch has a file that is fresh or ignored, or that was at most deleted. -/
  batch_only_stale : ∀ batch ∈ report.evaluation.stale.entries, ∀ p ∈ batch.2.keys,
    (p, .fresh) ∉ report.evaluation.states.entries ∧ p ∉ report.evaluation.ignored ∧
      ∃ c ∈ changes, c.path = p ∧ c.kind ≠ .deleted
  /-- A file that was changed has a state or is ignored, and never both. -/
  changed : ∀ p, (∃ c ∈ changes, c.path = p ∧ c.kind ≠ .deleted) →
    (p ∈ report.evaluation.states.keys ∧ p ∉ report.evaluation.ignored) ∨
      (p ∉ report.evaluation.states.keys ∧ p ∈ report.evaluation.ignored)
  /-- A file that was at most deleted has no state and is not ignored. -/
  at_most_deleted : ∀ p, (∀ c ∈ changes, c.path = p → c.kind = .deleted) →
    p ∉ report.evaluation.states.keys ∧ p ∉ report.evaluation.ignored
  /-- Each batch is handed once to the provider of its extension. -/
  runs : Runs r report.evaluation.stale.entries s report.runs s'
  /-- Each batch ends as one failure or with its output in the report. -/
  accounted : ∀ batch ∈ report.evaluation.stale.entries, report.Accounts batch.1 batch.2

/-! ## What the verdicts say -/

namespace Evaluation.Reflects

variable {acc : Evaluation} {verdict : Path → Verdict} {seen : List Path}

theorem states_settled (h : acc.Reflects verdict seen) {e : Path × FileState}
    (he : e ∈ acc.states.entries) : e.2 = .stale ∨ e.2 = .fresh := by
  have hstate := ((h.states e.1 e.2).1 he).2
  cases hv : verdict e.1 with
  | ignored => rw [hv] at hstate; cases hstate
  | fresh =>
    rw [hv] at hstate
    exact .inr (Option.some.inj hstate).symm
  | stale _ =>
    rw [hv] at hstate
    exact .inl (Option.some.inj hstate).symm

theorem mem_stale_iff (h : acc.Reflects verdict seen) {p : Path} :
    (p, .stale) ∈ acc.states.entries ↔ p ∈ seen ∧ ∃ e, verdict p = .stale e := by
  rw [h.states]
  cases verdict p <;> simp [Verdict.state?]

theorem mem_states_keys_iff (h : acc.Reflects verdict seen) {p : Path} :
    p ∈ acc.states.keys ↔ p ∈ seen ∧ verdict p ≠ .ignored := by
  rw [SortedMap.mem_keys]
  simp only [h.states, exists_and_left]
  cases verdict p <;> simp [Verdict.state?]

theorem mem_batch_iff (h : acc.Reflects verdict seen) {batch : String × SortedSet Path}
    (hbatch : batch ∈ acc.stale.entries) {p : Path} :
    p ∈ batch.2.keys ↔ p ∈ seen ∧ verdict p = .stale batch.1 := by
  rw [← h.stale]
  constructor
  · intro hp
    exact ⟨batch.2, hbatch, hp⟩
  · rintro ⟨files, hfiles, hp⟩
    rwa [SortedMap.value_unique hbatch hfiles]

end Evaluation.Reflects

namespace IncrementalRecompiler

variable {r : IncrementalRecompiler} {changes : List FileChange}

/-- Every batch of an evaluation belongs to a provider. -/
theorem provider_of_batch (hr : r.registry.Built) {d : Disk} {acc : Evaluation} {seen : List Path}
    (h : acc.Reflects (r.verdict d) seen) {batch : String × SortedSet Path} (hbatch : batch ∈ acc.stale.entries) :
    ∃ provider, r.registry.find? batch.1 = some provider := by
  obtain ⟨p, hp⟩ := h.occupied batch hbatch
  exact (provider_of_stale hr ((h.mem_batch_iff hbatch).1 hp).2).2

theorem process_eq (r : IncrementalRecompiler) (changes : List FileChange) (s : Session) :
    r.process changes s =
      (⟨r.evaluate s.disk changes, (r.runProviders (r.evaluate s.disk changes).stale.entries s).1⟩,
        (r.runProviders (r.evaluate s.disk changes).stale.entries s).2) := rfl

/-- For every registry, all source roots and every list of changes to canonical paths, the report of a
    recompilation is consistent. The disk that the changes are evaluated on is that of the session. -/
theorem process_consistent (hr : r.registry.Built) (hchanges : ∀ c ∈ changes, c.path.Canonical)
    (s : Session) :
    (r.process changes s).1.Consistent r changes s (r.process changes s).2 := by
  have h := r.evaluate_reflects s.disk fun p => canonical_of_mem_changedFiles hchanges
  have hruns : Runs r (r.evaluate s.disk changes).stale.entries s _ _ :=
    runProviders_runs (fun _ hbatch => provider_of_batch hr h hbatch) s
  rw [process_eq]
  generalize r.evaluate s.disk changes = acc at h hruns ⊢
  constructor
  case states_settled => exact fun _ he => h.states_settled he
  case batch_eq =>
    intro batch hbatch p
    rw [h.mem_batch_iff hbatch, h.mem_stale_iff]
    constructor
    · rintro ⟨hseen, hp⟩
      exact ⟨⟨hseen, batch.1, hp⟩, (provider_of_stale hr hp).1⟩
    · rintro ⟨⟨hseen, e, hp⟩, hextension⟩
      obtain rfl : e = batch.1 :=
        Option.some.inj ((provider_of_stale hr hp).1.symm.trans hextension)
      exact ⟨hseen, hp⟩
  case batch_of_stale =>
    intro p hp
    obtain ⟨hseen, e, he⟩ := h.mem_stale_iff.1 hp
    obtain ⟨files, hfiles, hpfiles⟩ := (h.stale e p).2 ⟨hseen, he⟩
    refine ⟨(e, files), ⟨hfiles, hpfiles⟩, ?_⟩
    rintro ⟨e', files'⟩ ⟨hbatch, hpbatch⟩
    have he' := ((h.mem_batch_iff hbatch).1 hpbatch).2
    obtain rfl : e = e' := by
      rw [he] at he'
      exact Verdict.stale.inj he'
    rw [SortedMap.value_unique hbatch hfiles]
  case batch_only_stale =>
    intro batch hbatch p hp
    obtain ⟨hseen, hstale⟩ := (h.mem_batch_iff hbatch).1 hp
    refine ⟨fun hfresh => ?_, fun hignored => ?_, mem_changedFiles.1 hseen⟩
    · have hstate := ((h.states p .fresh).1 hfresh).2
      rw [hstale] at hstate
      cases hstate
    · have hverdict := ((h.ignored p).1 hignored).2
      rw [hstale] at hverdict
      cases hverdict
  case changed =>
    intro p hp
    rw [h.mem_states_keys_iff, h.ignored, mem_changedFiles]
    by_cases hv : r.verdict s.disk p = .ignored
    · exact .inr ⟨fun hkey => hkey.2 hv, hp, hv⟩
    · exact .inl ⟨⟨hp, hv⟩, fun hignored => hv hignored.2⟩
  case at_most_deleted =>
    intro p hp
    have hunseen : p ∉ changedFiles changes := by
      rw [mem_changedFiles]
      rintro ⟨c, hc, hpath, hkind⟩
      exact hkind (hp c hc hpath)
    rw [h.mem_states_keys_iff, h.ignored]
    exact ⟨fun hkey => hunseen hkey.1, fun hignored => hunseen hignored.1⟩
  case runs => exact hruns
  case accounted =>
    rintro ⟨e, files⟩ hbatch
    obtain ⟨run, hrun, rfl, rfl⟩ := hruns.exists_run hbatch
    exact RecompileReport.accounts_of_filter (hruns.filter_eq acc.stale.keys_nodup hrun)

/-- A provider of sources that finds those stale that have no class file, and compiles them to
    nothing. -/
def silentProvider : CompilationProvider where
  extension := ".java"
  isStale := StalenessPolicy.assumeFresh.isStale
  compile _ _ := pure ⟨[], []⟩

/-- A recompiler for the sources of one directory. -/
def silentRecompiler : IncrementalRecompiler where
  registry := ⟨SortedMap.empty.insert ".java" silentProvider⟩
  sourceRoots := ["/p/src"]
  context := .make "/p/classes" []

/-- A source without class file, and a file that no provider takes. -/
def editedDisk : Disk where
  entries := [(["p"], .directory 0), (["p", "src"], .directory 0),
    (["p", "src", "A.java"], .file default), (["p", "src", "notes.txt"], .file default)]
  workingDirectory := []
  now := 0

/-- Both files change, the source twice, and another source is deleted. -/
def edits : List FileChange :=
  [⟨"/p/src/A.java", .created⟩, ⟨"/p/src/notes.txt", .modified⟩, ⟨"/p/src/B.java", .deleted⟩,
    ⟨"/p/src/A.java", .modified⟩]

theorem process_consistent_edits :
    (silentRecompiler.evaluate editedDisk edits).states.entries = [(⟨"/p/src/A.java"⟩, .stale)] ∧
    (silentRecompiler.evaluate editedDisk edits).ignored = [⟨"/p/src/notes.txt"⟩] ∧
    (silentRecompiler.process edits (.start editedDisk)).1.Consistent silentRecompiler edits
      (.start editedDisk) (silentRecompiler.process edits (.start editedDisk)).2 :=
  ⟨by decide +kernel, by decide +kernel,
    process_consistent (.register .empty (p := silentProvider) rfl) (by decide +kernel) _⟩

end IncrementalRecompiler
end Buildwright
