-- SUMMARY: How one provider compiles, or that it fails, shows in a report at one place only: that of its own run.
import Buildwright.Proofs.Dev.Bookkeeping
import Buildwright.Proofs.Dev.Providers

/-!
# The isolation of providers

Providers are run one after the other, and their outcomes stand one after the other in the report. If outcomes
depend on the files and the context only, the run of each batch is what it would be alone: `runOf`. Two
registries that differ in how the provider of one extension compiles then lead to reports that differ in its
one run. The evaluation comes before all runs, and does not look at how providers compile.
-/
namespace Buildwright

/-! ## Providers that differ in one place -/

namespace CompilationProvider

/-- A provider whose outcomes depend on the files and the context only. -/
def ByFiles (p : CompilationProvider) : Prop :=
  ∀ files ctx (s s' : Session),
    (Session.effect (p.compile files ctx) s).1 = (Session.effect (p.compile files ctx) s').1

/-- Two providers for one extension that find the same files stale. -/
structure JudgesAlike (p p' : CompilationProvider) : Prop where
  extension : p.extension = p'.extension
  isStale : p.isStale = p'.isStale

theorem JudgesAlike.refl (p : CompilationProvider) : p.JudgesAlike p :=
  ⟨rfl, rfl⟩

end CompilationProvider

/-- Two registries for the same extensions and with the same verdicts, that differ at most in how the provider
    of the extension `e` compiles. -/
structure ProviderRegistry.DifferAt (e : String) (registry registry' : ProviderRegistry) : Prop where
  others : ∀ e', e' ≠ e → registry.find? e' = registry'.find? e'
  own : Option.Rel CompilationProvider.JudgesAlike (registry.find? e) (registry'.find? e)

theorem ProviderRegistry.DifferAt.find? {e : String} {registry registry' : ProviderRegistry}
    (h : registry.DifferAt e registry') (e' : String) :
    Option.Rel CompilationProvider.JudgesAlike (registry.find? e') (registry'.find? e') := by
  by_cases he : e' = e
  · rw [he]
    exact h.own
  · rw [h.others e' he]
    cases registry'.find? e' with
    | none => exact .none
    | some p => exact .some (.refl p)

/-! ## Evaluation -/

namespace IncrementalRecompiler

variable {r : IncrementalRecompiler} {registry' : ProviderRegistry} {e : String}

/-- The evaluation of changes does not depend on how providers compile. -/
theorem evaluate_differAt (h : r.registry.DifferAt e registry') (d : Disk) (changes : List FileChange) :
    ({ r with registry := registry' }).evaluate d changes = r.evaluate d changes := by
  have hchange : ∀ acc c, ({ r with registry := registry' }).evaluateChange d acc c =
      r.evaluateChange d acc c := by
    intro acc c
    have hprovider : Option.Rel CompilationProvider.JudgesAlike (r.registry.forPath? c.path)
        (registry'.forPath? c.path) := by
      unfold ProviderRegistry.forPath?
      cases c.path.dottedExtension? with
      | none => exact .none
      | some extension => exact h.find? extension
    have hroot : ({ r with registry := registry' }).sourceRootOf c.path = r.sourceRootOf c.path := rfl
    unfold evaluateChange
    rw [hroot]
    generalize r.registry.forPath? c.path = provider at hprovider
    generalize registry'.forPath? c.path = provider' at hprovider
    cases hprovider with
    | none => rfl
    | @some p p' hjudges =>
      cases r.sourceRootOf c.path with
      | none => rfl
      | some sources => simp only [evaluateWith, hjudges.extension, hjudges.isStale]
  have hstep : ({ r with registry := registry' }).evaluateChange d = r.evaluateChange d :=
    funext fun acc => funext (hchange acc)
  rw [evaluate, evaluate, hstep]

/-! ## Runs -/

/-- The run for a batch, if it has a provider, in a session of its own. -/
def runOf (r : IncrementalRecompiler) (s : Session) (batch : String × SortedSet Path) :
    Option ProviderRun :=
  (r.registry.find? batch.1).map fun p =>
    ⟨batch.1, batch.2, (Session.effect (p.compile batch.2 r.context) s).1⟩

theorem extension_of_runOf {s : Session} {batch : String × SortedSet Path} {run : ProviderRun}
    (h : r.runOf s batch = some run) : run.extension = batch.1 := by
  obtain ⟨p, -, rfl⟩ := Option.map_eq_some_iff.1 h
  rfl

/-- Providers whose outcomes depend on the files and the context only make the same of each batch, whatever
    was run before it. -/
theorem runProviders_byFiles (hproviders : ∀ e p, r.registry.find? e = some p → p.ByFiles) (s₀ : Session)
    (batches : List (String × SortedSet Path)) (s : Session) :
    (r.runProviders batches s).1 = batches.filterMap (r.runOf s₀) := by
  induction batches generalizing s with
  | nil => rfl
  | cons batch rest ih =>
    obtain ⟨e, files⟩ := batch
    have hrun : (r.runProvider e files s).1 = r.runOf s₀ (e, files) := by
      rw [(r.runProvider_eq e files s).1, runOf]
      cases hfind : r.registry.find? e with
      | none => rfl
      | some p => rw [Option.map_some, Option.map_some, hproviders e p hfind files r.context s s₀]
    rw [runProviders_cons, ih, hrun, List.filterMap_cons]
    cases r.runOf s₀ (e, files) <;> rfl

end IncrementalRecompiler

/-! ## Reports -/

namespace RecompileReport

/-- The report without what the provider of an extension has contributed. -/
def without (report : RecompileReport) (e : String) : RecompileReport :=
  { report with runs := report.runs.filter (·.extension ≠ e) }

/-- A report consists of what other providers have contributed, and between them, at one place, of the run
    `own` for the extension `e`, if there is one. -/
structure Surrounds (before after : List ProviderRun) (e : String) (own : Option ProviderRun)
    (report : RecompileReport) : Prop where
  runs : report.runs = before ++ own.toList ++ after
  own_extension : ∀ run ∈ own, run.extension = e
  others : (report.without e).runs = before ++ after

/-- Two reports that tell the same of the changes and, but for what concerns the extension `e`, of the
    providers. -/
structure SameBut (e : String) (report report' : RecompileReport) : Prop where
  states : report.evaluation.states = report'.evaluation.states
  ignored : report.evaluation.ignored = report'.evaluation.ignored
  stale : report.evaluation.stale = report'.evaluation.stale
  written : (report.without e).written = (report'.without e).written
  warnings : (report.without e).warnings = (report'.without e).warnings
  failures : (report.without e).failures = (report'.without e).failures

end RecompileReport

namespace IncrementalRecompiler

open RecompileReport

variable {r : IncrementalRecompiler} {registry' : ProviderRegistry} {e : String}

theorem filter_filterMap_runOf {s : Session} {batches : List (String × SortedSet Path)}
    (h : ∀ batch ∈ batches, batch.1 ≠ e) :
    (batches.filterMap (r.runOf s)).filter (·.extension ≠ e) = batches.filterMap (r.runOf s) := by
  refine List.filter_eq_self.2 fun run hrun => ?_
  obtain ⟨batch, hbatch, hof⟩ := List.mem_filterMap.1 hrun
  rw [extension_of_runOf hof]
  exact decide_eq_true (h batch hbatch)

theorem filterMap_runOf_differAt (h : r.registry.DifferAt e registry') {s : Session}
    {batches : List (String × SortedSet Path)} (hbatches : ∀ batch ∈ batches, batch.1 ≠ e) :
    batches.filterMap (({ r with registry := registry' }).runOf s) = batches.filterMap (r.runOf s) := by
  refine List.filterMap_congr fun batch hbatch => ?_
  rw [runOf, runOf, h.others batch.1 (hbatches batch hbatch)]

/-- The batches of distinct extensions around that of an extension, if it has one. -/
theorem exists_around (e : String) {batches : List (String × SortedSet Path)}
    (hnodup : (batches.map (·.1)).Nodup) :
    ∃ (before after : List (String × SortedSet Path)) (own : Option (String × SortedSet Path)),
      batches = before ++ own.toList ++ after ∧ (∀ batch ∈ own, batch.1 = e) ∧
        ∀ batch ∈ before ++ after, batch.1 ≠ e := by
  by_cases he : ∃ files, (e, files) ∈ batches
  · obtain ⟨files, hmem⟩ := he
    obtain ⟨before, after, rfl⟩ := List.append_of_mem hmem
    refine ⟨before, after, some (e, files), by simp, by simp, ?_⟩
    rw [List.map_append, List.map_cons, List.nodup_middle, List.nodup_cons, ← List.map_append] at hnodup
    rintro batch hbatch rfl
    exact hnodup.1 (List.mem_map.2 ⟨batch, hbatch, rfl⟩)
  · refine ⟨batches, [], none, by simp, by simp, ?_⟩
    rintro ⟨e', files⟩ hbatch rfl
    exact he ⟨files, by simpa using hbatch⟩

/-- The runs of batches around those of one extension. -/
theorem surrounds_filterMap {before after : List (String × SortedSet Path)}
    {own : Option (String × SortedSet Path)} {s : Session} (hown : ∀ batch ∈ own, batch.1 = e)
    (hothers : ∀ batch ∈ before ++ after, batch.1 ≠ e) (evaluation : Evaluation) :
    Surrounds (before.filterMap (r.runOf s)) (after.filterMap (r.runOf s)) e (own.bind (r.runOf s))
      ⟨evaluation, (before ++ own.toList ++ after).filterMap (r.runOf s)⟩ := by
  have hextension : ∀ run ∈ own.bind (r.runOf s), run.extension = e := by
    intro run hrun
    obtain ⟨batch, hbatch, hof⟩ := Option.bind_eq_some_iff.1 hrun
    rw [extension_of_runOf hof, hown batch hbatch]
  have hruns : (before ++ own.toList ++ after).filterMap (r.runOf s) =
      before.filterMap (r.runOf s) ++ (own.bind (r.runOf s)).toList ++ after.filterMap (r.runOf s) := by
    rw [List.filterMap_append, List.filterMap_append]
    cases own with
    | none => rfl
    | some batch =>
      rw [Option.toList_some, List.filterMap_cons, Option.bind_some]
      cases r.runOf s batch <;> rfl
  refine ⟨hruns, hextension, ?_⟩
  have hnone : (own.bind (r.runOf s)).toList.filter (fun run => decide (run.extension ≠ e)) = [] := by
    refine List.filter_eq_nil_iff.2 fun run hrun => ?_
    simp [hextension run (Option.mem_toList.1 hrun)]
  show ((before ++ own.toList ++ after).filterMap (r.runOf s)).filter _ = _
  rw [hruns, List.filter_append, List.filter_append, hnone, List.append_nil,
    filter_filterMap_runOf fun batch hbatch => hothers batch (List.mem_append_left _ hbatch),
    filter_filterMap_runOf fun batch hbatch => hothers batch (List.mem_append_right _ hbatch)]

/-- Whether and how the provider of one extension compiles has no bearing on the others, if outcomes depend on
    the files and the context only. The reports tell the same of the changes and of all other providers; what
    the one provider contributes, an output or a failure, stands at one place between the same runs; and every
    provider of stale files has its run, with the outcome that it would have alone, in any session. -/
theorem process_isolated (h : r.registry.DifferAt e registry')
    (hproviders : ∀ e' p, r.registry.find? e' = some p → p.ByFiles)
    (hproviders' : ∀ e' p, registry'.find? e' = some p → p.ByFiles) (changes : List FileChange)
    (s : Session) :
    SameBut e (r.process changes s).1 (({ r with registry := registry' }).process changes s).1 ∧
    (∃ before after own own', Surrounds before after e own (r.process changes s).1 ∧
      Surrounds before after e own' (({ r with registry := registry' }).process changes s).1) ∧
    ∀ batch ∈ (r.process changes s).1.evaluation.stale.entries, ∀ p,
      r.registry.find? batch.1 = some p → ∀ s₀,
        ⟨batch.1, batch.2, (Session.effect (p.compile batch.2 r.context) s₀).1⟩ ∈
          (r.process changes s).1.runs := by
  rw [process_eq, process_eq, evaluate_differAt h, runProviders_byFiles hproviders s,
    runProviders_byFiles (r := { r with registry := registry' }) hproviders' s]
  generalize r.evaluate s.disk changes = acc
  obtain ⟨before, after, own, hbatches, hown, hothers⟩ := exists_around e acc.stale.keys_nodup
  have hleft := surrounds_filterMap (r := r) (s := s) hown hothers acc
  have hright := surrounds_filterMap (r := { r with registry := registry' }) (s := s) hown hothers acc
  rw [filterMap_runOf_differAt h fun batch hbatch => hothers batch (List.mem_append_left _ hbatch),
    filterMap_runOf_differAt h fun batch hbatch => hothers batch (List.mem_append_right _ hbatch)] at hright
  rw [hbatches]
  have hruns := hleft.others.trans hright.others.symm
  refine ⟨⟨rfl, rfl, rfl, ?_, ?_, ?_⟩, ⟨_, _, _, _, hleft, hright⟩, ?_⟩
  · rw [written, hruns]
    rfl
  · rw [warnings, hruns]
    rfl
  · rw [failures, hruns]
    rfl
  · intro batch hbatch p hp s₀
    rw [← runProviders_byFiles hproviders s _ s, runProviders_byFiles hproviders s₀]
    exact List.mem_filterMap.2 ⟨batch, hbatch, by rw [runOf, hp]; rfl⟩

/-! ### Rules that fail -/

/-- A provider whose runs all have the same outcome. -/
def fixedProvider (extension : String) (outcome : Except RecompileError ProviderOutput) :
    CompilationProvider where
  extension
  isStale := StalenessPolicy.assumeFresh.isStale
  compile _ _ := fun s =>
    match outcome with
    | .ok o => .ok o s
    | .error e => .error e s

theorem fixedProvider_byFiles (extension : String) (outcome : Except RecompileError ProviderOutput) :
    (fixedProvider extension outcome).ByFiles := by
  intro files ctx s s'
  cases outcome <;> rfl

/-- A registry with a provider of sources that writes a class file, and one of rules. -/
def ruleRegistry (rules : Except RecompileError ProviderOutput) : ProviderRegistry :=
  ⟨(SortedMap.empty.insert ".java" (fixedProvider ".java" (.ok ⟨["/p/classes/A.class"], []⟩))).insert ".drl"
    (fixedProvider ".drl" rules)⟩

theorem byFiles_ruleRegistry {rules : Except RecompileError ProviderOutput} {e : String}
    {p : CompilationProvider} (h : (ruleRegistry rules).find? e = some p) : p.ByFiles := by
  rw [ProviderRegistry.find?, ruleRegistry, SortedMap.find?_insert, SortedMap.find?_insert,
    SortedMap.find?_empty] at h
  split at h
  · cases h
    exact fixedProvider_byFiles _ _
  · split at h
    · cases h
      exact fixedProvider_byFiles _ _
    · cases h

theorem ruleRegistry_differAt (rules rules' : Except RecompileError ProviderOutput) :
    (ruleRegistry rules).DifferAt ".drl" (ruleRegistry rules') where
  others e he := by
    have hne : compare e ".drl" ≠ .eq := fun heq => he (Std.LawfulEqOrd.eq_of_compare heq)
    have hfind : ∀ rules, (ruleRegistry rules).find? e =
        (SortedMap.empty.insert ".java"
          (fixedProvider ".java" (.ok ⟨["/p/classes/A.class"], []⟩))).find? e := by
      intro rules
      rw [ProviderRegistry.find?, ruleRegistry, SortedMap.find?_insert, if_neg hne]
    rw [hfind, hfind]
  own := by
    have hfind : ∀ rules, (ruleRegistry rules).find? ".drl" = some (fixedProvider ".drl" rules) := by
      intro rules
      rw [ProviderRegistry.find?, ruleRegistry, SortedMap.find?_insert, if_pos Std.ReflOrd.compare_self]
    rw [hfind, hfind]
    exact .some ⟨rfl, rfl⟩

/-- A source and a rule without class files. -/
def ruleSources : Disk where
  entries := [(["p"], .directory 0), (["p", "src"], .directory 0),
    (["p", "src", "A.java"], .file default), (["p", "src", "R.drl"], .file default)]
  workingDirectory := []
  now := 0

/-- A recompiler for sources and rules. -/
def ruleRecompiler (rules : Except RecompileError ProviderOutput) : IncrementalRecompiler :=
  { silentRecompiler with registry := ruleRegistry rules }

/-- The rules are run before the sources. Whether they fail does not show in what becomes of these. -/
theorem process_isolated_rules :
    ((ruleRecompiler (.error (.compilation "bad"))).process
      [⟨"/p/src/A.java", .modified⟩, ⟨"/p/src/R.drl", .modified⟩] (.start ruleSources)).1.written =
        [⟨"/p/classes/A.class"⟩] ∧
    ((ruleRecompiler (.ok ⟨["/p/classes/R.class"], []⟩)).process
      [⟨"/p/src/A.java", .modified⟩, ⟨"/p/src/R.drl", .modified⟩] (.start ruleSources)).1.written =
        [⟨"/p/classes/R.class"⟩, ⟨"/p/classes/A.class"⟩] ∧
    SameBut ".drl"
      ((ruleRecompiler (.error (.compilation "bad"))).process
        [⟨"/p/src/A.java", .modified⟩, ⟨"/p/src/R.drl", .modified⟩] (.start ruleSources)).1
      ((ruleRecompiler (.ok ⟨["/p/classes/R.class"], []⟩)).process
        [⟨"/p/src/A.java", .modified⟩, ⟨"/p/src/R.drl", .modified⟩] (.start ruleSources)).1 :=
  ⟨by decide +kernel, by decide +kernel,
    (process_isolated (r := ruleRecompiler (.error (.compilation "bad"))) (ruleRegistry_differAt _ _)
      (fun _ _ => byFiles_ruleRegistry) (fun _ _ => byFiles_ruleRegistry) _ _).1⟩

end IncrementalRecompiler
end Buildwright
