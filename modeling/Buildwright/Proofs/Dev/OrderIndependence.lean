-- SUMMARY: Recompiling a group of changes: neither their order and repetition nor the order of the source roots matters.
import Buildwright.Proofs.Dev.Bookkeeping
import Buildwright.Proofs.Dev.Providers
import Buildwright.Proofs.Dev.SourceRoots

/-!
# Order independence

A watcher may report changes in any order and several times, and the source roots of a project stand in
some order. Neither shows in what a recompilation reports. The verdict of a file depends on its innermost
root only, up to spelling; the record of an evaluation is determined by the set of files it is about and
their verdicts; and providers that are handed the same batches on the same disk do the same.
-/
namespace Buildwright

/-! ## Verdicts -/

namespace IncrementalRecompiler

variable {r : IncrementalRecompiler} {roots : List Path}

/-- A file is judged alike whatever the order of the source roots. -/
theorem verdict_withRoots (hproviders : ∀ e p, r.registry.find? e = some p → p.Determined)
    (hroots : roots.Perm r.sourceRoots) (d : Disk) (p : Path) :
    ({ r with sourceRoots := roots }).verdict d p = r.verdict d p := by
  cases hprovider : r.registry.forPath? p with
  | none =>
    have hprovider' : ({ r with sourceRoots := roots }).registry.forPath? p = none := hprovider
    rw [verdict_of_no_provider hprovider, verdict_of_no_provider hprovider']
  | some provider =>
    cases hroot : r.sourceRootOf p with
    | none =>
      have hroot' : ({ r with sourceRoots := roots }).sourceRootOf p = none :=
        sourceRootOf_eq_none.2 fun root hmem => sourceRootOf_eq_none.1 hroot root (hroots.mem_iff.1 hmem)
      rw [verdict_of_no_root hroot, verdict_of_no_root hroot']
    | some root =>
      obtain ⟨root', hroot', hcompare⟩ :=
        ((sourceRootOf_innermost hroot).of_perm hroots.symm).exists_sourceRootOf
          (r := { r with sourceRoots := roots })
      obtain ⟨e, -, hfind⟩ := Option.bind_eq_some_iff.1 hprovider
      have hjudged : ({ r with sourceRoots := roots }).verdict d p = verdictWith _ d p provider root' :=
        verdict_of_some hprovider hroot'
      rw [hjudged, verdict_of_some hprovider hroot, verdictWith, verdictWith]
      simp only [(hproviders e provider hfind).isStale_eq _ _ _ _ _ _ _ hcompare]

end IncrementalRecompiler

/-! ## Records -/

namespace Evaluation

/-- Two records with the same states and the same batches, in which the same files are ignored. -/
structure Agrees (acc acc' : Evaluation) : Prop where
  states : acc.states = acc'.states
  stale : acc.stale = acc'.stale
  ignored : ∀ p, p ∈ acc.ignored ↔ p ∈ acc'.ignored

/-- A record is determined by the files seen so far and their verdicts. -/
theorem Reflects.agrees {acc acc' : Evaluation} {verdict : Path → Verdict} {seen seen' : List Path}
    (h : acc.Reflects verdict seen) (h' : acc'.Reflects verdict seen')
    (hseen : ∀ p, p ∈ seen ↔ p ∈ seen') : acc.Agrees acc' where
  states := SortedMap.ext_mem fun ⟨p, s⟩ => by rw [h.states, h'.states, hseen]
  ignored p := by rw [h.ignored, h'.ignored, hseen]
  stale := by
    have hbatch : ∀ e files, (e, files) ∈ acc.stale.entries → ∀ files', (e, files') ∈ acc'.stale.entries →
        files = files' := by
      intro e files hfiles files' hfiles'
      refine SortedMap.ext_mem_keys fun p => ?_
      rw [h.mem_batch_iff hfiles, h'.mem_batch_iff hfiles', hseen]
    have hfind : ∀ e, (∃ p, p ∈ seen ∧ verdict p = .stale e) →
        (∃ files, (e, files) ∈ acc.stale.entries) ∧ ∃ files, (e, files) ∈ acc'.stale.entries := by
      rintro e ⟨p, hp, hs⟩
      obtain ⟨files, hfiles, -⟩ := (h.stale e p).2 ⟨hp, hs⟩
      obtain ⟨files', hfiles', -⟩ := (h'.stale e p).2 ⟨(hseen p).1 hp, hs⟩
      exact ⟨⟨files, hfiles⟩, files', hfiles'⟩
    refine SortedMap.ext_mem fun ⟨e, files⟩ => ⟨fun hfiles => ?_, fun hfiles => ?_⟩
    · obtain ⟨p, hp⟩ := h.occupied _ hfiles
      obtain ⟨-, files', hfiles'⟩ := hfind e ⟨p, (h.mem_batch_iff hfiles).1 hp⟩
      rwa [hbatch e files hfiles files' hfiles']
    · obtain ⟨p, hp⟩ := h'.occupied _ hfiles
      obtain ⟨hseen', hs⟩ := (h'.mem_batch_iff hfiles).1 hp
      obtain ⟨⟨files', hfiles'⟩, -⟩ := hfind e ⟨p, (hseen p).2 hseen', hs⟩
      rwa [← hbatch e files' hfiles' files hfiles]

end Evaluation

/-! ## Reports -/

/-- Two reports that say the same of every file and of every run. -/
structure RecompileReport.Agrees (report report' : RecompileReport) : Prop where
  evaluation : report.evaluation.Agrees report'.evaluation
  written : report.written = report'.written
  warnings : report.warnings = report'.warnings
  failures : report.failures = report'.failures

namespace IncrementalRecompiler

theorem eq_silentProvider {e : String} {p : CompilationProvider}
    (h : silentRecompiler.registry.find? e = some p) : p = silentProvider := by
  rw [ProviderRegistry.find?, silentRecompiler, SortedMap.find?_insert, SortedMap.find?_empty] at h
  split at h
  · exact (Option.some.inj h).symm
  · cases h

theorem isStale_silentProvider : silentProvider.isStale = StalenessPolicy.assumeFresh.isStale := by
  unfold silentProvider
  rfl

theorem silentProvider_determined : silentProvider.Determined where
  byDisk _ _ := .pure _
  isStale_eq d _ _ _ classes e time h := by
    rw [isStale_silentProvider]
    exact StalenessPolicy.assumeFresh.isStale_congr d classes e time
      (Path.relativeTo?_congr (Path.compare_eq_iff.1 h))

/-- A recompiler for the sources of nested directories, one of them in two spellings. -/
def nestedRecompiler : IncrementalRecompiler :=
  { silentRecompiler with sourceRoots := ["/p", "/p/src", "/p//src"] }

end IncrementalRecompiler
end Buildwright
