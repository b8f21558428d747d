-- SUMMARY: The development loop converges: sources that were recompiled once are fresh from then on.
import Buildwright.Proofs.Dev.Bookkeeping
import Buildwright.Proofs.Dev.Providers
import Buildwright.Proofs.Dev.SourceRoots
import Buildwright.Proofs.Dev.StoreNames

/-!
# Convergence of the development loop

Whether a source is stale is read off the time of one class file, whose path comes from the innermost
source root of the source; what the Java provider writes comes from what its compiler puts into the
target. For a compiler that mirrors the sources below their roots the two are the same files, so that a
recompilation that succeeds leaves nothing to be done.
-/
namespace Buildwright

open IncrementalRecompiler

/-! ## Class files -/

/-- The name of the class file of a source: what its path is relative to an innermost source root, with
    the ending of class files in place of that of sources. -/
def ClassNamed (roots : List Path) (p : Path) (name : String) : Prop :=
  ∃ root stem, Innermost roots p root ∧
    p.relativeTo? root = some ⟨stem ++ ClassName.sourceSuffix⟩ ∧ name = stem ++ ClassName.classSuffix

/-- The innermost roots of a source give one name. -/
theorem ClassNamed.unique {roots : List Path} {p : Path} {name name' : String}
    (h : ClassNamed roots p name) (h' : ClassNamed roots p name') : name = name' := by
  obtain ⟨root, stem, hroot, hrelative, rfl⟩ := h
  obtain ⟨root', stem', hroot', hrelative', rfl⟩ := h'
  have hcompare := Path.compare_eq_iff.1 (hroot.compare_eq hroot')
  rw [Path.relativeTo?_congr hcompare, hrelative', Option.some.injEq, Path.mk.injEq,
    String.append_left_inj] at hrelative
  rw [hrelative]

/-- A compiler that succeeds for all staged sources among the given ones, and puts exactly the class files
    of the staged ones into the target. -/
def Compiler.Mirrors (c : Compiler) (roots sources : List Path) : Prop :=
  ∀ files : SortedSet Path, files.isEmpty = false → (∀ p ∈ files.keys, p ∈ sources) →
    ∀ d names store, JavaProvider.stage files.keys d = .ok (names, store) → ∀ ctx w,
      ∃ target warnings w', c.compile names store ctx w = .ok (.success target warnings) w' ∧
        ∀ name, name ∈ target.names ↔ ∃ p ∈ files.keys, ClassNamed roots p name

/-- The Java provider writes the class files of the sources that it compiles. -/
theorem JavaProvider.mem_written {java : JavaProvider} {roots sources : List Path}
    (hcompiler : java.compiler.Mirrors roots sources) {files : SortedSet Path}
    (hfiles : ∀ p ∈ files.keys, p ∈ sources) {ctx : CompileContext} {s s' : Session}
    {o : ProviderOutput} (h : java.compile files ctx s = .ok o s') {p : Path} (hp : p ∈ files.keys)
    {name : String} (hname : ClassNamed roots p name) : ctx.output.join ⟨name⟩ ∈ o.written := by
  have hsome : files.isEmpty = false := by
    cases hempty : files.isEmpty with
    | false => rfl
    | true =>
      rw [SortedMap.keys, List.isEmpty_iff.1 hempty] at hp
      cases hp
  have hwp : wp (java.compile files ctx) (fun o _ => ctx.output.join ⟨name⟩ ∈ o.written)
      (fun _ _ => True) s := by
    refine wp_compile hsome (fun _ _ => trivial) (fun _ _ _ _ _ => trivial) (fun _ _ _ _ _ => trivial) ?_
    rintro ⟨names, store⟩ target warnings w hstage hanswer
    obtain ⟨target', warnings', w', hcall, hnames⟩ :=
      hcompiler files hsome hfiles s.disk names store hstage (ctx.withClasspath [ctx.output]) ⟨s.disk, []⟩
    rw [answer, hcall] at hanswer
    cases hanswer
    refine wp.mono (fun _ _ _ => ?_) (fun _ _ _ => trivial) wp.trivial
    exact List.mem_map_of_mem ((hnames name).2 ⟨p, hp, hname⟩)
  exact wp.of_ok (Q := fun o _ => ctx.output.join ⟨name⟩ ∈ o.written) hwp h

/-! ## The verdict of a source -/

namespace StalenessPolicy

/-- A source with a class file is judged by the time of that file. -/
theorem isStale_of_outputFile? {policy : StalenessPolicy} {d : Disk} {file sources classes out : Path}
    {e : String} (h : ClassName.outputFile? file sources classes e = some out) (time : Nat) :
    policy.isStale d file sources classes e time =
      decide (policy.judge time (d.modifiedMillis out) = .stale) := by
  rw [isStale, check, h]

/-- A class file that is not older than its source makes it fresh. -/
theorem judge_of_le (policy : StalenessPolicy) {sourceTime outputTime : Nat}
    (h : sourceTime ≤ outputTime) : policy.judge sourceTime (.ok outputTime) = .fresh := by
  rw [judge, if_pos h]

end StalenessPolicy

namespace IncrementalRecompiler

variable {r : IncrementalRecompiler} {java : JavaProvider} {p : Path}

/-- A source below the source roots: canonical, with the ending of sources, and below its innermost
    root. -/
structure IsSource (roots : List Path) (p : Path) : Prop where
  canonical : p.Canonical
  extension : p.dottedExtension? = some ClassName.sourceSuffix
  contained : ∃ root ∈ roots, p.startsWith root = true
  below : ∀ root ∈ roots, compare root p ≠ .eq

/-- The class file of a source is the one that its verdict depends on. -/
theorem IsSource.exists_verdict (h : IsSource r.sourceRoots p)
    (hjava : r.registry.find? ClassName.sourceSuffix = some java.toProvider) :
    ∃ name, ClassNamed r.sourceRoots p name ∧ ∀ d time, d.modifiedMillis p = .ok time →
      r.verdict d p =
        if java.policy.judge time (d.modifiedMillis (r.context.output.join ⟨name⟩)) = .stale then
          .stale ClassName.sourceSuffix
        else .fresh := by
  cases hroot : r.sourceRootOf p with
  | none =>
    obtain ⟨root, hmem, hstarts⟩ := h.contained
    rw [sourceRootOf_eq_none.1 hroot root hmem] at hstarts
    cases hstarts
  | some root =>
    have hinnermost := sourceRootOf_innermost hroot
    obtain ⟨stem, hstem, hrelative⟩ := h.canonical.exists_stem hinnermost.startsWith
      (fun heq => h.below root hinnermost.mem (Path.compare_eq_iff.2 heq)) h.extension
    have hout : ClassName.outputFile? p root r.context.output ClassName.sourceSuffix =
        some (r.context.output.join ⟨stem ++ ClassName.classSuffix⟩) := by
      simp [ClassName.outputFile?, hrelative, hstem]
    have hprovider : r.registry.forPath? p = some java.toProvider := by
      rw [ProviderRegistry.forPath?, h.extension]
      exact hjava
    refine ⟨stem ++ ClassName.classSuffix, ⟨root, stem, hinnermost, hrelative, rfl⟩, ?_⟩
    intro d time htime
    rw [verdict_of_some hprovider hroot, verdictWith, htime]
    simp only [JavaProvider.toProvider, StalenessPolicy.isStale_of_outputFile? hout,
      decide_eq_true_eq]

/-! ## Two recompilations -/

/-- A run that has ended well is a compilation of its files by the provider of its extension. -/
theorem Runs.exists_compile {batches : List (String × SortedSet Path)} {runs : List ProviderRun}
    {s s' : Session} (h : Runs r batches s runs s') {run : ProviderRun} (hrun : run ∈ runs)
    {o : ProviderOutput} (ho : run.outcome = .ok o) :
    ∃ provider s₁ s₂, r.registry.find? run.extension = some provider ∧
      provider.compile run.files r.context s₁ = .ok o s₂ := by
  induction h with
  | nil => cases hrun
  | succeeded hprovider hcompile _ ih =>
    rcases List.mem_cons.1 hrun with rfl | hrun
    · cases ho
      exact ⟨_, _, _, hprovider, hcompile⟩
    · exact ih hrun
  | failed _ _ _ ih =>
    rcases List.mem_cons.1 hrun with rfl | hrun
    · cases ho
    · exact ih hrun

/-- A file on the disk `d'` that is not older than any of the sources on the disk `d`. -/
def Late (d d' : Disk) (sources : List Path) (out : Path) : Prop :=
  ∃ late, d'.modifiedMillis out = .ok late ∧
    ∀ p ∈ sources, ∀ time, d.modifiedMillis p = .ok time → time ≤ late

/-- Nothing has happened between the disks `d` and `d'` but that files were written, at a time when no
    source was younger. What was not written is as it was, unless it is one of the written files under
    another name. -/
structure Settled (d d' : Disk) (roots : List Path) (output : Path) (sources written : List Path) :
    Prop where
  kept : ∀ p ∈ sources, d'.modifiedMillis p = d.modifiedMillis p
  late : ∀ out ∈ written, Late d d' sources out
  others : ∀ p ∈ sources, ∀ name, ClassNamed roots p name → output.join ⟨name⟩ ∉ written →
    d'.modifiedMillis (output.join ⟨name⟩) = d.modifiedMillis (output.join ⟨name⟩) ∨
      Late d d' sources (output.join ⟨name⟩)

variable {changes : List FileChange} {s s' : Session}

/-- What a recompilation without failures finds stale, it writes the class file of. -/
theorem classFile_mem_written
    (hjava : r.registry.find? ClassName.sourceSuffix = some java.toProvider)
    (hsources : ∀ q ∈ changedFiles changes, IsSource r.sourceRoots q)
    (htimes : ∀ q ∈ changedFiles changes, ∃ time, s.disk.modifiedMillis q = .ok time)
    (hcompiler : java.compiler.Mirrors r.sourceRoots (changedFiles changes))
    (hsuccess : (r.process changes s).1.isSuccess = true) (hp : p ∈ changedFiles changes)
    (hstale : r.verdict s.disk p = .stale ClassName.sourceSuffix) {name : String}
    (hname : ClassNamed r.sourceRoots p name) :
    r.context.output.join ⟨name⟩ ∈ (r.process changes s).1.written := by
  have h := r.evaluate_reflects s.disk fun q hq => (hsources q hq).canonical
  have hextensions : ∀ batch ∈ (r.evaluate s.disk changes).stale.entries,
      batch.1 = ClassName.sourceSuffix := by
    intro batch hbatch
    obtain ⟨q, hq⟩ := h.occupied batch hbatch
    obtain ⟨hseen, hverdict⟩ := (h.mem_batch_iff hbatch).1 hq
    obtain ⟨time, htime⟩ := htimes q hseen
    obtain ⟨name, -, hjudged⟩ := (hsources q hseen).exists_verdict hjava
    rw [hjudged s.disk time htime] at hverdict
    split at hverdict
    · exact (Verdict.stale.inj hverdict).symm
    · cases hverdict
  have hruns : Runs r (r.evaluate s.disk changes).stale.entries s (r.process changes s).1.runs
      (r.process changes s).2 :=
    runProviders_runs (fun batch hbatch => ⟨java.toProvider, hextensions batch hbatch ▸ hjava⟩) s
  obtain ⟨files, hfiles, hpfiles⟩ := (h.stale ClassName.sourceSuffix p).2 ⟨hp, hstale⟩
  obtain ⟨run, hrun, hextension, rfl⟩ := hruns.exists_run hfiles
  cases ho : run.outcome with
  | error e =>
    have hfailure : (run.extension, run.files, e) ∈ (r.process changes s).1.failures :=
      List.mem_filterMap.2 ⟨run, hrun, by rw [ho]⟩
    rw [RecompileReport.isSuccess, List.isEmpty_iff] at hsuccess
    rw [hsuccess] at hfailure
    cases hfailure
  | ok o =>
    obtain ⟨provider, s₁, s₂, hprovider, hcompile⟩ := hruns.exists_compile hrun ho
    rw [hextension, hjava] at hprovider
    cases hprovider
    have hinfix : o.written <:+: (r.process changes s).1.written :=
      RecompileReport.written_infix hrun ho
    exact hinfix.subset (java.mem_written hcompiler
      (fun q hq => ((h.mem_batch_iff hfiles).1 hq).1) hcompile hpfiles hname)

/-- Where a recompilation has had no failures, and nothing else has happened since than that its class
    files were written, every source is fresh. -/
theorem verdict_of_settled
    (hjava : r.registry.find? ClassName.sourceSuffix = some java.toProvider)
    (hsources : ∀ q ∈ changedFiles changes, IsSource r.sourceRoots q)
    (htimes : ∀ q ∈ changedFiles changes, ∃ time, s.disk.modifiedMillis q = .ok time)
    (hcompiler : java.compiler.Mirrors r.sourceRoots (changedFiles changes))
    (hsuccess : (r.process changes s).1.isSuccess = true)
    (hsettled : Settled s.disk s'.disk r.sourceRoots r.context.output (changedFiles changes)
      (r.process changes s).1.written)
    (hp : p ∈ changedFiles changes) : r.verdict s'.disk p = .fresh := by
  obtain ⟨name, hname, hjudged⟩ := (hsources p hp).exists_verdict hjava
  obtain ⟨time, htime⟩ := htimes p hp
  have hlate : Late s.disk s'.disk (changedFiles changes) (r.context.output.join ⟨name⟩) →
      java.policy.judge time (s'.disk.modifiedMillis (r.context.output.join ⟨name⟩)) ≠ .stale := by
    rintro ⟨late, hout, hle⟩
    rw [hout, java.policy.judge_of_le (hle p hp time htime)]
    exact nofun
  rw [hjudged s'.disk time ((hsettled.kept p hp).trans htime), if_neg]
  by_cases hwritten : r.context.output.join ⟨name⟩ ∈ (r.process changes s).1.written
  · exact hlate (hsettled.late _ hwritten)
  · rcases hsettled.others p hp name hname hwritten with hkept | hother
    · rw [hkept]
      intro hstale
      refine hwritten (classFile_mem_written hjava hsources htimes hcompiler hsuccess hp ?_ hname)
      rw [hjudged s.disk time htime, if_pos hstale]
    · exact hlate hother

/-- A recompilation of sources for which all verdicts are `fresh` does nothing but say so. -/
theorem process_of_fresh (hcanonical : ∀ q ∈ changedFiles changes, q.Canonical)
    (hfresh : ∀ q ∈ changedFiles changes, r.verdict s.disk q = .fresh) :
    (∀ q ∈ changedFiles changes, (r.process changes s).1.state q = .fresh) ∧
      (r.process changes s).1.evaluation.stale = .empty ∧ (r.process changes s).1.runs = [] ∧
      (r.process changes s).2 = s := by
  have h := r.evaluate_reflects s.disk hcanonical
  have hstale : (r.evaluate s.disk changes).stale = .empty := by
    refine SortedMap.ext_mem fun batch => ⟨fun hbatch => ?_, fun hbatch => by cases hbatch⟩
    obtain ⟨q, hq⟩ := h.occupied batch hbatch
    obtain ⟨hseen, hverdict⟩ := (h.mem_batch_iff hbatch).1 hq
    rw [hfresh q hseen] at hverdict
    cases hverdict
  rw [process_eq, hstale]
  refine ⟨fun q hq => ?_, rfl, rfl, rfl⟩
  have hentry : (q, FileState.fresh) ∈ (r.evaluate s.disk changes).states.entries :=
    (h.states q .fresh).2 ⟨hq, by rw [hfresh q hq]; rfl⟩
  rw [RecompileReport.state, SortedMap.find?_eq_some_iff.2 ⟨q, hentry, Std.ReflOrd.compare_self⟩]
  rfl

/-- The development loop converges: let sources below the source roots change, and let the Java provider,
    under either policy, have a compiler that mirrors them. If a recompilation of the changes has no
    failures, then a second one on the disk that it has settled to finds every source fresh, compiles
    nothing, and leaves the session, with the calls of compilers in it, as it is. -/
theorem process_converges
    (hjava : r.registry.find? ClassName.sourceSuffix = some java.toProvider)
    (hsources : ∀ q ∈ changedFiles changes, IsSource r.sourceRoots q)
    (htimes : ∀ q ∈ changedFiles changes, ∃ time, s.disk.modifiedMillis q = .ok time)
    (hcompiler : java.compiler.Mirrors r.sourceRoots (changedFiles changes))
    (hsuccess : (r.process changes s).1.isSuccess = true)
    (hsettled : Settled s.disk s'.disk r.sourceRoots r.context.output (changedFiles changes)
      (r.process changes s).1.written) :
    (∀ q ∈ changedFiles changes, (r.process changes s').1.state q = .fresh) ∧
      (r.process changes s').1.evaluation.stale = .empty ∧ (r.process changes s').1.runs = [] ∧
      (r.process changes s').2 = s' :=
  process_of_fresh (fun q hq => (hsources q hq).canonical) fun _ hq =>
    verdict_of_settled hjava hsources htimes hcompiler hsuccess hsettled hq

/-! ## A run -/

/-- The name of the class file of a staged source below `/p/src/gen`, or else `/p/src`. -/
def mirrored (name : String) : String :=
  let relative := (Text.after? "p/src/gen/" name).getD (Text.dropOnce "p/src/" name)
  (Text.before? ClassName.sourceSuffix relative).getD relative ++ ClassName.classSuffix

/-- A compiler that writes an empty class file for every source. -/
def mirror : JavaProvider where
  compiler :=
    { name := "mirror"
      compile := fun names _ _ =>
        pure (.success (.ofList (names.map fun name => (mirrored name, .empty))) []) }
  policy := .assumeFresh

/-- A recompiler for sources in a directory and one within it. -/
def mirrorRecompiler : IncrementalRecompiler where
  registry := ⟨SortedMap.empty.insert ".java" mirror.toProvider⟩
  sourceRoots := ["/p/src", "/p/src/gen"]
  context := .make "/p/classes" []

/-- A source without class file, and one with a class file that is younger. -/
def halfBuilt : Session := .start
  { entries := [(["p"], .directory 0), (["p", "src"], .directory 0),
      (["p", "src", "A.java"], .file ⟨.empty, 5000000, false⟩), (["p", "src", "gen"], .directory 0),
      (["p", "src", "gen", "B.java"], .file ⟨.empty, 3000000, false⟩), (["p", "classes"], .directory 0),
      (["p", "classes", "B.class"], .file ⟨.empty, 4000000, false⟩)]
    workingDirectory := []
    now := 7000000 }

/-- Both sources change. -/
def bothSources : List FileChange :=
  [⟨"/p/src/A.java", .modified⟩, ⟨"/p/src/gen/B.java", .created⟩]

theorem isSource_bothSources :
    ∀ p ∈ changedFiles bothSources, IsSource mirrorRecompiler.sourceRoots p := by
  intro p hp
  have hp : p = ⟨"/p/src/A.java"⟩ ∨ p = ⟨"/p/src/gen/B.java"⟩ := by simpa [changedFiles, bothSources] using hp
  rcases hp with rfl | rfl
  all_goals exact ⟨by decide, by decide, by decide, by decide⟩

theorem classNamed_bothSources {p : Path} (hp : p ∈ changedFiles bothSources) {name : String} :
    ClassNamed mirrorRecompiler.sourceRoots p name ↔ name = mirrored (JavaProvider.storeName p) := by
  have hnamed : ClassNamed mirrorRecompiler.sourceRoots p (mirrored (JavaProvider.storeName p)) := by
    have hp : p = ⟨"/p/src/A.java"⟩ ∨ p = ⟨"/p/src/gen/B.java"⟩ := by
      simpa [changedFiles, bothSources] using hp
    rcases hp with rfl | rfl
    · exact ⟨"/p/src", "A", ⟨by decide, by decide, by decide⟩,
        by decide, by decide⟩
    · exact ⟨"/p/src/gen", "B", ⟨by decide, by decide, by decide⟩,
        by decide, by decide⟩
  exact ⟨fun h => h.unique hnamed, fun h => h ▸ hnamed⟩

theorem mirrors_bothSources :
    mirror.compiler.Mirrors mirrorRecompiler.sourceRoots (changedFiles bothSources) := by
  intro files _ hfiles d names store hstage ctx w
  refine ⟨.ofList (names.map fun name => (mirrored name, .empty)), [], w, rfl, fun name => ?_⟩
  rw [JavaProvider.names_of_stage hstage, Store.mem_names_ofList]
  simp only [List.map_map, List.mem_map, Function.comp_apply]
  refine exists_congr fun p => and_congr_right fun hp => ?_
  rw [classNamed_bothSources (hfiles p hp), eq_comm]

theorem times_bothSources : ∀ p ∈ changedFiles bothSources,
    halfBuilt.disk.modifiedMillis p = .ok (if p = ⟨"/p/src/A.java"⟩ then 5 else 3) := by
  decide

/-- The session that the first recompilation leaves. -/
def builtSession : Session :=
  (mirrorRecompiler.process bothSources halfBuilt).2

theorem written_bothSources :
    (mirrorRecompiler.process bothSources halfBuilt).1.written =
      [⟨"/p/classes/A.class"⟩] := by
  decide +kernel

theorem settled_builtSession :
    Settled halfBuilt.disk builtSession.disk mirrorRecompiler.sourceRoots mirrorRecompiler.context.output
      (changedFiles bothSources)
      (mirrorRecompiler.process bothSources halfBuilt).1.written where
  kept := by decide +kernel
  late := by
    rw [written_bothSources]
    intro out hout
    rw [List.mem_singleton.1 hout]
    refine ⟨7, by decide +kernel, fun p hp time htime => ?_⟩
    rw [times_bothSources p hp] at htime
    cases htime
    split <;> decide
  others := by
    rw [written_bothSources]
    intro p hp name hname hunwritten
    have hkept : ∀ p ∈ changedFiles bothSources,
        mirrorRecompiler.context.output.join ⟨mirrored (JavaProvider.storeName p)⟩ ∉
            [⟨"/p/classes/A.class"⟩] →
          builtSession.disk.modifiedMillis
              (mirrorRecompiler.context.output.join ⟨mirrored (JavaProvider.storeName p)⟩) =
            halfBuilt.disk.modifiedMillis
              (mirrorRecompiler.context.output.join ⟨mirrored (JavaProvider.storeName p)⟩) := by
      decide +kernel
    rw [(classNamed_bothSources hp).1 hname] at hunwritten ⊢
    exact .inl (hkept p hp hunwritten)

/-- Of the two sources, the first recompilation compiles one. Both are fresh in the second, which calls no
    compiler. -/
theorem process_converges_bothSources :
    (mirrorRecompiler.process bothSources halfBuilt).1.state "/p/src/A.java" = .stale ∧
    (∀ q ∈ changedFiles bothSources,
      (mirrorRecompiler.process bothSources builtSession).1.state q = .fresh) ∧
    (mirrorRecompiler.process bothSources builtSession).2 = builtSession := by
  have hjava : mirrorRecompiler.registry.find? ClassName.sourceSuffix = some mirror.toProvider := rfl
  have hsuccess :
      (mirrorRecompiler.process bothSources halfBuilt).1.isSuccess = true := by
    decide +kernel
  have hconverges := process_converges hjava isSource_bothSources
    (fun p hp => ⟨_, times_bothSources p hp⟩) mirrors_bothSources hsuccess settled_builtSession
  exact ⟨by decide +kernel, hconverges.1, hconverges.2.2.2⟩

end IncrementalRecompiler
end Buildwright
