-- SUMMARY: What the runs of providers come to, and which runs come to the same for related batches.
import Mathlib.Data.List.Forall2
import Buildwright.Dev.Recompiler
import Buildwright.Proofs.Disk.Spelling
import Buildwright.Proofs.WeakestPre

/-!
# The effect of providers

A provider is handed files and a context, and works in a session. Its effect is what others can tell of
that: the outcome, and the disk it leaves. A provider is determined if its effect depends on nothing else
in the session than the disk, and goes by components if other spellings of the files do not matter
either. Batches that are related, handed to providers that turn related files into related outcomes, give
runs that are related one by one.
-/
namespace Buildwright

variable {ε ε' α β : Type}

/-! ## Effects -/

namespace Session

/-- The outcome of a computation, and the disk that it leaves. -/
def effect (m : EStateM ε Session α) (s : Session) : Except ε α × Disk :=
  match m s with
  | .ok a s' => (.ok a, s'.disk)
  | .error e s' => (.error e, s'.disk)

/-- A computation whose effect depends on the disk only. -/
def ByDisk (m : EStateM ε Session α) : Prop :=
  ∀ s s' : Session, s.disk = s'.disk → effect m s = effect m s'

/-- A computation whose effect is an outcome ends well in a session with the disk of the effect. -/
theorem exists_run_of_effect {m : EStateM ε Session α} {s : Session} {a : α}
    (h : (effect m s).1.toOption = some a) : ∃ s', m s = .ok a s' ∧ s'.disk = (effect m s).2 := by
  unfold effect at h ⊢
  cases hm : m s with
  | error e s' => simp [hm, Except.toOption] at h
  | ok b s' =>
    obtain rfl : b = a := by simpa [hm, Except.toOption] using h
    exact ⟨s', rfl, rfl⟩

theorem effect_bind (m : EStateM ε Session α) (f : α → EStateM ε Session β) (s : Session) :
    effect (m >>= f) s =
      match m s with
      | .ok a s' => effect (f a) s'
      | .error e s' => (.error e, s'.disk) := by
  unfold effect
  show (match EStateM.bind m f s with | .ok a s' => _ | .error e s' => _) = _
  unfold EStateM.bind
  cases m s <;> rfl

theorem ByDisk.pure (a : α) : ByDisk (Pure.pure a : EStateM ε Session α) :=
  fun _ _ hdisk => congrArg (Prod.mk (Except.ok a)) hdisk

theorem ByDisk.throw (e : ε) : ByDisk (MonadExcept.throw e : EStateM ε Session α) :=
  fun _ _ hdisk => congrArg (Prod.mk (Except.error e)) hdisk

theorem ByDisk.bind {m : EStateM ε Session α} {f : α → EStateM ε Session β} (hm : ByDisk m)
    (hf : ∀ a, ByDisk (f a)) : ByDisk (m >>= f) := by
  intro s s' hdisk
  have heffect := hm s s' hdisk
  rw [effect_bind, effect_bind]
  unfold effect at heffect
  cases hs : m s <;> cases hs' : m s' <;> simp only [hs, hs', Prod.mk.injEq, reduceCtorEq, false_and] at heffect
  · obtain ⟨heq, hleft⟩ := heffect
    cases heq
    exact hf _ _ _ hleft
  · obtain ⟨heq, hleft⟩ := heffect
    cases heq
    exact congrArg (Prod.mk _) hleft

theorem ByDisk.wrapping {wrap : ε → ε'} {m : EStateM ε Session α} (hm : ByDisk m) :
    ByDisk (Session.wrapping wrap m) := by
  intro s s' hdisk
  have heffect := hm s s' hdisk
  unfold effect at heffect
  unfold effect Session.wrapping
  cases hs : m s <;> cases hs' : m s' <;> simp_all

theorem ByDisk.compile (c : Compiler) (names : List String) (sources : Store) (ctx : CompileContext) :
    ByDisk (Session.compile c names sources ctx) := by
  intro s s' hdisk
  unfold effect Session.compile
  rw [hdisk]
  cases c.compile names sources ctx ⟨s'.disk, []⟩ <;> rfl

theorem ByDisk.onDisk (wrap : IoError → ε') (m : DiskM α) : ByDisk (Session.onDisk wrap m) := by
  intro s s' hdisk
  unfold effect Session.onDisk
  rw [hdisk]
  cases m s'.disk <;> rfl

theorem effect_look_bind (wrap : ε → ε') (f : Disk → Except ε α) (g : α → EStateM ε' Session β)
    (s : Session) :
    effect (Session.look wrap f >>= g) s =
      match f s.disk with
      | .ok a => effect (g a) s
      | .error e => (.error (wrap e), s.disk) := by
  rw [effect_bind]
  unfold Session.look
  cases f s.disk <;> rfl

end Session

/-! ## Outcomes that show other spellings -/

/-- Lists of paths that compare equal one by one. -/
abbrev Path.Alike (ps qs : List Path) : Prop :=
  List.Forall₂ (fun p q => compare p q = .eq) ps qs

/-- The same failure, up to the spelling of the file that it is about. -/
inductive RecompileError.Alike : RecompileError → RecompileError → Prop where
  | same (e : RecompileError) : Alike e e
  | io {p q : Path} (h : compare p q = .eq) (cause : IoError) : Alike (.io p cause) (.io q cause)

/-- The same outcome, up to the spelling of files. -/
inductive OutcomeAlike :
    Except RecompileError ProviderOutput → Except RecompileError ProviderOutput → Prop where
  | ok {written written' : List Path} (h : Path.Alike written written') (warnings : List Diagnostic) :
      OutcomeAlike (.ok ⟨written, warnings⟩) (.ok ⟨written', warnings⟩)
  | error {e e' : RecompileError} (h : e.Alike e') : OutcomeAlike (.error e) (.error e')

theorem Path.Alike.refl (ps : List Path) : Path.Alike ps ps :=
  List.forall₂_same.2 fun _ _ => Std.ReflOrd.compare_self

theorem Path.Alike.symm {ps qs : List Path} (h : Path.Alike ps qs) : Path.Alike qs ps :=
  h.flip.imp fun _ _ => Std.OrientedCmp.eq_symm

theorem OutcomeAlike.refl (outcome : Except RecompileError ProviderOutput) :
    OutcomeAlike outcome outcome := by
  cases outcome with
  | ok o => exact .ok (Path.Alike.refl o.written) o.warnings
  | error e => exact .error (.same e)

/-! ## Providers -/

namespace CompilationProvider

/-- A provider whose compilations depend on the files, the context and the disk only, and which does not
    tell apart sources directories that compare equal. -/
structure Determined (p : CompilationProvider) : Prop where
  byDisk : ∀ files ctx, Session.ByDisk (p.compile files ctx)
  isStale_eq : ∀ (d : Disk) (file sources sources' classes : Path) (e : String) (time : Nat),
    compare sources sources' = .eq →
      p.isStale d file sources classes e time = p.isStale d file sources' classes e time

/-- A provider that does not tell apart spellings of a file: not in its verdict, if they are the same from
    the sources directory on, and not in its compilations, if they lead to the same entries. -/
structure GoesByComponents (p : CompilationProvider) : Prop where
  effect_alike : ∀ (files files' : SortedSet Path) (ctx : CompileContext) (s s' : Session),
    Path.Alike files.keys files'.keys → (∀ q ∈ files.keys, Disk.Direct q) →
      (∀ q ∈ files'.keys, Disk.Direct q) → s.disk = s'.disk →
        OutcomeAlike (Session.effect (p.compile files ctx) s).1
            (Session.effect (p.compile files' ctx) s').1 ∧
          (Session.effect (p.compile files ctx) s).2 = (Session.effect (p.compile files' ctx) s').2
  isStale_eq : ∀ (d : Disk) (file file' sources classes : Path) (e : String) (time : Nat),
    compare file file' = .eq → file.relativeTo? sources = file'.relativeTo? sources →
      p.isStale d file sources classes e time = p.isStale d file' sources classes e time

end CompilationProvider

/-! ## Related runs -/

/-- Two runs for one extension, with related files and related outcomes. -/
structure ProviderRun.Related (Files : SortedSet Path → SortedSet Path → Prop)
    (Outcomes : Except RecompileError ProviderOutput → Except RecompileError ProviderOutput → Prop)
    (run run' : ProviderRun) : Prop where
  extension : run.extension = run'.extension
  files : Files run.files run'.files
  outcome : Outcomes run.outcome run'.outcome

namespace IncrementalRecompiler

variable {r : IncrementalRecompiler}

/-- The run of a provider, and the disk it leaves, are told by its effect. -/
theorem runProvider_eq (e : String) (files : SortedSet Path) (s : Session) :
    (r.runProvider e files s).1 = (r.registry.find? e).map
        (fun p => ⟨e, files, (Session.effect (p.compile files r.context) s).1⟩) ∧
      (r.runProvider e files s).2.disk = ((r.registry.find? e).map fun p =>
        (Session.effect (p.compile files r.context) s).2).getD s.disk := by
  unfold runProvider Session.effect
  cases hfind : r.registry.find? e with
  | none => exact ⟨rfl, rfl⟩
  | some p => cases hcompile : p.compile files r.context s <;> simp [hcompile]

theorem runProviders_cons (e : String) (files : SortedSet Path)
    (rest : List (String × SortedSet Path)) (s : Session) :
    r.runProviders ((e, files) :: rest) s =
      ((r.runProvider e files s).1.toList ++ (r.runProviders rest (r.runProvider e files s).2).1,
        (r.runProviders rest (r.runProvider e files s).2).2) := rfl

/-- The source roots count for nothing once the stale files are known. -/
theorem runProviders_withRoots (roots : List Path) (batches : List (String × SortedSet Path)) :
    ({ r with sourceRoots := roots }).runProviders batches = r.runProviders batches := by
  induction batches with
  | nil => rfl
  | cons batch rest ih =>
    funext s
    rw [runProviders_cons, runProviders_cons, ih]
    rfl

section Related

variable {Files : SortedSet Path → SortedSet Path → Prop}
  {Outcomes : Except RecompileError ProviderOutput → Except RecompileError ProviderOutput → Prop}
  {batches batches' : List (String × SortedSet Path)} {s s' : Session}

/-- Related batches that are compiled on the same disk give related runs, and leave the same disk. The
    induction is on the batches, with the sessions arbitrary: they differ in the calls made so far. -/
theorem runProviders_related
    (hproviders : ∀ e p, r.registry.find? e = some p → ∀ files files' s s', Files files files' →
      s.disk = s'.disk →
        Outcomes (Session.effect (p.compile files r.context) s).1
            (Session.effect (p.compile files' r.context) s').1 ∧
          (Session.effect (p.compile files r.context) s).2 =
            (Session.effect (p.compile files' r.context) s').2)
    (hbatches : List.Forall₂ (fun b b' => b.1 = b'.1 ∧ Files b.2 b'.2) batches batches')
    (hdisk : s.disk = s'.disk) :
    List.Forall₂ (ProviderRun.Related Files Outcomes) (r.runProviders batches s).1
        (r.runProviders batches' s').1 ∧
      (r.runProviders batches s).2.disk = (r.runProviders batches' s').2.disk := by
  induction hbatches generalizing s s' with
  | nil => exact ⟨.nil, hdisk⟩
  | @cons batch batch' rest rest' hbatch _ ih =>
    obtain ⟨e, files⟩ := batch
    obtain ⟨e', files'⟩ := batch'
    obtain ⟨rfl, hfiles⟩ : e = e' ∧ Files files files' := hbatch
    obtain ⟨hrun, hleft⟩ := r.runProvider_eq e files s
    obtain ⟨hrun', hleft'⟩ := r.runProvider_eq e files' s'
    rw [runProviders_cons, runProviders_cons]
    cases hfind : r.registry.find? e with
    | none =>
      rw [hfind] at hrun hrun' hleft hleft'
      rw [hrun, hrun']
      exact ih (hleft.trans (hdisk.trans hleft'.symm))
    | some p =>
      rw [hfind] at hrun hrun' hleft hleft'
      obtain ⟨houtcome, hsame⟩ := hproviders e p hfind files files' s s' hfiles hdisk
      obtain ⟨hruns, hend⟩ := ih (hleft.trans (hsame.trans hleft'.symm))
      rw [hrun, hrun']
      exact ⟨.cons ⟨rfl, hfiles, houtcome⟩ hruns, hend⟩

end Related

/-- Providers that are determined run alike in sessions with the same disk. -/
theorem runProviders_determined
    (hproviders : ∀ e p, r.registry.find? e = some p → p.Determined)
    (batches : List (String × SortedSet Path)) {s s' : Session} (hdisk : s.disk = s'.disk) :
    (r.runProviders batches s).1 = (r.runProviders batches s').1 ∧
      (r.runProviders batches s).2.disk = (r.runProviders batches s').2.disk := by
  have heffects : ∀ e p, r.registry.find? e = some p → ∀ files files' s s', files = files' →
      s.disk = s'.disk →
        (Session.effect (p.compile files r.context) s).1 =
            (Session.effect (p.compile files' r.context) s').1 ∧
          (Session.effect (p.compile files r.context) s).2 =
            (Session.effect (p.compile files' r.context) s').2 := by
    rintro e p hfind files _ s s' rfl hdisk
    rw [(hproviders e p hfind).byDisk files r.context s s' hdisk]
    exact ⟨rfl, rfl⟩
  obtain ⟨hruns, hend⟩ :=
    runProviders_related heffects (List.forall₂_same.2 fun batch _ => ⟨rfl, rfl⟩) hdisk
  refine ⟨?_, hend⟩
  rw [← List.forall₂_eq_eq_eq]
  refine hruns.imp ?_
  rintro ⟨e, files, outcome⟩ ⟨e', files', outcome'⟩ ⟨hextension, hfiles, houtcome⟩
  cases hextension
  cases hfiles
  cases houtcome
  rfl

end IncrementalRecompiler

/-! ## Staleness policies -/

namespace StalenessPolicy

/-- A staleness policy goes by what a file is relative to its sources directory. -/
theorem isStale_congr (policy : StalenessPolicy) (d : Disk) {file file' sources sources' : Path}
    (classes : Path) (e : String) (time : Nat)
    (h : file.relativeTo? sources = file'.relativeTo? sources') :
    policy.isStale d file sources classes e time = policy.isStale d file' sources' classes e time := by
  unfold isStale check ClassName.outputFile?
  rw [h]

end StalenessPolicy

/-! ## The Java provider -/

namespace JavaProvider

variable {java : JavaProvider}

theorem isStale_toProvider : java.toProvider.isStale = java.policy.isStale := by
  unfold toProvider
  rfl

/-- What remains to be done once the sources are staged. -/
def compileStaged (java : JavaProvider) (staged : List String × Store) (ctx : CompileContext) :
    EStateM RecompileError Session ProviderOutput := do
  match ← Session.wrapping .compiler (Session.compile java.compiler staged.1 staged.2 ctx) with
  | .success target warnings =>
    Session.onDisk (.io ctx.output) (target.writeTo ctx.output)
    return ⟨target.names.map fun name => ctx.output.join ⟨name⟩, warnings⟩
  | .failure errors => throw (.compilation (CompilationOutcome.failure errors).summary)

theorem compile_of_isEmpty {files : SortedSet Path} (h : files.isEmpty = true) (ctx : CompileContext) :
    java.compile files ctx = pure ⟨[], []⟩ := by
  rw [compile, if_pos h]

theorem compile_eq {files : SortedSet Path} (h : files.isEmpty = false) (ctx : CompileContext) :
    java.compile files ctx = Session.look id (stage files.keys) >>= fun staged =>
      java.compileStaged staged (ctx.withClasspath [ctx.output]) := by
  rw [compile, if_neg (by simp [h])]
  rfl

/-- What the compiler says to staged sources, with the output directory in the class path. -/
def answer (java : JavaProvider) (staged : List String × Store) (ctx : CompileContext) (d : Disk) :
    EStateM.Result CompileError Workshop CompilationOutcome :=
  java.compiler.compile staged.1 staged.2 (ctx.withClasspath [ctx.output]) ⟨d, []⟩

/-- The session after the compiler has been called for staged sources. -/
def afterAnswer (java : JavaProvider) (staged : List String × Store) (ctx : CompileContext) (s : Session)
    (w : Workshop) : Session :=
  s.afterCall java.compiler staged.1 staged.2 (ctx.withClasspath [ctx.output]) w

section Compile

variable {files : SortedSet Path} {ctx : CompileContext} {s : Session}
  {Q : ProviderOutput → Session → Prop} {E : RecompileError → Session → Prop}

/-- A compilation fails if the sources cannot be staged, or the compiler makes no target. Otherwise it goes on
    to write the target. -/
theorem wp_compile (hfiles : files.isEmpty = false)
    (hunstaged : ∀ e, stage files.keys s.disk = .error e → E e s)
    (hfailed : ∀ staged e w, stage files.keys s.disk = .ok staged →
      java.answer staged ctx s.disk = .error e w → E (.compiler e) (java.afterAnswer staged ctx s w))
    (hrefused : ∀ staged errors w, stage files.keys s.disk = .ok staged →
      java.answer staged ctx s.disk = .ok (.failure errors) w →
      E (.compilation (CompilationOutcome.failure errors).summary) (java.afterAnswer staged ctx s w))
    (hmade : ∀ staged target warnings w, stage files.keys s.disk = .ok staged →
      java.answer staged ctx s.disk = .ok (.success target warnings) w →
      wp (target.writeTo ctx.output)
        (fun _ d' => Q ⟨target.names.map fun name => ctx.output.join ⟨name⟩, warnings⟩
          { java.afterAnswer staged ctx s w with disk := d' })
        (fun e d' => E (.io ctx.output e) { java.afterAnswer staged ctx s w with disk := d' }) w.disk) :
    wp (java.compile files ctx) Q E s := by
  rw [compile_eq hfiles]
  refine wp.bind (wp.look (fun staged hstaged => ?_) hunstaged)
  refine wp.bind (wp.wrapping (wp.compile (fun o w hanswer => ?_) fun e w => hfailed staged e w hstaged))
  cases o with
  | success target warnings =>
    refine wp.bind (wp.onSessionDisk ((hmade staged target warnings w hstaged hanswer).mono ?_ ?_))
    · exact fun _ _ h => wp.pure h
    · exact fun _ _ h => h
  | failure errors => exact wp.throw (hrefused staged errors w hstaged hanswer)

end Compile

theorem byDisk_compileStaged (staged : List String × Store) (ctx : CompileContext) :
    Session.ByDisk (java.compileStaged staged ctx) := by
  refine .bind (.wrapping (.compile _ _ _ _)) fun outcome => ?_
  cases outcome with
  | success target warnings => exact .bind (.onDisk _ _) fun _ => .pure _
  | failure errors => exact .throw _

/-- Sources that are spelled otherwise are staged alike. -/
theorem stage_alike {files files' : List Path} (h : Path.Alike files files')
    (hfiles : ∀ q ∈ files, Disk.Direct q) (hfiles' : ∀ q ∈ files', Disk.Direct q) (d : Disk) :
    (∃ staged, stage files d = .ok staged ∧ stage files' d = .ok staged) ∨
      ∃ e e', stage files d = .error e ∧ stage files' d = .error e' ∧ e.Alike e' := by
  unfold stage
  generalize (([], Store.empty) : List String × Store) = before
  induction h generalizing before with
  | nil => exact .inl ⟨before, rfl, rfl⟩
  | @cons p q ps qs hpq _ ih =>
    have hcomponents := Path.compare_eq_iff.1 hpq
    have hname : storeName p = storeName q := by rw [storeName, storeName, Path.names, Path.names, hcomponents]
    have hread : d.read p = d.read q := by
      rw [Disk.read, Disk.read, Disk.resolve_congr d (hfiles p List.mem_cons_self)
        (hfiles' q List.mem_cons_self) hcomponents]
    rw [List.foldlM_cons, List.foldlM_cons, stageFile, stageFile, hname, hread]
    cases d.read q with
    | ok content =>
      exact ih (fun p hp => hfiles p (List.mem_cons_of_mem _ hp))
        (fun q hq => hfiles' q (List.mem_cons_of_mem _ hq)) _
    | error e => exact .inr ⟨_, _, rfl, rfl, .io hpq e⟩

/-- The Java provider goes by components, whatever its compiler and its policy. -/
theorem goesByComponents (java : JavaProvider) : java.toProvider.GoesByComponents where
  isStale_eq d file file' sources classes e time _ h := by
    rw [isStale_toProvider]
    exact java.policy.isStale_congr d classes e time h
  effect_alike files files' ctx s s' halike hfiles hfiles' hdisk := by
    show OutcomeAlike (Session.effect (java.compile files ctx) s).1
        (Session.effect (java.compile files' ctx) s').1 ∧
      (Session.effect (java.compile files ctx) s).2 = (Session.effect (java.compile files' ctx) s').2
    have hempty : files.isEmpty = files'.isEmpty := by
      have hlength := halike.length_eq
      rw [SortedMap.keys, SortedMap.keys, List.length_map, List.length_map] at hlength
      rw [Bool.eq_iff_iff, SortedMap.isEmpty, SortedMap.isEmpty, List.isEmpty_iff_length_eq_zero,
        List.isEmpty_iff_length_eq_zero, hlength]
    cases hcase : files.isEmpty with
    | true =>
      rw [compile_of_isEmpty hcase, compile_of_isEmpty (hempty ▸ hcase), Session.ByDisk.pure _ s s' hdisk]
      exact ⟨.refl _, rfl⟩
    | false =>
      rw [compile_eq hcase, compile_eq (hempty ▸ hcase), Session.effect_look_bind,
        Session.effect_look_bind, hdisk]
      rcases stage_alike halike hfiles hfiles' s'.disk with ⟨staged, hs, hs'⟩ | ⟨e, e', hs, hs', he⟩
      · rw [hs, hs']
        simp only
        rw [byDisk_compileStaged staged _ s s' hdisk]
        exact ⟨.refl _, rfl⟩
      · rw [hs, hs']
        exact ⟨.error he, rfl⟩

/-- The Java provider is determined, whatever its compiler and its policy. -/
theorem determined (java : JavaProvider) : java.toProvider.Determined where
  isStale_eq d file sources sources' classes e time h := by
    rw [isStale_toProvider]
    exact java.policy.isStale_congr d classes e time (Path.relativeTo?_congr (Path.compare_eq_iff.1 h))
  byDisk files ctx := by
    intro s s' hdisk
    show Session.effect (java.compile files ctx) s = Session.effect (java.compile files ctx) s'
    cases hcase : files.isEmpty with
    | true => rw [compile_of_isEmpty hcase, Session.ByDisk.pure _ s s' hdisk]
    | false =>
      rw [compile_eq hcase, Session.effect_look_bind, Session.effect_look_bind, hdisk]
      cases stage files.keys s'.disk with
      | ok staged => exact byDisk_compileStaged staged _ s s' hdisk
      | error e => rfl

end JavaProvider

/-! ## Code generation providers -/

namespace CodegenProvider

variable {codegen : CodegenProvider}

theorem isStale_toProvider : codegen.toProvider.isStale = codegen.policy.isStale := by
  unfold toProvider
  rfl

/-- What remains to be done once the files are generated. -/
def compileGenerated (codegen : CodegenProvider) (generated : List GeneratedFile)
    (ctx : CompileContext) : EStateM RecompileError Session ProviderOutput := do
  let sources ← generated.foldlM (writeGenerated ctx.output) .empty
  codegen.java.compile sources ctx

/-- What a code generation provider knows of the project. -/
def generationContext (codegen : CodegenProvider) (ctx : CompileContext) : GenerationContext :=
  ⟨codegen.projectRoot.getD ctx.output, codegen.appPackage, true⟩

theorem compile_eq (files : SortedSet Path) (ctx : CompileContext) :
    codegen.compile files ctx =
      Session.look .generation (codegen.transform (codegen.generationContext ctx) files.keys) >>=
        fun generated => codegen.compileGenerated generated ctx := rfl

theorem byDisk_compileGenerated (generated : List GeneratedFile) (ctx : CompileContext) :
    Session.ByDisk (codegen.compileGenerated generated ctx) := by
  refine .bind ?_ fun sources => codegen.java.determined.byDisk sources ctx
  generalize (SortedMap.empty : SortedSet Path) = sources
  induction generated generalizing sources with
  | nil => exact .pure sources
  | cons f rest ih =>
    rw [List.foldlM_cons]
    exact .bind (.bind (.onDisk _ _) fun _ => .pure _) ih

/-- A code generation provider goes by components, if its transform does. -/
theorem goesByComponents (htransform : ∀ ctx d files files', Path.Alike files files' →
      codegen.transform ctx files d = codegen.transform ctx files' d) :
    codegen.toProvider.GoesByComponents where
  isStale_eq d file file' sources classes e time _ h := by
    rw [isStale_toProvider]
    exact codegen.policy.isStale_congr d classes e time h
  effect_alike files files' ctx s s' halike _ _ hdisk := by
    show OutcomeAlike (Session.effect (codegen.compile files ctx) s).1
        (Session.effect (codegen.compile files' ctx) s').1 ∧
      (Session.effect (codegen.compile files ctx) s).2 = (Session.effect (codegen.compile files' ctx) s').2
    rw [compile_eq, compile_eq, Session.effect_look_bind, Session.effect_look_bind, hdisk,
      htransform _ _ _ _ halike]
    cases codegen.transform (codegen.generationContext ctx) files'.keys s'.disk with
    | ok generated =>
      simp only [byDisk_compileGenerated generated ctx s s' hdisk]
      exact ⟨.refl _, trivial⟩
    | error e => exact ⟨.refl _, rfl⟩

/-- A code generation provider is determined, whatever its transform. -/
theorem determined (codegen : CodegenProvider) : codegen.toProvider.Determined where
  isStale_eq d file sources sources' classes e time h := by
    rw [isStale_toProvider]
    exact codegen.policy.isStale_congr d classes e time (Path.relativeTo?_congr (Path.compare_eq_iff.1 h))
  byDisk files ctx := by
    intro s s' hdisk
    show Session.effect (codegen.compile files ctx) s = Session.effect (codegen.compile files ctx) s'
    rw [compile_eq, Session.effect_look_bind, Session.effect_look_bind, hdisk]
    cases codegen.transform (codegen.generationContext ctx) files.keys s'.disk with
    | ok generated => exact byDisk_compileGenerated generated ctx s s' hdisk
    | error e => rfl

end CodegenProvider
end Buildwright
