-- SUMMARY: A build on the command line tells the truth about the classes directory: by its exit code, by the class files there, and by what it leaves alone.
import Buildwright.Cli.Program
import Buildwright.Proofs.Build.Traces

/-!
# The truth about the classes directory

A build on the command line ends in one of few ways: without a pipeline, with the errors of the compiler, with
another failure, or with all class files or some of them written. The exit code tells them apart. With the
traces that a run of the pipeline leaves on the disk, each of the ways says what is in the classes directory
afterwards.
-/
namespace Buildwright.Cli

open Manifest

variable {around : Surroundings} {c : Config} {classes : Path} {d : Disk} {p p' : BuildPipeline}
  {t : Terminal} {α ε : Type}

/-- The terminal at which a command starts. -/
def Terminal.start (d : Disk) : Terminal := ⟨.start d, "", ""⟩

/-! ## Rules for commands -/

section Rules

variable {Q : α → Terminal → Prop} {E : Complaint → Terminal → Prop}

theorem wp_disk {Q : Disk → Terminal → Prop} (h : Q t.session.disk t) : wp CommandM.disk Q E t :=
  wp.bind (wp.run_ok rfl (wp.pure h))

theorem wp_orFail {context : String} {causes : ε → Complaint} {r : Except ε α}
    (hok : ∀ a, r = .ok a → Q a t)
    (herror : ∀ e, r = .error e → E (context :: causes e) t) : wp (CommandM.orFail context causes r) Q E t := by
  cases r with
  | ok a => exact wp.pure (hok a rfl)
  | error e => exact wp.throw (herror e rfl)

theorem wp_inSession {m : EStateM ε Session α} {Q : Except ε α → Terminal → Prop}
    (hok : ∀ a s, m t.session = .ok a s → Q (.ok a) { t with session := s })
    (herror : ∀ e s, m t.session = .error e s → Q (.error e) { t with session := s }) :
    wp (CommandM.inSession m) Q E t := by
  cases hm : m t.session with
  | ok a s =>
    have hrun : CommandM.inSession m t = .ok (.ok a) { t with session := s } := by
      rw [CommandM.inSession, hm]
    exact wp.run_ok hrun (hok a s hm)
  | error e s =>
    have hrun : CommandM.inSession m t = .ok (.error e) { t with session := s } := by
      rw [CommandM.inSession, hm]
    exact wp.run_ok hrun (herror e s hm)

/-- What is written to the streams changes nothing in the session. -/
theorem wp_complain {Q : Unit → Terminal → Prop} (line : String)
    (h : ∀ t', t'.session = t.session → Q () t') : wp (CommandM.complain line) Q E t :=
  wp.run_ok rfl (h _ rfl)

theorem wp_print {Q : Unit → Terminal → Prop} (line : String)
    (h : ∀ t', t'.session = t.session → Q () t') : wp (CommandM.print line) Q E t :=
  wp.run_ok rfl (h _ rfl)

theorem wp_publishTo (classes : Path) {Q : Manifest → Terminal → Prop}
    (h : ∀ t', t'.session.disk = (publishAll classes t.session.published t.session.disk).2 →
      Q (publishAll classes t.session.published t.session.disk).1 t') : wp (publishTo classes) Q E t :=
  wp.run_ok rfl (h _ rfl)

theorem wp_forM_lines {write : String → CommandM Unit}
    (hwrite : ∀ line t, wp (write line) (fun _ t' => t'.session = t.session) E t) (lines : List String)
    {Q : Unit → Terminal → Prop} (h : ∀ t', t'.session = t.session → Q () t') :
    wp (lines.forM write) Q E t := by
  have hkeeps : wp (lines.forM write) (fun _ t' => t'.session = t.session) E t := by
    refine wp.forM_keeps (fun line _ t' ht' => ?_) rfl
    exact (hwrite line t').mono (fun _ _ ht'' => ht''.trans ht') fun _ _ he => he
  exact hkeeps.mono (fun _ => h) fun _ _ he => he

theorem wp_printReport (r : BuildReport) (m : Manifest) (json : Bool) {Q : Unit → Terminal → Prop}
    (h : ∀ t', t'.session = t.session → Q () t') : wp (printReport r m json) Q E t := by
  unfold printReport
  split
  · exact wp_print _ h
  · exact wp_forM_lines (fun line t => wp_print line fun _ ht' => ht') _ h

end Rules

/-! ## The pipeline of a project -/

/-- The configuration of a project describes a pipeline, on a disk where its bootstrap source, if it has any,
    can be read. -/
def PipelineOf (around : Surroundings) (c : Config) (classes : Path) (d : Disk) (p : BuildPipeline) : Prop :=
  pipeline around c (Project.rootOf classes) (.start d) = .ok p (.start d)

theorem PipelineOf.unique (h : PipelineOf around c classes d p) (h' : PipelineOf around c classes d p') :
    p = p' := by
  unfold PipelineOf at h h'
  rw [h] at h'
  cases h'
  rfl

/-- Where the copies for debugging go in a project. -/
def copiesOf (c : Config) (classes : Path) : Option Path :=
  c.build.debugDirectory.map (Project.resolve (Project.rootOf classes))

/-- Describing a pipeline only looks at the disk. The pipeline passes assets on and compiles with the command
    of the project. -/
theorem wp_pipeline (around : Surroundings) (c : Config) (classes : Path) (t : Terminal) :
    wp (pipeline around c (Project.rootOf classes))
      (fun p t' => t' = t ∧ p.pool.PassesOn ∧ p.compiler = javaCompiler around c ∧
        p.debugDump.directory = copiesOf c classes)
      (fun _ t' => t' = t) t := by
  have hbootstrap : wp (bootstrap c (Project.rootOf classes)) (fun _ t' => t' = t) (fun _ t' => t' = t) t := by
    unfold bootstrap
    split
    · exact wp.pure rfl
    · exact wp.bind (wp_disk (wp.bind (wp_orFail (fun _ _ => wp.pure rfl) fun _ _ => rfl)))
  refine wp.bind (hbootstrap.mono ?_ fun _ _ ht' => ht')
  rintro b _ rfl
  refine wp.pure ⟨rfl, fun g hg => ?_, rfl, rfl⟩
  obtain ⟨g, -, rfl⟩ := List.mem_map.1 hg
  exact ⟨g.name, g.extension, g.root, g.kind, rfl⟩

theorem PipelineOf.copies (h : PipelineOf around c classes d p) :
    p.debugDump.directory = copiesOf c classes :=
  ((wp_pipeline around c classes (.start d)).of_ok h).2.2.2

theorem PipelineOf.tidy (h : PipelineOf around c classes d p) (hrunner : around.runner.WritesOutput) :
    p.Tidy := by
  obtain ⟨-, hpool, hcompiler, -⟩ := (wp_pipeline around c classes (.start d)).of_ok h
  exact ⟨hpool, _, hrunner, hcompiler⟩

/-! ## The ways in which a build ends -/

/-- How a build of a project with a configuration ends, with an exit code and a disk. -/
inductive BuildEnds (around : Surroundings) (c : Config) (classes : Path) (d : Disk) : Nat → Disk → Prop where
  | noPipeline (hnone : ∀ p, ¬ PipelineOf around c classes d p) : BuildEnds around c classes d failureCode d
  | errors {p : BuildPipeline} {summary : String} {s : Session} (hp : PipelineOf around c classes d p)
      (hrun : p.run classes (.start d) = .error (.compilation summary) s) :
      BuildEnds around c classes d 1 s.disk
  | failed {p : BuildPipeline} {e : BuildError} {s : Session} (hp : PipelineOf around c classes d p)
      (hrun : p.run classes (.start d) = .error e s) (hother : ∀ summary, e ≠ .compilation summary) :
      BuildEnds around c classes d failureCode s.disk
  | written {p : BuildPipeline} {report : BuildReport} {s : Session} {d' : Disk}
      (hp : PipelineOf around c classes d p) (hrun : p.run classes (.start d) = .ok report s)
      (hwrites : writeClassFiles classes s.published s.disk = .ok () d') :
      BuildEnds around c classes d 0 d'
  | unwritten {p : BuildPipeline} {report : BuildReport} {s : Session}
      (hp : PipelineOf around c classes d p) (hrun : p.run classes (.start d) = .ok report s)
      (hwrites : ∀ d', writeClassFiles classes s.published s.disk ≠ .ok () d') :
      BuildEnds around c classes d failureCode (publishAll classes s.published s.disk).2

/-- Behind a pipeline that has ended well, the exit code says whether all class files could be written. -/
theorem wp_published (json : Bool) {report : BuildReport} {s : Session}
    (hp : PipelineOf around c classes d p) (hrun : p.run classes (.start d) = .ok report s)
    (hsession : t.session = s) :
    wp (do
        let m ← publishTo classes
        m.errors.forM CommandM.complain
        printReport report m json
        return if m.errors.isEmpty then 0 else 2)
      (fun code t' => BuildEnds around c classes d code t'.session.disk) (fun _ _ => False) t := by
  subst hsession
  refine wp.bind (wp_publishTo classes fun t₁ ht₁ => ?_)
  have hends := errors_publishAll_eq_nil_iff classes t.session.published t.session.disk
  generalize hafter : publishAll classes t.session.published t.session.disk = after at ht₁ hends ⊢
  refine wp.bind (wp_forM_lines (fun line t => wp_complain line fun _ ht' => ht') _ fun t₂ ht₂ => ?_)
  refine wp.bind (wp_printReport _ _ _ fun t₃ ht₃ => wp.pure ?_)
  rw [ht₃, ht₂, ht₁]
  by_cases hnil : after.1.errors = []
  · rw [hnil]
    exact .written hp hrun (hends.1 hnil)
  · rw [if_neg (by simpa using hnil), ← hafter]
    refine .unwritten hp hrun fun d' hd' => hnil (hends.2 ?_)
    have hwrites := (wp_writeClassFiles classes ({}, t.session.disk) t.session.published).of_ok hd'
    rw [hd', ← hafter]
    exact congrArg (EStateM.Result.ok ()) hwrites.1.symm

theorem wp_build (json : Bool) {found : Option Path}
    (hconfig : Config.loadForProject around.environment d (Project.rootOf classes) = .ok (c, found)) :
    wp (build around classes json) (fun code t => BuildEnds around c classes d code t.session.disk)
      (fun _ t => BuildEnds around c classes d failureCode t.session.disk) (.start d) := by
  have hload : wp (loadConfig around.environment (Project.rootOf classes))
      (fun c' t => c = c' ∧ t = .start d) (fun _ _ => False) (.start d) := by
    refine wp.bind (wp_disk (wp.bind (wp_orFail (fun a ha => ?_) fun e he => ?_)))
    · have hsame : (c, found) = a := Except.ok.inj (hconfig.symm.trans ha)
      rw [← hsame]
      exact wp.pure ⟨rfl, rfl⟩
    · cases hconfig.symm.trans he
  refine wp.bind (hload.mono ?_ fun _ _ hnever => hnever.elim)
  rintro _ _ ⟨rfl, rfl⟩
  have hdescribes := wp_pipeline around c classes (.start d)
  cases hpipeline : pipeline around c (Project.rootOf classes) (.start d) with
  | error e t =>
    obtain rfl := hdescribes.of_error hpipeline
    refine wp.bind (wp.run_error hpipeline (.noPipeline fun p hp => ?_))
    cases hpipeline.symm.trans hp
  | ok p t =>
    obtain ⟨rfl, -⟩ := hdescribes.of_ok hpipeline
    refine wp.bind (wp.run_ok hpipeline (wp.bind (wp_inSession (fun report s hrun => ?_) fun e s hrun => ?_)))
    · exact (wp_published json hpipeline hrun rfl).mono (fun _ _ hends => hends) fun _ _ hnever => hnever.elim
    · cases e with
      | compilation summary =>
        refine wp.bind (wp_complain summary fun t ht => wp.pure ?_)
        rw [ht]
        exact .errors hpipeline hrun
      | generation e => exact wp.throw (.failed hpipeline hrun (by simp))
      | emptyOutput sources => exact wp.throw (.failed hpipeline hrun (by simp))
      | compiler e => exact wp.throw (.failed hpipeline hrun (by simp))

/-- A build that has been asked for ends in one of these ways. -/
theorem buildEnds_run {arguments : List String} {json : Bool} {found : Option Path}
    (harguments : request arguments = .ok (.build classes json))
    (hconfig : Config.loadForProject around.environment d (Project.rootOf classes) = .ok (c, found))
    (moves : List Move) :
    BuildEnds around c classes d (run around arguments moves d).exitCode
      (run around arguments moves d).disk := by
  have hbuild := wp_build json hconfig
  have hperform : perform around moves (.build classes json) = build around classes json := rfl
  unfold run
  rw [harguments]
  cases hrun : build around classes json (.start d) with
  | ok code t =>
    have hends := hbuild.of_ok hrun
    simp only [hperform]
    unfold Terminal.start at hrun
    simp only [hrun]
    exact hends
  | error e t =>
    have hends := hbuild.of_error hrun
    simp only [hperform]
    unfold Terminal.start at hrun
    simp only [hrun]
    exact hends

/-! ## What is true of the classes directory -/

/-- The pipeline of a project ends well, in a session. -/
def Returns (around : Surroundings) (c : Config) (classes : Path) (d : Disk) (s : Session) : Prop :=
  ∃ p report, PipelineOf around c classes d p ∧ p.run classes (.start d) = .ok report s

/-- The pipeline of a project fails with the errors that its compiler finds. -/
def FindsErrors (around : Surroundings) (c : Config) (classes : Path) (d : Disk) : Prop :=
  ∃ p summary s, PipelineOf around c classes d p ∧
    p.run classes (.start d) = .error (.compilation summary) s

/-- What the compiler of a project makes of the batch that the generators of the project produce. -/
def TargetOf (around : Surroundings) (c : Config) (classes : Path) (d : Disk) (target : Store) : Prop :=
  ∃ p b, PipelineOf around c classes d p ∧ p.pool.generate (p.projectContext classes) d = .ok b ∧
    p.Output classes b (.start d) target

/-- A directory lies outside of another: no path below the directory leads to where the other does, or to
    anything below. -/
def Outside (d : Disk) (directory other : Path) : Prop :=
  ∀ top place, d.LeadsTo other top → top <+: place → DebugDump.OutOfReach d directory place

/-- What a build leaves behind tells the truth about the classes directory. -/
structure Truthful (around : Surroundings) (c : Config) (classes : Path) (d : Disk) (o : Outcome) : Prop where
  /-- The exit code is 0 exactly if the pipeline ends well and every class that it publishes is written. -/
  zero_iff : o.exitCode = 0 ↔ ∃ s d', Returns around c classes d s ∧
    writeClassFiles classes s.published s.disk = .ok () d'
  /-- It is 1 exactly if the pipeline fails with errors that the compiler finds. -/
  one_iff : o.exitCode = 1 ↔ FindsErrors around c classes d
  /-- Otherwise it is 2. -/
  two_otherwise : o.exitCode ≠ 0 → o.exitCode ≠ 1 → o.exitCode = 2
  /-- With exit code 0, the compiler has made a target. -/
  compiled : o.exitCode = 0 → ∃ target, TargetOf around c classes d target
  /-- Every class file in this target can be read at the same path below the classes directory. -/
  classFiles : o.exitCode = 0 → o.disk.NoLinksBelow classes →
    ∀ target, TargetOf around c classes d target → target.PlainStems →
      ∀ stem content, (stem ++ ClassName.classSuffix, content) ∈ target.entries →
        o.disk.read (classes.join ⟨stem ++ ClassName.classSuffix⟩) = .ok content
  /-- If the pipeline does not end well, the files below the classes directory are those that were there
      before. -/
  untouched : (∀ s, ¬ Returns around c classes d s) →
    (∀ copies, copiesOf c classes = some copies → Outside o.disk copies classes) →
      ∀ top place, o.disk.LeadsTo classes top → top <+: place → d.FilesAgree o.disk place

theorem TargetOf.eq_of_output {target target' : Store} {b : Batch} (h : TargetOf around c classes d target)
    (hp : PipelineOf around c classes d p) (hb : p.pool.generate (p.projectContext classes) d = .ok b)
    (houtput : p.Output classes b (.start d) target') : target' = target := by
  obtain ⟨p', b', hp', hb', houtput'⟩ := h
  obtain rfl := hp.unique hp'
  obtain rfl := Except.ok.inj (hb.symm.trans hb')
  unfold BuildPipeline.Output at houtput houtput'
  split at houtput
  · next hnone =>
    rw [if_pos hnone] at houtput'
    rw [houtput, houtput']
  · next hsome =>
    rw [if_neg hsome] at houtput'
    obtain ⟨warnings, w, hanswer⟩ := houtput
    obtain ⟨warnings', w', hanswer'⟩ := houtput'
    rw [hanswer] at hanswer'
    cases hanswer'
    rfl

section Truth

variable {s : Session} {d' : Disk} {target : Store} (hrunner : around.runner.WritesOutput)
  (hformed : d.WellFormed) (hrooted : d.Rooted)

include hrunner hformed hrooted in
/-- The class files of a target that are written can be read where they were. -/
theorem read_of_written {report : BuildReport} (hp : PipelineOf around c classes d p)
    (hrun : p.run classes (.start d) = .ok report s)
    (hwrites : writeClassFiles classes s.published s.disk = .ok () d') (hlinks : d'.NoLinksBelow classes)
    (htarget : TargetOf around c classes d target) (hstems : target.PlainStems) :
    ∀ e ∈ target.classFiles, d'.read (classes.join ⟨e.1⟩) = .ok e.2 := by
  obtain ⟨hcopies, b, target', hb, houtput, hrelative, hpublished⟩ :=
    ((hp.tidy hrunner).wp_run hformed hrooted).of_ok hrun
  obtain rfl := htarget.eq_of_output hp hb houtput
  have hfiles : Manifest.classFiles s.published = target'.classFiles := by
    rw [Manifest.classFiles, hpublished]
    exact Registration.classFiles_compiledClasses hstems
  have hplain : ∀ e ∈ target'.classFiles, Disk.PlainPath e.1 := by
    intro e he
    obtain ⟨hentry, stem, hstem⟩ := Store.mem_classFiles.1 he
    have hname : e.1 ∈ target'.names := List.mem_map_of_mem hentry
    rw [hstem] at hname ⊢
    exact hrelative.plainPath hname (hstems stem hname).1
  have hnodup : (target'.classFiles.map (·.1)).Nodup :=
    target'.files.keys_nodup.sublist (List.filter_sublist.map _)
  rw [writeClassFiles, hfiles] at hwrites
  exact (hcopies.grows.rooted.wp_writeAll_below classes hplain hnodup).of_ok hwrites hlinks

include hrunner hformed hrooted in
/-- A pipeline that fails changes no file below the classes directory, if copies go elsewhere. -/
theorem filesAgree_of_failure {e : BuildError} (hp : PipelineOf around c classes d p)
    (hrun : p.run classes (.start d) = .error e s)
    (houtside : ∀ copies, copiesOf c classes = some copies → Outside s.disk copies classes)
    {top place : Location} (htop : s.disk.LeadsTo classes top) (hbelow : top <+: place) :
    d.FilesAgree s.disk place := by
  have hcopies := ((hp.tidy hrunner).wp_run hformed hrooted).of_error hrun
  refine hcopies.filesAgree place fun directory hdirectory => ?_
  rw [hp.copies] at hdirectory
  exact houtside directory hdirectory top place htop hbelow

end Truth

/-! ### What the ways have in common -/

namespace BuildEnds

variable {code : Nat} {after : Disk} (h : BuildEnds around c classes d code after)

include h in
theorem code_of_ok {report : BuildReport} {s : Session} (hp : PipelineOf around c classes d p)
    (hrun : p.run classes (.start d) = .ok report s) :
    code = 0 ∨ code = failureCode ∧ ∀ d', writeClassFiles classes s.published s.disk ≠ .ok () d' := by
  cases h with
  | noPipeline hnone => exact absurd hp (hnone p)
  | errors hp' hrun' | failed hp' hrun' =>
    obtain rfl := hp.unique hp'
    cases hrun.symm.trans hrun'
  | written => exact .inl rfl
  | unwritten hp' hrun' hnever =>
    obtain rfl := hp.unique hp'
    cases hrun.symm.trans hrun'
    exact .inr ⟨rfl, hnever⟩

include h in
theorem code_of_errors {summary : String} {s : Session} (hp : PipelineOf around c classes d p)
    (hrun : p.run classes (.start d) = .error (.compilation summary) s) : code = 1 := by
  cases h with
  | noPipeline hnone => exact absurd hp (hnone p)
  | errors => rfl
  | failed hp' hrun' hother =>
    obtain rfl := hp.unique hp'
    cases hrun.symm.trans hrun'
    exact absurd rfl (hother summary)
  | written hp' hrun' | unwritten hp' hrun' =>
    obtain rfl := hp.unique hp'
    cases hrun.symm.trans hrun'

include h in
theorem zero_iff : code = 0 ↔ ∃ s d', Returns around c classes d s ∧
    writeClassFiles classes s.published s.disk = .ok () d' := by
  constructor
  · rintro rfl
    cases h with
    | written hp hrun hwrites => exact ⟨_, _, ⟨_, _, hp, hrun⟩, hwrites⟩
  · rintro ⟨s, d', ⟨p, report, hp, hrun⟩, hwrites⟩
    exact (h.code_of_ok hp hrun).resolve_right fun hfails => hfails.2 d' hwrites

include h in
theorem one_iff : code = 1 ↔ FindsErrors around c classes d := by
  constructor
  · rintro rfl
    cases h with
    | errors hp hrun => exact ⟨_, _, _, hp, hrun⟩
  · rintro ⟨p, summary, s, hp, hrun⟩
    exact h.code_of_errors hp hrun

include h in
theorem code_mem : code ∈ [0, 1, failureCode] := by
  cases h <;> decide

end BuildEnds

/-- Puts one class file into a directory. -/
def putClassFile (d : Disk) (top : Location) : Disk :=
  d.addIn top "B.class" (.file ⟨Text.encode "B", d.now, false⟩)

/-- A command that writes one class file into its output directory. -/
def classWriter : CommandRunner := fun _ _ arguments d =>
  match arguments with
  | "-d" :: output :: _ =>
    match d.resolve ⟨output⟩ with
    | .ok (top, _) => .ok ⟨some 0, "", ""⟩ (putClassFile d top)
    | .error e => .error e d
  | _ => .ok ⟨some 2, "", "no output directory"⟩ d

theorem classWriter_writesOutput : classWriter.WritesOutput := by
  intro directory program output rest d top _ hleads _
  cases hresolve : d.resolve ⟨output⟩ with
  | error e =>
    have hrun : classWriter directory program ("-d" :: output :: rest) d = .error e d := by
      simp only [classWriter, hresolve]
    exact wp.run_error hrun (.refl d top)
  | ok result =>
    obtain ⟨place, entry⟩ := result
    obtain rfl := (Disk.leadsTo_of_resolve hresolve).unique hleads
    have hrun : classWriter directory program ("-d" :: output :: rest) d =
        .ok ⟨some 0, "", ""⟩ (putClassFile d place) := by
      simp only [classWriter, hresolve]
    exact wp.run_ok hrun (Disk.sameOutside_addIn _ _ (List.prefix_refl _))

/-- A configuration that passes on the sources of a directory. -/
def oneGenerator : Config where
  build := { generators := [{ name := "beans", extension := "java", root := "gen" }] }

/-- A project with this configuration and one source. -/
def oneSource : Disk where
  entries := [(["tmp"], .directory 0), (["p"], .directory 0),
    (["p", "kiln.toml"], .file ⟨Text.encode ("[[build.generators]]\nname = \"beans\"\n" ++
      "extension = \"java\"\nroot = \"gen\"\n"), 0, false⟩),
    (["p", "gen"], .directory 0), (["p", "gen", "B.java"], .file ⟨Text.encode "class B", 0, false⟩)]
  workingDirectory := []
  now := 0

/-- What a build of this project leaves behind. -/
def oneBuild : Outcome :=
  run ⟨[], classWriter⟩ ["build", "/p/target/classes"] [] oneSource

/-- The configuration is the one in the project. -/
theorem loadForProject_oneSource : Config.loadForProject [] oneSource (Project.rootOf "/p/target/classes") =
    .ok (oneGenerator, some ("/p/kiln.toml" : Path)) := by
  have hloaded : (Config.loadForProject [] oneSource (Project.rootOf "/p/target/classes")).toOption =
      some (oneGenerator, some ("/p/kiln.toml" : Path)) := by decide +kernel
  cases hload : Config.loadForProject [] oneSource (Project.rootOf "/p/target/classes") with
  | ok result =>
    rw [hload] at hloaded
    exact congrArg Except.ok (Option.some.inj hloaded)
  | error e =>
    rw [hload] at hloaded
    cases hloaded

theorem oneBuild_exitCode : oneBuild.exitCode = 0 := by
  decide +kernel

end Buildwright.Cli
