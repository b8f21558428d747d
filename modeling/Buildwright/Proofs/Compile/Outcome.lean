-- SUMMARY: What a run of the Java compiler amounts to, for every exit code and every output: success, failure, or no outcome.
import Buildwright.Compile.JavaCompiler
import Buildwright.Proofs.Compile.Headers
import Buildwright.Proofs.Disk.Loading

/-!
# The outcome of the Java compiler

The exit code of the command and the diagnostics in its output decide together. Only a run with exit code zero
and without errors is a success, and only one that was killed without a word has no outcome. Every other run
is a failure with at least one error: those of the output, or else one that quotes the output.
-/
namespace Buildwright

/-! ## Blank output -/

namespace CompilerOutput

open Text

variable {line : List Char}

theorem header?_of_blank (h : ∀ c ∈ line, isBlank c = true) : header? line = none := by
  have hcolon : ':' ∉ line := fun hmem => absurd (h _ hmem) (by decide)
  have hplaced : ∀ s, placedHeader? s line = none := fun s =>
    placedHeader?_eq_none (cut?_eq_none_iff.2 fun hwithin =>
      hcolon (hwithin.subset (by rw [marker_eq]; exact List.mem_cons_self)))
  have hplain : ∀ s, plainHeader? s line = none := by
    intro s
    have hnone : (s.text ++ ": ").toList.isPrefixOf? line = none :=
      isPrefixOf?_eq_none.2 fun hbegins => hcolon (hbegins.subset (by simp))
    rw [plainHeader?, hnone, Option.map_none]
  rw [header?, hplaced, hplaced, hplain, hplain]
  rfl

theorem detail?_of_blank (h : ∀ c ∈ line, isBlank c = true) : detail? line = none := by
  rw [detail?, trimStart_eq_nil_iff.2 h]
  rfl

theorem foldl_readLine_of_blank {lines : List (List Char)}
    (h : ∀ line ∈ lines, ∀ c ∈ line, isBlank c = true) : lines.foldl readLine [] = [] := by
  induction lines with
  | nil => rfl
  | cons line rest ih =>
    obtain ⟨hline, hrest⟩ := List.forall_mem_cons.1 h
    rw [List.foldl_cons, readLine, header?_of_blank hline, detail?_of_blank hline]
    exact ih hrest

/-- There are no diagnostics in blank output. -/
theorem diagnostics_of_blank {output : String} (h : ∀ c ∈ output.toList, isBlank c = true) :
    diagnostics output = [] :=
  foldl_readLine_of_blank fun _ hline c hc => h c (mem_of_mem_lines hline hc)

end CompilerOutput

namespace CompilationOutcome

variable {target : Store} {ds : List Diagnostic}

theorem ofDiagnostics_of_noError (h : ∀ d ∈ ds, d.isError = false) :
    ofDiagnostics target ds = .success target ds := by
  have herrors : ds.filter (·.isError) = [] := List.filter_eq_nil_iff.2 fun d hd => by simp [h d hd]
  have hwarnings : ds.filter (fun d => !d.isError) = ds :=
    List.filter_eq_self.2 fun d hd => by simp [h d hd]
  rw [ofDiagnostics, herrors, hwarnings]

theorem ofDiagnostics_of_error (h : ds.filter (·.isError) ≠ []) :
    ofDiagnostics target ds = .failure (ds.filter (·.isError)) := by
  unfold ofDiagnostics
  split
  · next hnone => exact absurd hnone h
  · rfl

end CompilationOutcome

namespace JavaCompiler

variable {c : JavaCompiler} {names : List String} {sources : Store} {ctx : CompileContext}

/-! ## Runs -/

/-- The temporary directory of a compilation. -/
def workDirectory (w : Workshop) : Path :=
  w.disk.freeTemporary workLabel

/-- The temporary directory is new on the disk, and the sources have been written into it and the directory of
    the class files created without a failure. -/
def Staged (sources : Store) (work : Path) (d staged : Disk) : Prop :=
  ∃ created written, d.createDirectory work = .ok created ∧
    sources.writeTo (sourceRoot work) created = .ok () written ∧
    Disk.createDirectories (outputRoot work) written = .ok () staged

/-- The run ended well, and its output has no error in it. -/
def Succeeds (output : CommandOutput) (ds : List Diagnostic) : Prop :=
  output.exitCode = some 0 ∧ ∀ d ∈ ds, d.isError = false

/-- The run was killed and there is nothing but blanks in its output. -/
def DiesSilently (output : CommandOutput) : Prop :=
  output.exitCode = none ∧ ∀ c ∈ output.combined.toList, Text.isBlank c = true

/-- The errors of a run that fails: those of its output, or the one that stands for them. -/
def errorsOf (output : CommandOutput) (ds : List Diagnostic) : List Diagnostic :=
  if ds.any (·.isError) then ds.filter (·.isError) else [unexplained output]

/-- The arguments of a run end with those that stand for the sources. -/
theorem exists_arguments (c : JavaCompiler) (source target : Path) (names : List String)
    (h : ∀ entry ∈ ctx.classpath.keys, ':' ∉ entry.text.toList) :
    ∃ options, c.arguments source target names ctx =
      .ok (options ++ names.map fun name => (source.join ⟨name⟩).text) := by
  have hjoined : classpathText c.program ctx.classpath.keys =
      .ok (Text.joined ":" (ctx.classpath.keys.map (·.text))) := by
    rw [classpathText, if_neg]
    simpa using h
  unfold arguments
  by_cases hempty : ctx.classpath.isEmpty = true
  · rw [if_pos hempty]
    exact ⟨_, rfl⟩
  · rw [if_neg hempty, hjoined]
    exact ⟨_, rfl⟩

theorem not_diesSilently_of_succeeds {output : CommandOutput} {ds : List Diagnostic}
    (h : Succeeds output ds) : ¬ DiesSilently output := by
  rintro ⟨hnone, -⟩
  rw [h.1] at hnone
  cases hnone

/-- A run that dies silently has no diagnostics. -/
theorem diagnosticsOf_of_diesSilently {output : CommandOutput} (h : DiesSilently output)
    (source : Path) : diagnosticsOf source output = [] := by
  rw [diagnosticsOf, CompilerOutput.diagnostics_of_blank h.2, List.map_nil]

theorem errorsOf_ne_nil (output : CommandOutput) (ds : List Diagnostic) : errorsOf output ds ≠ [] := by
  unfold errorsOf
  split
  · next h =>
    obtain ⟨d, hd, herror⟩ := List.any_eq_true.1 h
    exact List.ne_nil_of_mem (List.mem_filter.2 ⟨hd, herror⟩)
  · exact List.cons_ne_nil _ _

section Judge

variable {output : CommandOutput} {ds : List Diagnostic} {source : Path} {command : String}

theorem judge_of_succeeds (h : Succeeds output ds) : judge command output ds = .ok ds := by
  rw [judge, if_pos]
  simp [CommandOutput.isSuccess, h.1]

theorem judge_of_diesSilently (h : DiesSilently output) :
    judge command output (diagnosticsOf source output) =
      .error (.commandFailed command "terminated without output") := by
  rw [diagnosticsOf_of_diesSilently h, judge, if_neg, if_pos]
  · simp [h.1, Text.trim_eq_empty_iff.2 h.2]
  · simp [CommandOutput.isSuccess, h.1]

/-- A run that neither succeeds nor dies silently is judged to have the errors of a failure. -/
theorem judge_of_fails (hfails : ¬ Succeeds output ds) (hspeaks : ¬ DiesSilently output) :
    ∃ judged, judge command output ds = .ok judged ∧ judged.any (·.isError) = true ∧
      judged.filter (·.isError) = errorsOf output ds := by
  unfold judge errorsOf
  by_cases herror : ds.any (·.isError) = true
  · rw [if_pos (by simp [herror]), if_pos herror]
    exact ⟨ds, rfl, herror, rfl⟩
  · have hnone : ∀ d ∈ ds, d.isError = false := by simpa using herror
    have hexit : output.isSuccess = false := by
      simpa [CommandOutput.isSuccess] using fun hzero => hfails ⟨hzero, hnone⟩
    have hsaid : ¬ (output.exitCode = none ∧ Text.trim output.combined = "") := fun hsilent =>
      hspeaks ⟨hsilent.1, Text.trim_eq_empty_iff.1 hsilent.2⟩
    have hfiltered : ds.filter (·.isError) = [] :=
      List.filter_eq_nil_iff.2 fun d hd => by simp [hnone d hd]
    have hadded : [unexplained output].filter (·.isError) = [unexplained output] := rfl
    rw [if_neg (by simpa [hexit] using hnone), if_neg (by simpa using hsaid), if_neg herror]
    refine ⟨ds ++ [unexplained output], rfl, ?_, ?_⟩
    · exact List.any_eq_true.2 ⟨unexplained output, by simp, rfl⟩
    · rw [List.filter_append, hfiltered, hadded, List.nil_append]

end Judge

/-! ## Compilations -/

/-- The outcome that a run has if it has one. -/
def HasOutcome (output : CommandOutput) (ds : List Diagnostic) (classes : Store → Prop) :
    CompilationOutcome → Prop
  | .success target warnings => Succeeds output ds ∧ warnings = ds ∧ classes target
  | .failure errors => ¬ Succeeds output ds ∧ ¬ DiesSilently output ∧ errors = errorsOf output ds

/-- The failure of a run without an outcome. -/
def HasNoOutcome (output : CommandOutput) : CompileError → Prop
  | .commandFailed _ _ => DiesSilently output
  | _ => False

/-- A compilation is classified by its run: whether it succeeds, fails for good or fails with errors goes by
    the exit code and the output alone, and so do the warnings and the errors. -/
structure Classified (output : CommandOutput) (ds : List Diagnostic) (classes : Store → Prop)
    (r : EStateM.Result CompileError Workshop CompilationOutcome) : Prop where
  success_iff : (∃ target warnings w, r = .ok (.success target warnings) w) ↔ Succeeds output ds
  success : ∀ target warnings w, r = .ok (.success target warnings) w →
    warnings = ds ∧ classes target
  commandFailed_iff : (∃ command message w, r = .error (.commandFailed command message) w) ↔
    DiesSilently output
  failure_iff : (∃ errors w, r = .ok (.failure errors) w) ↔
    ¬ Succeeds output ds ∧ ¬ DiesSilently output
  failure : ∀ errors w, r = .ok (.failure errors) w → errors = errorsOf output ds ∧ errors ≠ []

theorem classified_of_wp {output : CommandOutput} {ds : List Diagnostic} {classes : Store → Prop}
    {m : EStateM CompileError Workshop CompilationOutcome} {w : Workshop}
    (h : wp m (fun o _ => HasOutcome output ds classes o) (fun e _ => HasNoOutcome output e) w) :
    Classified output ds classes (m w) := by
  cases hm : m w with
  | ok o w' =>
    have hends := h.of_ok hm
    cases o with
    | success target warnings =>
      obtain ⟨hsucceeds, hwarnings, hclasses⟩ := hends
      have hspeaks := not_diesSilently_of_succeeds hsucceeds
      constructor <;> simp [hsucceeds, hspeaks, hwarnings, hclasses]
    | failure errors =>
      obtain ⟨hfails, hspeaks, herrors⟩ := hends
      constructor <;> simp [hfails, hspeaks, herrors, errorsOf_ne_nil]
  | error e w' =>
    have hends := h.of_error hm
    cases e with
    | commandFailed command message =>
      have hfails : ¬ Succeeds output ds := fun hsucceeds =>
        not_diesSilently_of_succeeds hsucceeds hends
      have hdies : DiesSilently output := hends
      constructor <;> simp [hfails, hdies]
    | io e => exact hends.elim
    | store e => exact hends.elim

section Compile

variable {work : Path} {arguments : List String} {output : CommandOutput} {d d' : Disk} {w : Workshop}
  {Q : CompilationOutcome → Workshop → Prop} {E : CompileError → Workshop → Prop}

theorem wp_orFail_of_ok {α : Type} {m : Except CompileError α} {a : α} {Q : α → Workshop → Prop}
    (hm : m = .ok a) (h : Q a w) : wp (orFail m) Q E w := by
  rw [hm]
  exact wp.pure h

theorem wp_orFail_of_error {α : Type} {m : Except CompileError α} {e : CompileError}
    {Q : α → Workshop → Prop} (hm : m = .error e) (h : E e w) : wp (orFail m) Q E w := by
  rw [hm]
  exact wp.throw h

/-- What is left of a compilation behind its run is to judge the output, and to load the class files. -/
theorem wp_compileIn_of_run {written : Disk}
    (hwritten : sources.writeTo (sourceRoot work) w.disk = .ok () written)
    (hstaged : Disk.createDirectories (outputRoot work) written = .ok () d)
    (harguments : c.arguments (sourceRoot work) (outputRoot work) names ctx = .ok arguments)
    (hrun : c.runner work c.program arguments d = .ok output d')
    (h : ∀ w', w'.disk = d' → wp (do
      let ds ← orFail
        (judge (showCommand c.program arguments) output (diagnosticsOf (sourceRoot work) output))
      let target ←
        if ds.any (·.isError) then pure Store.empty
        else Workshop.onDisk (Disk.look (Store.loadFrom · (outputRoot work) "class"))
      return .ofDiagnostics target ds) Q E w') :
    wp (c.compileIn names sources ctx work) Q E w := by
  unfold compileIn
  refine wp.bind (wp.onWorkshopDisk_of_ok hwritten ?_)
  refine wp.bind (wp.onWorkshopDisk_of_ok hstaged ?_)
  refine wp.bind (wp_orFail_of_ok harguments ?_)
  refine wp.bind (wp.note ?_)
  exact wp.bind (wp.onWorkshopDisk_of_ok hrun (h _ rfl))

/-- A compilation whose run neither succeeds nor dies silently is a failure, whatever class files there are. -/
theorem wp_compileIn_of_fails {written : Disk}
    (hwritten : sources.writeTo (sourceRoot work) w.disk = .ok () written)
    (hstaged : Disk.createDirectories (outputRoot work) written = .ok () d)
    (harguments : c.arguments (sourceRoot work) (outputRoot work) names ctx = .ok arguments)
    (hrun : c.runner work c.program arguments d = .ok output d')
    (hfails : ¬ Succeeds output (diagnosticsOf (sourceRoot work) output))
    (hspeaks : ¬ DiesSilently output) :
    wp (c.compileIn names sources ctx work)
      (fun o _ => o = .failure (errorsOf output (diagnosticsOf (sourceRoot work) output)))
      (fun _ _ => False) w := by
  refine wp_compileIn_of_run hwritten hstaged harguments hrun fun w' _ => ?_
  obtain ⟨judged, hjudged, herror, herrors⟩ := judge_of_fails hfails hspeaks
  refine wp.bind (wp_orFail_of_ok hjudged ?_)
  rw [if_pos herror]
  refine wp.bind (wp.pure (wp.pure ?_))
  have hne : judged.filter (·.isError) ≠ [] := by
    rw [herrors]
    exact errorsOf_ne_nil _ _
  rw [CompilationOutcome.ofDiagnostics_of_error hne, herrors]

/-- A compilation whose files can be written and read ends as its run does. -/
theorem wp_compileIn {written : Disk}
    (hwritten : sources.writeTo (sourceRoot work) w.disk = .ok () written)
    (hstaged : Disk.createDirectories (outputRoot work) written = .ok () d)
    (harguments : c.arguments (sourceRoot work) (outputRoot work) names ctx = .ok arguments)
    (hrun : c.runner work c.program arguments d = .ok output d') (hd' : d'.WellFormed)
    (hload : output.exitCode = some 0 →
      ∃ target, Store.loadFrom d' (outputRoot work) "class" = .ok target) :
    wp (c.compileIn names sources ctx work)
      (fun o _ => HasOutcome output (diagnosticsOf (sourceRoot work) output)
        (fun target => target.HoldsFilesBelow d' (outputRoot work) "class") o)
      (fun e _ => HasNoOutcome output e) w := by
  -- Once the command has been run, its output decides.
  by_cases hdies : DiesSilently output
  · refine wp_compileIn_of_run hwritten hstaged harguments hrun fun w' _ => ?_
    exact wp.bind (wp_orFail_of_error (judge_of_diesSilently hdies) hdies)
  by_cases hends : Succeeds output (diagnosticsOf (sourceRoot work) output)
  · refine wp_compileIn_of_run hwritten hstaged harguments hrun fun w' hw' => ?_
    obtain ⟨target, htarget⟩ := hload hends.1
    have hlook : Disk.look (Store.loadFrom · (outputRoot work) "class") w'.disk = .ok target d' := by
      simp only [Disk.look, hw', htarget]
    refine wp.bind (wp_orFail_of_ok (judge_of_succeeds hends) ?_)
    rw [if_neg (by simpa using hends.2)]
    refine wp.bind (wp.onWorkshopDisk_of_ok hlook (wp.pure ?_))
    rw [CompilationOutcome.ofDiagnostics_of_noError hends.2]
    exact ⟨hends, rfl, Store.holdsFilesBelow_of_loadFrom hd' htarget⟩
  · refine (wp_compileIn_of_fails hwritten hstaged harguments hrun hends hdies).mono ?_
      fun _ _ => False.elim
    rintro o - rfl
    exact ⟨hends, hdies, rfl⟩

theorem requireSource_of_mem {name : String} (h : name ∈ sources.names) :
    requireSource sources name = pure () := by
  obtain ⟨content, hcontent⟩ := Store.mem_names.1 h
  rw [requireSource, hcontent]

theorem requireSource_of_not_mem {name : String} (h : name ∉ sources.names) :
    requireSource sources name = throw (.store (.missing name)) := by
  rw [requireSource, Store.read_of_not_mem_names h]

theorem wp_requireSources_of_present {Q : Unit → Workshop → Prop}
    (hnames : ∀ name ∈ names, name ∈ sources.names) (h : Q () w) :
    wp (names.forM (requireSource sources)) Q E w := by
  have hkeeps : wp (names.forM (requireSource sources)) (fun _ w' => w' = w) E w := by
    refine wp.forM_keeps (fun name hname w' hw' => ?_) rfl
    rw [requireSource_of_mem (hnames name hname)]
    exact wp.pure hw'
  refine hkeeps.mono ?_ fun _ _ he => he
  rintro - _ rfl
  exact h

/-- The first name that is missing ends the search for all of them. -/
theorem wp_requireSources_of_missing (h : ∃ name ∈ names, name ∉ sources.names) :
    wp (names.forM (requireSource sources)) (fun _ _ => False)
      (fun e w' => (∃ name ∈ names, name ∉ sources.names ∧ e = .store (.missing name)) ∧ w' = w) w := by
  induction names with
  | nil => simp at h
  | cons name rest ih =>
    refine wp.forM_cons ?_
    by_cases hname : name ∈ sources.names
    · have hrest : ∃ name ∈ rest, name ∉ sources.names := by simpa [hname] using h
      rw [requireSource_of_mem hname]
      refine wp.pure ((ih hrest).mono (fun _ _ hnever => hnever) ?_)
      rintro e w' ⟨⟨other, hother, hspec⟩, hw⟩
      exact ⟨⟨other, List.mem_cons_of_mem name hother, hspec⟩, hw⟩
    · rw [requireSource_of_not_mem hname]
      exact wp.throw ⟨⟨name, List.mem_cons_self, hname, rfl⟩, rfl⟩

/-- A compilation fails for the first name that is missing, and leaves the workshop as it is. -/
theorem compile_of_missing (w : Workshop) (h : ∃ name ∈ names, name ∉ sources.names) :
    ∃ name ∈ names, name ∉ sources.names ∧
      c.toCompiler.compile names sources ctx w = .error (.store (.missing name)) w := by
  have hcompile : wp (c.toCompiler.compile names sources ctx) (fun _ _ => False)
      (fun e w' => (∃ name ∈ names, name ∉ sources.names ∧ e = .store (.missing name)) ∧ w' = w) w :=
    wp.bind ((wp_requireSources_of_missing h).mono (fun _ _ => False.elim) fun _ _ => id)
  obtain ⟨_, _, hfails, ⟨name, hname, hnot, rfl⟩, rfl⟩ := hcompile.fails
  exact ⟨name, hname, hnot, hfails⟩

/-- A compilation of sources that are there is classified by what its command leaves behind. -/
theorem classified_of_staged {staged : Disk} (hnames : ∀ name ∈ names, name ∈ sources.names)
    (harguments : c.arguments (sourceRoot (workDirectory w)) (outputRoot (workDirectory w)) names ctx =
      .ok arguments)
    (hstaged : Staged sources (workDirectory w) w.disk staged)
    (hrun : c.runner (workDirectory w) c.program arguments staged = .ok output d')
    (hd' : d'.WellFormed)
    (hload : output.exitCode = some 0 →
      ∃ target, Store.loadFrom d' (outputRoot (workDirectory w)) "class" = .ok target) :
    Classified output (diagnosticsOf (sourceRoot (workDirectory w)) output)
      (fun target => target.HoldsFilesBelow d' (outputRoot (workDirectory w)) "class")
      (c.toCompiler.compile names sources ctx w) := by
  obtain ⟨created, written, hcreate, hwritten, hdirectory⟩ := hstaged
  refine classified_of_wp (wp.bind (wp_requireSources_of_present hnames ?_))
  refine wp.withTemporary_of_ok hcreate ?_
  exact wp_compileIn (w := { w with disk := created }) hwritten hdirectory harguments hrun hd' hload

/-- A compilation of a source that is missing fails for it, and runs and changes nothing. Of sources that are
    all there, and with a class path whose entries can be joined, it comes to a run of the command. As far as
    its files can be written and read, that run alone decides: the compilation succeeds exactly if the exit
    code is zero and there is no error in the output, with all that is in the output as warnings and the
    class files below the output directory as target; it fails for good exactly if the command was killed
    and wrote nothing but blanks; and in every other case it fails with the errors of the output, or with
    one that stands for them. -/
theorem compile_classified (c : JavaCompiler) (names : List String) (sources : Store)
    (ctx : CompileContext) (w : Workshop) :
    ((∃ name ∈ names, name ∉ sources.names) → ∃ name ∈ names, name ∉ sources.names ∧
      c.toCompiler.compile names sources ctx w = .error (.store (.missing name)) w) ∧
    ((∀ name ∈ names, name ∈ sources.names) →
      (∀ entry ∈ ctx.classpath.keys, ':' ∉ entry.text.toList) →
      ∃ arguments, c.arguments (sourceRoot (workDirectory w)) (outputRoot (workDirectory w)) names ctx =
          .ok arguments ∧
        ∀ staged output d', Staged sources (workDirectory w) w.disk staged →
          c.runner (workDirectory w) c.program arguments staged = .ok output d' → d'.WellFormed →
          (output.exitCode = some 0 →
            ∃ target, Store.loadFrom d' (outputRoot (workDirectory w)) "class" = .ok target) →
          Classified output (diagnosticsOf (sourceRoot (workDirectory w)) output)
            (fun target => target.HoldsFilesBelow d' (outputRoot (workDirectory w)) "class")
            (c.toCompiler.compile names sources ctx w)) := by
  refine ⟨compile_of_missing w, fun hnames hclasspath => ?_⟩
  obtain ⟨options, harguments⟩ := c.exists_arguments (sourceRoot (workDirectory w))
    (outputRoot (workDirectory w)) names hclasspath
  exact ⟨_, harguments, fun staged output d' hstaged hrun hd' hload =>
    classified_of_staged hnames harguments hstaged hrun hd' hload⟩

end Compile

/-! ### A run with a warning -/

/-- A compiler that writes one class file, and warns of its source. -/
def warningCompiler : JavaCompiler where
  program := "javac"
  release := some "21"
  runner work _ _ := do
    Disk.writeWithDirectories (work.join ⟨"classes/a/A.class"⟩) (Text.encode "A")
    return ⟨some 0, "/tmp/javac-work-0/src/a/A.java:1: warning: old\n", ""⟩

/-- A store with one source. -/
def oneSource : Store :=
  .ofList [("a/A.java", Text.encode "class A")]

/-- A workshop with nothing but the directory of temporary directories. -/
def bareWorkshop : Workshop where
  disk := { entries := [(["tmp"], .directory 0)], workingDirectory := [], now := 0 }
  commands := []

/-- The disk of that workshop with the source in a temporary directory. -/
def stagedDisk : Disk where
  entries := [(["tmp"], .directory 0), (["tmp", "javac-work-0"], .directory 0),
    (["tmp", "javac-work-0", "src"], .directory 0),
    (["tmp", "javac-work-0", "src", "a"], .directory 0),
    (["tmp", "javac-work-0", "src", "a", "A.java"], .file ⟨Text.encode "class A", 0, false⟩),
    (["tmp", "javac-work-0", "classes"], .directory 0)]
  workingDirectory := []
  now := 0

/-- The disk with the class file of the source, too. -/
def compiledDisk : Disk :=
  { stagedDisk with
    entries := stagedDisk.entries ++ [(["tmp", "javac-work-0", "classes", "a"], .directory 0),
      (["tmp", "javac-work-0", "classes", "a", "A.class"], .file ⟨Text.encode "A", 0, false⟩)] }

theorem staged_stagedDisk : Staged oneSource (workDirectory bareWorkshop) bareWorkshop.disk stagedDisk := by
  refine ⟨{ stagedDisk with entries := stagedDisk.entries.take 2 },
    { stagedDisk with entries := stagedDisk.entries.take 5 }, ?_, ?_, ?_⟩
  all_goals decide +kernel

theorem compiledDisk_wellFormed : compiledDisk.WellFormed :=
  ⟨by decide, by decide⟩

/-- The command ends well with a warning, so the compilation is a success that warns of the staged name; and
    nothing is run for a source that is not there. -/
theorem compile_classified_warning :
    (∃ target w, warningCompiler.toCompiler.compile ["a/A.java"] oneSource
        (.make "/out" ["/lib/a.jar", "/lib/b.jar"]) bareWorkshop =
          .ok (.success target [⟨some "a/A.java", some 1, .warning, "old"⟩]) w ∧
        target.HoldsFilesBelow compiledDisk "/tmp/javac-work-0/classes" "class") ∧
    warningCompiler.toCompiler.compile ["a/A.java", "b/B.java"] oneSource (.make "/out" []) bareWorkshop =
      .error (.store (.missing "b/B.java")) bareWorkshop := by
  constructor
  · obtain ⟨arguments, harguments, hclassified⟩ := (compile_classified warningCompiler ["a/A.java"]
      oneSource (.make "/out" ["/lib/a.jar", "/lib/b.jar"]) bareWorkshop).2 (by decide +kernel)
      (by decide +kernel)
    have hwork : outputRoot (workDirectory bareWorkshop) = "/tmp/javac-work-0/classes" := by
      decide +kernel
    have hrun : warningCompiler.runner (workDirectory bareWorkshop) warningCompiler.program arguments
        stagedDisk =
          .ok ⟨some 0, "/tmp/javac-work-0/src/a/A.java:1: warning: old\n", ""⟩ compiledDisk := by
      show warningCompiler.runner (workDirectory bareWorkshop) warningCompiler.program [] stagedDisk = _
      decide +kernel
    have hload : Store.loadFrom compiledDisk (outputRoot (workDirectory bareWorkshop)) "class" =
        .ok (.ofList [("a/A.class", Text.encode "A")]) := by
      decide +kernel
    have hresult := hclassified stagedDisk _ compiledDisk staged_stagedDisk hrun
      compiledDisk_wellFormed fun _ => ⟨_, hload⟩
    obtain ⟨target, warnings, w, hsuccess⟩ := hresult.success_iff.2 ⟨rfl, by decide +kernel⟩
    obtain ⟨hwarnings, htarget⟩ := hresult.success target warnings w hsuccess
    have hwarning : warnings = [⟨some "a/A.java", some 1, .warning, "old"⟩] := by
      rw [hwarnings]
      decide +kernel
    rw [hwarning] at hsuccess
    rw [hwork] at htarget
    exact ⟨target, w, hsuccess, htarget⟩
  · obtain ⟨name, hname, hmissing, hfails⟩ := (compile_classified warningCompiler
      ["a/A.java", "b/B.java"] oneSource (.make "/out" []) bareWorkshop).1 (by decide +kernel)
    have hb : name = "b/B.java" := by
      have hpresent : "a/A.java" ∈ oneSource.names := by decide +kernel
      simp only [List.mem_cons, List.not_mem_nil, or_false] at hname
      exact hname.resolve_left fun ha => hmissing (ha ▸ hpresent)
    rw [hb] at hfails
    exact hfails

end JavaCompiler
end Buildwright
