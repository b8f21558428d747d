-- SUMMARY: Errors of the Java compiler are attributed to the sources by the names under which these were staged.
import Buildwright.Proofs.ClassName.Agreement
import Buildwright.Proofs.Compile.Outcome

/-!
# To which source an error belongs

A source goes into the run of the command by an argument, its path below the temporary directory, and an
error goes by that argument. The argument leads back to the staged name: it holds neither a marker nor a
line feed where the temporary directory holds none, so the header of the error is cut behind it whatever
the message holds, and the directory of the sources comes off again.
-/
namespace Buildwright.JavaCompiler

open CompilerOutput

/-- The argument that stands for a source in a run. -/
def sourceArgument (work : Path) (name : String) : String :=
  ((sourceRoot work).join ⟨name⟩).text

/-- An error in the source of a class, as the command finds it: a line and a message of one line. -/
structure Report where
  className : String
  line : Nat
  message : String
  line_lt : line < lineBound
  oneLine : '\n' ∉ message.toList

namespace Report

/-- The line that shows an error. The source goes by its argument. -/
def shown (work : Path) (r : Report) : String :=
  sourceArgument work (ClassName.stagingPath r.className) ++ ":" ++ toString r.line ++ ": error: " ++ r.message

/-- The error as it is reported. The source goes by its staged name. -/
def diagnostic (r : Report) : Diagnostic :=
  ⟨some (ClassName.stagingPath r.className), some r.line, .error, Text.trim r.message⟩

end Report

variable {work : Path} {className : String}

/-! ## The arguments of sources -/

/-- Behind the temporary directory, an argument goes on with a character that is in no marker, and with neither
    colons nor line feeds. -/
theorem exists_toList_sourceArgument (work : Path) (hvalid : ClassName.isValid className = true) :
    ∃ c rest, (c = '/' ∨ c = 's') ∧ ':' ∉ rest ∧ '\n' ∉ rest ∧
      (sourceArgument work (ClassName.stagingPath className)).toList = work.text.toList ++ c :: rest := by
  have hrelative : (Path.mk (ClassName.stagingPath className)).isAbsolute = false :=
    Path.isAbsolute_of_tidy (ClassName.tidy_stagingPath hvalid)
  have hbelow : (Path.mk ("src" ++ "/" ++ ClassName.stagingPath className)).isAbsolute = false := by
    rw [String.append_assoc, Path.isAbsolute_append (by decide)]
    decide
  have hcolon : ':' ∉ (ClassName.stagingPath className).toList := fun hc =>
    absurd (ClassName.of_mem_stagingPath hvalid hc) (by decide)
  have hfeed : '\n' ∉ (ClassName.stagingPath className).toList := fun hc =>
    absurd (ClassName.of_mem_stagingPath hvalid hc) (by decide)
  rw [sourceArgument, sourceRoot, Path.join_join (by decide) (by decide) (by decide) hrelative,
    Path.join, if_neg (Bool.eq_false_iff.1 hbelow)]
  split
  · exact ⟨'s', "rc/".toList ++ (ClassName.stagingPath className).toList, .inr rfl,
      by simp [hcolon], by simp [hfeed], by simp⟩
  · exact ⟨'/', "src/".toList ++ (ClassName.stagingPath className).toList, .inl rfl,
      by simp [hcolon], by simp [hfeed], by simp⟩

theorem sourceArgument_ne_empty (hvalid : ClassName.isValid className = true) :
    sourceArgument work (ClassName.stagingPath className) ≠ "" := by
  obtain ⟨c, rest, -, -, -, heq⟩ := exists_toList_sourceArgument work hvalid
  intro hempty
  simp [hempty] at heq

theorem lineFeed_not_mem_sourceArgument (hvalid : ClassName.isValid className = true)
    (hwork : '\n' ∉ work.text.toList) :
    '\n' ∉ (sourceArgument work (ClassName.stagingPath className)).toList := by
  obtain ⟨c, rest, hc, -, hrest, heq⟩ := exists_toList_sourceArgument work hvalid
  rw [heq, List.mem_append, List.mem_cons, not_or, not_or]
  refine ⟨hwork, ?_, hrest⟩
  rcases hc with rfl | rfl <;> decide

/-- An argument has no marker in it if the temporary directory has none. -/
theorem marker_not_infix_sourceArgument (hvalid : ClassName.isValid className = true)
    (hwork : ∀ s, ¬ marker s <:+: work.text.toList) (s : Severity) :
    ¬ marker s <:+: (sourceArgument work (ClassName.stagingPath className)).toList := by
  obtain ⟨c, rest, hc, hcolon, -, heq⟩ := exists_toList_sourceArgument work hvalid
  have hmarker : c ∉ marker s := by
    rcases hc with rfl | rfl <;> cases s <;> decide
  rw [heq]
  refine Text.not_infix_append hmarker (hwork s) fun hwithin => ?_
  have hbegins : ':' ∈ c :: rest := hwithin.subset (by rw [marker_eq]; exact List.mem_cons_self)
  rcases List.mem_cons.1 hbegins with rfl | hmem
  · rcases hc with hc | hc <;> cases hc
  · exact hcolon hmem

/-- The path of a source below the directory of the sources leads back to its name. -/
theorem relativeName_join {name : String} (root : Path) (h : Path.Tidy (Text.pieces '/' name)) :
    relativeName root (root.join ⟨name⟩).text = name := by
  have hrelative : (root.join ⟨name⟩).relativeTo? root = some ⟨name⟩ := Path.relativeTo?_join root h
  rw [relativeName, hrelative]
  exact Path.slashed_of_tidy h

/-- The argument of a source leads back to the name under which the source is staged. -/
theorem relativeName_sourceArgument (hvalid : ClassName.isValid className = true) (work : Path) :
    relativeName (sourceRoot work) (sourceArgument work (ClassName.stagingPath className)) =
      ClassName.stagingPath className :=
  relativeName_join (sourceRoot work) (ClassName.tidy_stagingPath hvalid)

/-! ## The lines of errors -/

namespace Report

variable {r : Report}

theorem toList_shown (work : Path) (r : Report) :
    (r.shown work).toList =
      placedLine (sourceArgument work (ClassName.stagingPath r.className)) r.line .error r.message := by
  simp [shown, placedLine, numbered, marker, Severity.text]

theorem shown_ne_empty (work : Path) (r : Report) : r.shown work ≠ "" := by
  simp [shown]

theorem lineFeed_not_mem_shown (hvalid : ClassName.isValid r.className = true)
    (hwork : '\n' ∉ work.text.toList) : '\n' ∉ (r.shown work).toList := by
  have hdigits : '\n' ∉ (toString r.line).toList := fun hc =>
    absurd (Text.isDigit_of_mem_toString hc) (by decide)
  have hmarker : '\n' ∉ marker .error := by decide
  rw [toList_shown]
  simp only [placedLine, numbered, List.mem_append, List.mem_cons, not_or]
  exact ⟨⟨lineFeed_not_mem_sourceArgument hvalid hwork, by decide, hdigits⟩, hmarker, r.oneLine⟩

/-- A line that shows an error is read as its header. A carriage return at the end of the line makes no
    difference, as it is trimmed off the message otherwise. -/
theorem header?_of_readAs {read : List Char} (hvalid : ClassName.isValid r.className = true)
    (hwork : ∀ s, ¬ marker s <:+: work.text.toList) (h : Text.ReadAs (r.shown work) read) :
    header? read = some ⟨some (sourceArgument work (ClassName.stagingPath r.className)), some r.line,
      .error, Text.trim r.message⟩ := by
  have hheader : ∀ message, header? (placedLine (sourceArgument work
      (ClassName.stagingPath r.className)) r.line .error message) =
        some ⟨some (sourceArgument work (ClassName.stagingPath r.className)), some r.line, .error,
          Text.trim message⟩ := fun message =>
    header?_placedLine (sourceArgument_ne_empty hvalid)
      (marker_not_infix_sourceArgument hvalid hwork) r.line_lt (by simp)
  rcases h with heq | hreturn
  · rw [← heq, toList_shown, hheader]
  · -- The marker ends with a blank, so the carriage return belongs to the message.
    obtain ⟨before, hblank⟩ : ∃ before, marker .error = before ++ [' '] :=
      ⟨": error:".toList, by decide⟩
    rw [toList_shown, placedLine] at hreturn
    rcases List.eq_nil_or_concat' r.message.toList with hnil | ⟨message, last, hmessage⟩
    · rw [hnil, hblank, List.append_nil, ← List.append_assoc] at hreturn
      exact absurd (List.append_inj_right' hreturn rfl) (by decide)
    · rw [hmessage, ← List.append_assoc, ← List.append_assoc] at hreturn
      obtain ⟨hread, hlast⟩ := List.append_inj' hreturn rfl
      have hplaced : read = placedLine (sourceArgument work (ClassName.stagingPath r.className))
          r.line .error (String.ofList message) := by
        rw [← hread, placedLine, String.toList_ofList, List.append_assoc]
      have htrim : Text.trim r.message = Text.trim (String.ofList message) := by
        rw [Text.trim, Text.trim, hmessage, hlast, Text.trimmed_concat (by decide),
          String.toList_ofList]
      rw [hplaced, hheader, htrim]

end Report

/-! ## The errors of a run -/

section Run

variable {reports : List Report} {output : CommandOutput}

/-- Each line of an output that shows errors is a diagnostic, with the staged name of its source. -/
theorem diagnosticsOf_of_shown (hstdout : output.stdout = "")
    (hstderr : Text.HasLines output.stderr (reports.map (Report.shown work)))
    (hvalid : ∀ r ∈ reports, ClassName.isValid r.className = true)
    (hbreak : '\n' ∉ work.text.toList) (hmarkers : ∀ s, ¬ marker s <:+: work.text.toList) :
    diagnosticsOf (sourceRoot work) output = reports.map Report.diagnostic := by
  have hcombined : output.combined = output.stderr := by
    rw [CommandOutput.combined, hstdout]
    split <;> simp_all
  have hlines : ∀ line ∈ reports.map (Report.shown work), line ≠ "" ∧ '\n' ∉ line.toList := by
    intro line hline
    obtain ⟨r, hr, rfl⟩ := List.mem_map.1 hline
    exact ⟨r.shown_ne_empty work, Report.lineFeed_not_mem_shown (hvalid r hr) hbreak⟩
  have hread : List.Forall₂ (fun r line => ClassName.isValid r.className = true ∧
      Text.ReadAs (Report.shown work r) line) reports (Text.lines output.stderr.toList) :=
    (List.forall₂_and_left _ _).2 ⟨hvalid, List.forall₂_map_left_iff.1 (hstderr.readAs hlines)⟩
  have hheaders : List.Forall₂ (fun line d => header? line = some d)
      (Text.lines output.stderr.toList) (reports.map fun r =>
        ⟨some (sourceArgument work (ClassName.stagingPath r.className)), some r.line, .error,
          Text.trim r.message⟩) :=
    List.forall₂_map_right_iff.2
      (hread.imp fun r line h => Report.header?_of_readAs h.1 hmarkers h.2).flip
  rw [diagnosticsOf, diagnostics, hcombined, foldl_readLine_of_headers hheaders, List.nil_append,
    List.map_map]
  refine List.map_congr_left fun r hr => ?_
  simp [relativeName_sourceArgument (hvalid r hr), Report.diagnostic]

theorem errorsOf_of_shown (hne : reports ≠ []) :
    errorsOf output (reports.map Report.diagnostic) = reports.map Report.diagnostic := by
  have herrors : ∀ d ∈ reports.map Report.diagnostic, d.isError = true := by
    intro d hd
    obtain ⟨r, -, rfl⟩ := List.mem_map.1 hd
    rfl
  obtain ⟨first, hfirst⟩ := List.exists_mem_of_ne_nil _ (by simpa using hne :
    reports.map Report.diagnostic ≠ [])
  rw [errorsOf, if_pos (List.any_eq_true.2 ⟨first, hfirst, herrors first hfirst⟩),
    List.filter_eq_self.2 herrors]

variable {c : JavaCompiler} {names : List String} {sources : Store} {ctx : CompileContext}
  {arguments : List String} {staged d' : Disk} {w : Workshop}

/-- A run that ends with an exit code of one and shows errors makes its compilation a failure with these. -/
theorem wp_compileIn_of_shown {written : Disk}
    (hwritten : sources.writeTo (sourceRoot work) w.disk = .ok () written)
    (hstaged : Disk.createDirectories (outputRoot work) written = .ok () staged)
    (harguments : c.arguments (sourceRoot work) (outputRoot work) names ctx = .ok arguments)
    (hrun : c.runner work c.program arguments staged = .ok output d')
    (hexit : output.exitCode = some 1) (hne : reports ≠ [])
    (hdiagnostics : diagnosticsOf (sourceRoot work) output = reports.map Report.diagnostic) :
    wp (c.compileIn names sources ctx work)
      (fun o _ => o = .failure (reports.map Report.diagnostic)) (fun _ _ => False) w := by
  have hfails : ¬ Succeeds output (diagnosticsOf (sourceRoot work) output) := fun hsucceeds =>
    absurd (hexit.symm.trans hsucceeds.1) (by decide)
  have hspeaks : ¬ DiesSilently output := fun hdies => absurd (hexit.symm.trans hdies.1) (by decide)
  have h := wp_compileIn_of_fails hwritten hstaged harguments hrun hfails hspeaks
  rwa [hdiagnostics, errorsOf_of_shown hne] at h

/-- Errors are reported against staged names. The arguments of a run end with one for the source of each class.
    If the command ends with an exit code of one, and the lines of its error stream are errors in some of
    these sources, by their arguments, then the compilation is a failure with exactly these errors, each in
    the staged name of its source, with its line and its trimmed message. What the messages hold makes no
    difference. This is so in any directory without a line feed or a marker in its path, the temporary
    directory of a compilation among them. -/
theorem compile_attributes_errors (c : JavaCompiler) (classNames : List String) (sources : Store)
    (ctx : CompileContext) (work : Path) (reports : List Report)
    (hvalid : ∀ className ∈ classNames, ClassName.isValid className = true)
    (hsources : ∀ className ∈ classNames, ClassName.stagingPath className ∈ sources.names)
    (hclasspath : ∀ entry ∈ ctx.classpath.keys, ':' ∉ entry.text.toList)
    (hbreak : '\n' ∉ work.text.toList) (hmarkers : ∀ s, ¬ marker s <:+: work.text.toList)
    (hreports : ∀ r ∈ reports, r.className ∈ classNames) (hne : reports ≠ []) :
    ∃ options, c.arguments (sourceRoot work) (outputRoot work)
        (classNames.map ClassName.stagingPath) ctx =
          .ok (options ++ (classNames.map ClassName.stagingPath).map (sourceArgument work)) ∧
      ∀ staged d' output,
        c.runner work c.program
            (options ++ (classNames.map ClassName.stagingPath).map (sourceArgument work)) staged =
              .ok output d' →
          output.exitCode = some 1 → output.stdout = "" →
          Text.HasLines output.stderr (reports.map (Report.shown work)) →
          (∀ w written, sources.writeTo (sourceRoot work) w.disk = .ok () written →
            Disk.createDirectories (outputRoot work) written = .ok () staged →
            ∃ w', c.compileIn (classNames.map ClassName.stagingPath) sources ctx work w =
              .ok (.failure (reports.map Report.diagnostic)) w') ∧
          (∀ w, work = workDirectory w → Staged sources work w.disk staged →
            ∃ w', c.toCompiler.compile (classNames.map ClassName.stagingPath) sources ctx w =
              .ok (.failure (reports.map Report.diagnostic)) w') := by
  obtain ⟨options, harguments⟩ := c.exists_arguments (sourceRoot work) (outputRoot work)
    (classNames.map ClassName.stagingPath) hclasspath
  refine ⟨options, harguments, fun staged d' output hrun hexit hstdout hstderr => ?_⟩
  have hdiagnostics := diagnosticsOf_of_shown hstdout hstderr
    (fun r hr => hvalid r.className (hreports r hr)) hbreak hmarkers
  have hcompileIn : ∀ (w : Workshop) (written : Disk),
      sources.writeTo (sourceRoot work) w.disk = .ok () written →
      Disk.createDirectories (outputRoot work) written = .ok () staged →
      wp (c.compileIn (classNames.map ClassName.stagingPath) sources ctx work)
        (fun o _ => o = .failure (reports.map Report.diagnostic)) (fun _ _ => False) w :=
    fun w written hwritten hdirectory =>
      wp_compileIn_of_shown hwritten hdirectory harguments hrun hexit hne hdiagnostics
  have hreturns : ∀ {m : EStateM CompileError Workshop CompilationOutcome} {w : Workshop},
      wp m (fun o _ => o = .failure (reports.map Report.diagnostic)) (fun _ _ => False) w →
      ∃ w', m w = .ok (.failure (reports.map Report.diagnostic)) w' := by
    intro m w h
    obtain ⟨o, w', hm, rfl⟩ := h.returns
    exact ⟨w', hm⟩
  constructor
  · exact fun w written hwritten hdirectory => hreturns (hcompileIn w written hwritten hdirectory)
  · rintro w rfl ⟨created, written, hcreate, hwritten, hdirectory⟩
    have hpresent : ∀ name ∈ classNames.map ClassName.stagingPath, name ∈ sources.names := by
      intro name hname
      obtain ⟨className, hclassName, rfl⟩ := List.mem_map.1 hname
      exact hsources className hclassName
    refine hreturns (wp.bind (wp_requireSources_of_present hpresent ?_))
    exact wp.withTemporary_of_ok hcreate
      (hcompileIn { w with disk := created } written hwritten hdirectory)

end Run

/-! ### A run with two errors -/

/-- An error with a message that looks like an error in another source. -/
def quotedError : Report :=
  ⟨"A", 3, "in B.java:7: error: ';' expected", by decide, by decide⟩

/-- An error with a message that looks like a warning, and with blanks around it. -/
def quotedWarning : Report :=
  ⟨"A", 4, " 12: warning: old \r", by decide, by decide⟩

/-- A compiler that shows both errors and ends with an exit code of one. -/
def quotingCompiler : JavaCompiler where
  program := "javac"
  release := none
  runner work _ _ :=
    return ⟨some 1, "", quotedError.shown work ++ "\n" ++ (quotedWarning.shown work ++ "\n")⟩

/-- A store with one source under its staging path. -/
def stagedSource : Store :=
  .ofList [("src/main/java/A.java", Text.encode "class A")]

/-- The disk of the bare workshop with this source in a temporary directory. -/
def stagedSourceDisk : Disk where
  entries := [(["tmp"], .directory 0), (["tmp", "javac-work-0"], .directory 0),
    (["tmp", "javac-work-0", "src"], .directory 0),
    (["tmp", "javac-work-0", "src", "src"], .directory 0),
    (["tmp", "javac-work-0", "src", "src", "main"], .directory 0),
    (["tmp", "javac-work-0", "src", "src", "main", "java"], .directory 0),
    (["tmp", "javac-work-0", "src", "src", "main", "java", "A.java"],
      .file ⟨Text.encode "class A", 0, false⟩),
    (["tmp", "javac-work-0", "classes"], .directory 0)]
  workingDirectory := []
  now := 0

theorem writeTo_stagedSource :
    stagedSource.writeTo "/tmp/javac-work-0/src"
        { stagedSourceDisk with entries := stagedSourceDisk.entries.take 2 } =
      .ok () { stagedSourceDisk with entries := stagedSourceDisk.entries.take 7 } := by
  decide +kernel

theorem staged_stagedSourceDisk :
    Staged stagedSource (workDirectory bareWorkshop) bareWorkshop.disk stagedSourceDisk := by
  have hwork : workDirectory bareWorkshop = "/tmp/javac-work-0" := by decide
  have hroot : sourceRoot "/tmp/javac-work-0" = "/tmp/javac-work-0/src" := by decide
  rw [hwork]
  refine ⟨{ stagedSourceDisk with entries := stagedSourceDisk.entries.take 2 },
    { stagedSourceDisk with entries := stagedSourceDisk.entries.take 7 }, by decide, ?_,
    by decide⟩
  rw [hroot]
  exact writeTo_stagedSource

theorem compile_attributes_errors_quoting :
    ∃ w, quotingCompiler.toCompiler.compile ["src/main/java/A.java"] stagedSource
      (.make "/out" ["/lib/a.jar"]) bareWorkshop =
        .ok (.failure
          [⟨some "src/main/java/A.java", some 3, .error, "in B.java:7: error: ';' expected"⟩,
            ⟨some "src/main/java/A.java", some 4, .error, "12: warning: old"⟩]) w := by
  have hmarkers : ∀ s, ¬ marker s <:+: (workDirectory bareWorkshop).text.toList := by
    intro s
    cases s <;> decide +kernel
  obtain ⟨options, -, hruns⟩ := compile_attributes_errors quotingCompiler ["A"] stagedSource
    (.make "/out" ["/lib/a.jar"]) (workDirectory bareWorkshop) [quotedError, quotedWarning]
    (by decide +kernel) (by decide +kernel) (by decide +kernel) (by decide +kernel) hmarkers
    (by decide +kernel) (List.cons_ne_nil _ _)
  have hlines : Text.HasLines (quotedError.shown (workDirectory bareWorkshop) ++ "\n" ++
      (quotedWarning.shown (workDirectory bareWorkshop) ++ "\n"))
      ([quotedError, quotedWarning].map (Report.shown (workDirectory bareWorkshop))) := by
    have hlast := Text.HasLines.nil.cons (quotedWarning.shown (workDirectory bareWorkshop))
    rw [String.append_empty] at hlast
    exact hlast.cons _
  obtain ⟨-, hcompile⟩ := hruns stagedSourceDisk stagedSourceDisk _ rfl rfl rfl hlines
  have hnames : ["A"].map ClassName.stagingPath = ["src/main/java/A.java"] := by decide +kernel
  have hreports : [quotedError, quotedWarning].map Report.diagnostic =
      [⟨some "src/main/java/A.java", some 3, .error, "in B.java:7: error: ';' expected"⟩,
        ⟨some "src/main/java/A.java", some 4, .error, "12: warning: old"⟩] := by decide +kernel
  rw [← hnames, ← hreports]
  exact hcompile bareWorkshop rfl staged_stagedSourceDisk

end Buildwright.JavaCompiler
