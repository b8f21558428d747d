-- SUMMARY: Compiling with the Java compiler: staging sources, running the command, and judging its output.
import Buildwright.Compile.Compiler
import Buildwright.Compile.CompilerOutput

/-!
# The Java compiler

Sources are written below a temporary directory, the Java compiler is run on them, and its class files
are read back. Success takes both an exit code of zero and output without errors; a failure without an
error in the output gets one that quotes the output.
-/
namespace Buildwright

/-- How the Java compiler is run. -/
structure JavaCompiler where
  program : Path
  release : Option String
  runner : CommandRunner

namespace JavaCompiler

/-- The entries of a class path with colons between them; none may hold a colon itself. -/
def classpathText (program : Path) (entries : List Path) : Except CompileError String :=
  if entries.any fun p => p.text.toList.contains ':' then
    .error (.commandFailed program.text
      "invalid classpath entry: path segment contains separator `:`")
  else .ok (Text.joined ":" (entries.map (·.text)))

/-- The arguments of a run. -/
def arguments (c : JavaCompiler) (sourceRoot outputRoot : Path) (names : List String)
    (ctx : CompileContext) : Except CompileError (List String) := do
  let classpath ←
    if ctx.classpath.isEmpty then .ok []
    else (classpathText c.program ctx.classpath.keys).map fun text => ["-cp", text]
  let release :=
    match c.release with
    | some release => ["--release", release]
    | none => []
  .ok (["-d", outputRoot.text, "-encoding", "UTF-8"] ++ classpath ++ release ++
    names.map fun name => (sourceRoot.join ⟨name⟩).text)

/-- The name of a source in a diagnostic: its path from the directory of the sources, if it is below
    it. -/
def relativeName (sourceRoot : Path) (file : String) : String :=
  match (Path.mk file).relativeTo? sourceRoot with
  | some relative => relative.slashed
  | none => file

/-- The diagnostics of an output, with the names of sources as they were staged. -/
def diagnosticsOf (sourceRoot : Path) (output : CommandOutput) : List Diagnostic :=
  (CompilerOutput.diagnostics output.combined).map fun d =>
    { d with file := d.file.map (relativeName sourceRoot) }

/-- An exit code, or its absence, as a message shows it. -/
def showExitCode : Option Int → String
  | some code => "Some(" ++ toString code ++ ")"
  | none => "None"

/-- The error that stands for a failed run without errors in its output. -/
def unexplained (output : CommandOutput) : Diagnostic :=
  .ofError ("javac exited with code " ++ showExitCode output.exitCode ++ ": " ++
    Text.trim output.combined)

/-- What the diagnostics of a run amount to: the run fails for good when it was killed and said
    nothing, and gains an error when it failed and named none. -/
def judge (command : String) (output : CommandOutput) (ds : List Diagnostic) :
    Except CompileError (List Diagnostic) :=
  if output.isSuccess || ds.any (·.isError) then .ok ds
  else if output.exitCode = none && Text.trim output.combined = "" then
    .error (.commandFailed command "terminated without output")
  else .ok (ds ++ [unexplained output])

/-- A result that may be a failure, as a computation in the workshop. -/
def orFail {α : Type} : Except CompileError α → EStateM CompileError Workshop α
  | .ok a => pure a
  | .error e => throw e

/-- Where the sources are written in a temporary directory. -/
def sourceRoot (work : Path) : Path :=
  work.join ⟨"src"⟩

/-- Where the class files are expected in a temporary directory. -/
def outputRoot (work : Path) : Path :=
  work.join ⟨"classes"⟩

/-- Compiles in a temporary directory. -/
def compileIn (c : JavaCompiler) (names : List String) (sources : Store) (ctx : CompileContext)
    (work : Path) : EStateM CompileError Workshop CompilationOutcome := do
  Workshop.onDisk (sources.writeTo (sourceRoot work))
  Workshop.onDisk (Disk.createDirectories (outputRoot work))
  let arguments ← orFail (c.arguments (sourceRoot work) (outputRoot work) names ctx)
  Workshop.note work c.program arguments
  let output ← Workshop.onDisk (c.runner work c.program arguments)
  let ds ← orFail
    (judge (showCommand c.program arguments) output (diagnosticsOf (sourceRoot work) output))
  let target ←
    if ds.any (·.isError) then pure Store.empty
    else Workshop.onDisk (Disk.look (Store.loadFrom · (outputRoot work) "class"))
  return .ofDiagnostics target ds

/-- Fails for the name of a source that is missing. -/
def requireSource (sources : Store) (name : String) : EStateM CompileError Workshop Unit :=
  match sources.read name with
  | .ok _ => pure ()
  | .error e => throw (.store e)

/-- The name that temporary directories begin with. -/
def workLabel : String := "javac-work-"

/-- The Java compiler as a compiler. A missing source is reported before anything is written. -/
def toCompiler (c : JavaCompiler) : Compiler where
  name := c.program.text
  compile names sources ctx := do
    names.forM (requireSource sources)
    Workshop.withTemporary workLabel (c.compileIn names sources ctx)

end JavaCompiler
end Buildwright
