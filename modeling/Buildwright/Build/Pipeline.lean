-- SUMMARY: The build pipeline: generate, compile, register and publish.
import Buildwright.Build.Session
import Buildwright.Generation.Dump
import Buildwright.Generation.Pool
import Buildwright.Project

/-!
# The build pipeline

A build generates files, copies them for debugging if asked to, compiles the sources among them, and
publishes the outcome. Nothing is published before everything that can fail has gone well.
-/
namespace Buildwright

/-- The ways in which a build fails. -/
inductive BuildError where
  | generation (e : GenerationError)
  /-- The compiler finds errors. -/
  | compilation (summary : String)
  /-- The compiler reports success and writes nothing. -/
  | emptyOutput (sources : Nat)
  | compiler (e : CompileError)
  deriving DecidableEq, Repr

/-- The wording of a failure. -/
def BuildError.message : BuildError → String
  | generation e => e.message
  | compilation summary => "compilation failed:\n" ++ summary
  | emptyOutput sources =>
    "compiler produced no output for " ++ toString sources ++ " staged sources"
  | compiler e => e.message

/-- What a build has done. -/
structure BuildReport where
  projectRoot : Path
  generatedFiles : Nat
  debugFilesWritten : Nat
  registration : Registration
  watchedAssets : List Path
  warnings : List Diagnostic
  deriving DecidableEq, Repr

namespace BuildReport

/-- The report of a build that has generated nothing. -/
def ofNothing (root : Path) : BuildReport := ⟨root, 0, 0, .empty, [], []⟩

/-- Whether a build has generated nothing. -/
def isEmpty (r : BuildReport) : Bool :=
  r.generatedFiles = 0

end BuildReport

/-- A build: its generators, its compiler, and the choices of the project. -/
structure BuildPipeline where
  pool : GeneratorPool
  compiler : Compiler
  restPolicy : RestPolicy
  debugDump : DebugDump
  appPackage : String
  dependencyInjection : Bool
  classpath : List Path

namespace BuildPipeline

/-- The feature that every build with output announces. -/
def featureName : String := "kie"

/-- The context in which generators run. -/
def generationContext (p : BuildPipeline) (root : Path) : GenerationContext :=
  ⟨root, p.appPackage, p.dependencyInjection⟩

/-- Copies the files of a batch for debugging, and counts the copies. -/
def dump (p : BuildPipeline) (b : Batch) : EStateM BuildError Session Nat := fun s =>
  let (written, d) := p.debugDump.writeAll b.files s.disk
  .ok written { s with disk := d }

/-- Compiles staged sources: the output and the warnings. An output without any entry is a
    failure. -/
def compileStaged (p : BuildPipeline) (classes : Path) (staged : StagedSources) :
    EStateM BuildError Session (Store × List Diagnostic) := do
  let ctx := CompileContext.make classes p.classpath
  match ← Session.wrapping .compiler (Session.compile p.compiler staged.names staged.store ctx) with
  | .success target warnings =>
    if target.isEmpty then throw (.emptyOutput staged.names.length) else return (target, warnings)
  | .failure errors => throw (.compilation (CompilationOutcome.failure errors).summary)

/-- Compiles the sources of a batch, if it has any. -/
def compileBatch (p : BuildPipeline) (classes : Path) (b : Batch) :
    EStateM BuildError Session (Store × List Diagnostic) :=
  let staged := b.stage
  if staged.names = [] then pure (.empty, []) else p.compileStaged classes staged

/-- The publications of a build, in order. -/
def publications (p : BuildPipeline) (b : Batch) (target : Store) (watched : List Path) :
    List Publication :=
  Registration.publications p.restPolicy target b.files b.bootstrapClass ++
    watched.map .hotDeploymentWatch ++ [.feature featureName]

/-- Runs a build for a classes directory. -/
def run (p : BuildPipeline) (classes : Path) : EStateM BuildError Session BuildReport := do
  let root := Project.rootOf classes
  let ctx := p.generationContext root
  let batch ← Session.look .generation (p.pool.generate ctx)
  if batch.files = [] then return .ofNothing root
  let debugFilesWritten ← p.dump batch
  let (target, warnings) ← p.compileBatch classes batch
  let watchedAssets ← Session.look .generation (p.pool.watchedAssets ctx)
  Session.publish (p.publications batch target watchedAssets)
  return {
    projectRoot := root
    generatedFiles := batch.files.length
    debugFilesWritten
    registration := .ofBatch target batch.files batch.bootstrapClass
    watchedAssets
    warnings }

end BuildPipeline
end Buildwright
