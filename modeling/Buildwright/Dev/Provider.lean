-- SUMMARY: Compilation providers: who compiles changed files of an extension, and how.
import Buildwright.Build.Session
import Buildwright.Compile.JavaCompiler
import Buildwright.Dev.Staleness
import Buildwright.Generation.Generator

/-!
# Compilation providers

A provider compiles the changed files of one extension. The Java provider compiles sources and writes
the class files; a code generation provider turns its files into others first, and has the Java
provider compile the sources among them.
-/
namespace Buildwright

/-- The ways in which recompiling fails. -/
inductive RecompileError where
  /-- A file cannot be read or written. -/
  | io (path : Path) (cause : IoError)
  | generation (e : GenerationError)
  | compiler (e : CompileError)
  /-- The compiler finds errors. -/
  | compilation (summary : String)
  /-- Two providers are registered for one extension. -/
  | duplicateProvider (extension : String)
  deriving DecidableEq, Repr

/-- The wording of a failure. -/
def RecompileError.message : RecompileError → String
  | io path cause => "failed to access `" ++ path.text ++ "`: " ++ cause.message
  | generation e => e.message
  | compiler e => e.message
  | compilation summary => "compilation failed:\n" ++ summary
  | duplicateProvider extension =>
    "a provider for `" ++ extension ++ "` is already registered"

/-- What a provider has done: the files written, and the warnings. -/
structure ProviderOutput where
  written : List Path
  warnings : List Diagnostic
  deriving DecidableEq, Repr

/-- Compiles the files of one extension. -/
structure CompilationProvider where
  /-- The extension, with its dot. -/
  extension : String
  /-- Whether a file below a sources directory, last changed at the given time, has to be
      compiled. -/
  isStale : Disk → (resource sources classes : Path) → (extension : String) → (time : Nat) → Bool
  /-- Compiles files in a context. -/
  compile : SortedSet Path → CompileContext → EStateM RecompileError Session ProviderOutput

/-! ## Sources -/

/-- How sources are compiled, and what is assumed when their state cannot be told. -/
structure JavaProvider where
  compiler : Compiler
  policy : StalenessPolicy

namespace JavaProvider

/-- The name under which a source is staged: the names of its path with slashes between them. -/
def storeName (p : Path) : String :=
  Text.joined "/" p.names

/-- Stages one more source. -/
def stageFile (d : Disk) (staged : List String × Store) (file : Path) :
    Except RecompileError (List String × Store) :=
  match d.read file with
  | .ok content => .ok (staged.1 ++ [storeName file], staged.2.write (storeName file) content)
  | .error e => .error (.io file e)

/-- The names of sources in their order, and the store with their contents. -/
def stage (files : List Path) (d : Disk) : Except RecompileError (List String × Store) :=
  files.foldlM (stageFile d) ([], .empty)

/-- Compiles sources and writes the output below the output directory, which is part of the class
    path. -/
def compile (p : JavaProvider) (files : SortedSet Path) (ctx : CompileContext) :
    EStateM RecompileError Session ProviderOutput := do
  if files.isEmpty then return ⟨[], []⟩
  let (names, store) ← Session.look id (stage files.keys)
  let ctx := ctx.withClasspath [ctx.output]
  match ← Session.wrapping .compiler (Session.compile p.compiler names store ctx) with
  | .success target warnings =>
    Session.onDisk (.io ctx.output) (target.writeTo ctx.output)
    return ⟨target.names.map fun name => ctx.output.join ⟨name⟩, warnings⟩
  | .failure errors => throw (.compilation (CompilationOutcome.failure errors).summary)

/-- A Java provider in a form for developers. -/
def describe (p : JavaProvider) : String :=
  let policy :=
    match p.policy with
    | .assumeStale => "AssumeStale"
    | .assumeFresh => "AssumeFresh"
  "JavaCompilationProvider \x7b checker: StalenessChecker \x7b policy: " ++ policy ++ " \x7d, .. \x7d"

/-- The Java provider as a provider. -/
def toProvider (p : JavaProvider) : CompilationProvider where
  extension := ClassName.sourceSuffix
  isStale := p.policy.isStale
  compile := p.compile

end JavaProvider

/-! ## Files that code is generated from -/

/-- How files are turned into sources, and how those are compiled. -/
structure CodegenProvider where
  extension : String
  transform : AssetTransform
  appPackage : String
  projectRoot : Option Path
  policy : StalenessPolicy
  java : JavaProvider

namespace CodegenProvider

/-- The extension with exactly one leading dot. -/
def dotted (extension : String) : String :=
  "." ++ Text.dropLeading '.' extension

/-- Writes a generated file below a directory, and adds it to the sources if it is one. -/
def writeGenerated (output : Path) (sources : SortedSet Path) (f : GeneratedFile) :
    EStateM RecompileError Session (SortedSet Path) := do
  let path := output.join ⟨f.bareTarget⟩
  Session.onDisk (.io path) (Disk.writeWithDirectories path f.content)
  return if Text.endsWith ClassName.sourceSuffix f.bareTarget then sources.add path else sources

/-- Generates files below the output directory, and compiles the sources among them. -/
def compile (p : CodegenProvider) (files : SortedSet Path) (ctx : CompileContext) :
    EStateM RecompileError Session ProviderOutput := do
  let root := p.projectRoot.getD ctx.output
  let generationContext : GenerationContext := ⟨root, p.appPackage, true⟩
  let generated ← Session.look .generation (p.transform generationContext files.keys)
  let sources ← generated.foldlM (writeGenerated ctx.output) .empty
  p.java.compile sources ctx

/-- The code generation provider as a provider. -/
def toProvider (p : CodegenProvider) : CompilationProvider where
  extension := dotted p.extension
  isStale := p.policy.isStale
  compile := p.compile

end CodegenProvider
end Buildwright
