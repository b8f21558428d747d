-- SUMMARY: Compilers, the context they compile in, and the ways in which they fail.
import Buildwright.Compile.Command
import Buildwright.Compile.Diagnostic

/-!
# Compilers

A compiler takes the names of sources in a store and gives an outcome, or fails to give one. It works
in a workshop: the disk, and the record of the commands that were run.
-/
namespace Buildwright

/-- What sources are compiled against, and where the output of the project lies. -/
structure CompileContext where
  classpath : SortedSet Path
  output : Path
  deriving DecidableEq

namespace CompileContext

/-- The context with more entries in its class path. -/
def withClasspath (ctx : CompileContext) (entries : List Path) : CompileContext :=
  { ctx with classpath := entries.foldl SortedMap.add ctx.classpath }

/-- The context with an output directory and class path entries. -/
def make (output : Path) (entries : List Path) : CompileContext :=
  (CompileContext.mk .empty output).withClasspath entries

end CompileContext

/-- The ways in which a compiler gives no outcome. -/
inductive CompileError where
  /-- A file or a program cannot be reached. -/
  | io (e : IoError)
  /-- A source is missing. -/
  | store (e : StoreError)
  /-- A command is not a valid one, or ends without a word. -/
  | commandFailed (command message : String)
  deriving DecidableEq, Repr

/-- The wording of a failure. -/
def CompileError.message : CompileError → String
  | io e => e.message
  | store e => e.message
  | commandFailed command message =>
    "compiler command `" ++ command ++ "` failed: " ++ message

/-- A command that was run, and the disk on which it was. -/
structure CommandRecord where
  directory : Path
  program : Path
  arguments : List String
  before : Disk

/-- What a compiler works with: the disk, and the commands run so far. -/
structure Workshop where
  disk : Disk
  commands : List CommandRecord

namespace Workshop

/-- A computation on the disk as one in the workshop. -/
def onDisk {α : Type} (m : DiskM α) : EStateM CompileError Workshop α := fun w =>
  match m w.disk with
  | .ok a d => .ok a { w with disk := d }
  | .error e d => .error (.io e) { w with disk := d }

/-- Notes a command that is about to be run. -/
def note (directory program : Path) (arguments : List String) : EStateM CompileError Workshop Unit :=
  fun w => .ok () { w with commands := w.commands ++ [⟨directory, program, arguments, w.disk⟩] }

/-- Runs a computation with a new temporary directory, which is removed afterwards whatever the
    computation does. -/
def withTemporary {α : Type} (label : String) (f : Path → EStateM CompileError Workshop α) :
    EStateM CompileError Workshop α := fun w =>
  let work := w.disk.freeTemporary label
  match onDisk (Disk.change (·.createDirectory work)) w with
  | .error e w' => .error e w'
  | .ok () w' =>
    match f work w' with
    | .ok a w'' => .ok a { w'' with disk := w''.disk.removeAll work }
    | .error e w'' => .error e { w'' with disk := w''.disk.removeAll work }

end Workshop

/-- Compiles named sources of a store in a context. -/
structure Compiler where
  name : String
  compile : List String → Store → CompileContext → EStateM CompileError Workshop CompilationOutcome

/-- A call of a compiler, with the commands that it ran. -/
structure CompilerCall where
  compiler : String
  names : List String
  sources : Store
  context : CompileContext
  commands : List CommandRecord

end Buildwright
