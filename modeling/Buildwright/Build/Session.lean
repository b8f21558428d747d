-- SUMMARY: The state that builds and recompilations work in, with the record of what they did.
import Buildwright.Build.Publication
import Buildwright.Compile.Compiler

/-!
# Sessions

A session holds the disk, the calls that were made of compilers, and what was published. Every call
goes through `Session.compile`, so that the record is complete.
-/
namespace Buildwright

/-- The state of a build. -/
structure Session where
  disk : Disk
  calls : List CompilerCall
  published : List Publication

namespace Session

/-- The session that starts on a disk. -/
def start (d : Disk) : Session := ⟨d, [], []⟩

/-- The session after a call of a compiler that left a workshop behind. -/
def afterCall (s : Session) (c : Compiler) (names : List String) (sources : Store)
    (ctx : CompileContext) (w : Workshop) : Session :=
  { s with
    disk := w.disk
    calls := s.calls ++ [CompilerCall.mk c.name names sources ctx w.commands] }

/-- Calls a compiler, and records the call. -/
def compile (c : Compiler) (names : List String) (sources : Store) (ctx : CompileContext) :
    EStateM CompileError Session CompilationOutcome := fun s =>
  match c.compile names sources ctx ⟨s.disk, []⟩ with
  | .ok o w => .ok o (s.afterCall c names sources ctx w)
  | .error e w => .error e (s.afterCall c names sources ctx w)

/-- Publishes in the given order. -/
def publish {ε : Type} (ps : List Publication) : EStateM ε Session Unit := fun s =>
  .ok () { s with published := s.published ++ ps }

/-- Looks at the disk, with failures of another kind. -/
def look {ε ε' α : Type} (wrap : ε → ε') (f : Disk → Except ε α) : EStateM ε' Session α := fun s =>
  match f s.disk with
  | .ok a => .ok a s
  | .error e => .error (wrap e) s

/-- A computation on the disk, with failures of another kind. -/
def onDisk {ε' α : Type} (wrap : IoError → ε') (m : DiskM α) : EStateM ε' Session α := fun s =>
  match m s.disk with
  | .ok a d => .ok a { s with disk := d }
  | .error e d => .error (wrap e) { s with disk := d }

/-- A computation with failures of another kind. -/
def wrapping {ε ε' α : Type} (wrap : ε → ε') (m : EStateM ε Session α) : EStateM ε' Session α :=
  fun s =>
    match m s with
    | .ok a s' => .ok a s'
    | .error e s' => .error (wrap e) s'

end Session
end Buildwright
