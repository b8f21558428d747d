-- SUMMARY: The program: a command is carried out on the workspace that the standard input describes.
import Buildwright.Cli.Program
import Buildwright.Cli.Workspace
import Buildwright.Shell.Process

/-!
# The program

The arguments name a command, and the standard input describes the workspace on which it is carried
out. The command line itself is `Cli.run`.
-/
namespace Buildwright

/-- Reads a stream to its end. -/
partial def readAll (input : IO.FS.Stream) (read : String) : IO String := do
  let line ← input.getLine
  if line.isEmpty then return read else readAll input (read ++ line)

/-- Writes what a run leaves behind to the two streams. -/
def report (o : Cli.Outcome) : IO UInt32 := do
  IO.print o.stdout
  IO.eprint o.stderr
  return o.exitCode.toUInt32

/-- Carries out a command on the workspace that the standard input describes. -/
def runProgram (arguments : List String) : IO UInt32 := do
  match Cli.Workspace.ofText (← readAll (← IO.getStdin) "") with
  | .ok w => report (Cli.run ⟨w.environment, Shell.runner none⟩ arguments w.moves w.disk)
  | .error e => do
    IO.eprintln e.message
    return Cli.failureCode.toUInt32

end Buildwright

/-- The program. -/
def main (arguments : List String) : IO UInt32 :=
  Buildwright.runProgram arguments
