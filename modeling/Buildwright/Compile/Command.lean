-- SUMMARY: Running a program: the command, its output, and who runs it.
import Buildwright.Disk.Write

/-!
# Commands

A command is a program with arguments, run in a directory. What runs it is a `CommandRunner`, a
computation on the disk.
-/
namespace Buildwright

/-- What a program leaves behind: an exit code, unless it was killed, and its two streams. -/
structure CommandOutput where
  exitCode : Option Int
  stdout : String
  stderr : String
  deriving DecidableEq, Repr

namespace CommandOutput

/-- Whether the program ended well. -/
def isSuccess (o : CommandOutput) : Bool :=
  o.exitCode = some 0

/-- Both streams, the error stream last and on a line of its own. -/
def combined (o : CommandOutput) : String :=
  if o.stderr = "" then o.stdout
  else if o.stdout = "" then o.stderr
  else if Text.endsWith "\n" o.stdout then o.stdout ++ o.stderr
  else o.stdout ++ "\n" ++ o.stderr

end CommandOutput

/-- Runs a program with arguments in a directory. -/
abbrev CommandRunner := Path → Path → List String → DiskM CommandOutput

/-- A command as a message shows it. -/
def showCommand (program : Path) (arguments : List String) : String :=
  Text.joined " " (program.text :: arguments)

end Buildwright
