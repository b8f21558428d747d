-- SUMMARY: Running programs as commands, with a limit on their time.
import Buildwright.Compile.Command
import Buildwright.Shell.Run

/-!
# Processes

A program is looked for on the disk, on which the programs of the system lie too while it runs. A program
that cannot be started is an error, and so is one that runs for too long.
-/
namespace Buildwright.Shell

open Shell.Action

/-- The variables that programs see from the beginning. -/
def initialVariables : List (String × String) :=
  [("HOME", "/root"), ("PATH", System.usualPath)]

/-- The numbers of the channels of the standard streams. -/
def inputChannel : Nat := 0
@[inherit_doc inputChannel] def outputChannel : Nat := 1
@[inherit_doc inputChannel] def errorChannel : Nat := 2

/-- The state in which a program starts in a directory of a disk. -/
def State.start (d : Disk) (directory : Location) (deadline : Option Nat) : State where
  disk := { d with workingDirectory := directory }
  channels :=
    #[.nowhere, .pipe ByteArray.empty 0 false none, .pipe ByteArray.empty 0 false none]
  environment :=
    { name := ""
      arguments := []
      bindings := initialVariables.map fun (x, value) => (x, ⟨some value, true, false⟩)
      streams := [(0, inputChannel), (1, outputChannel), (2, errorChannel)]
      directory := Text.toBytewise ("/" ++ Text.joined "/" directory) }
  deadline
  budget := (deadline.map commandsIn).getD mostCommands

/-- The milliseconds between two looks at a running program. -/
def pollInterval : Nat := 20

/-- The time at which the end of a program is seen. -/
def seenAt (elapsed : Nat) : Nat :=
  (elapsed / pollInterval + 1) * pollInterval

/-- The directory that a path leads to. -/
def directoryAt (d : Disk) (p : Path) : Except OsError Location :=
  match d.resolve p with
  | .ok (place, .directory _) => .ok place
  | .ok _ => .error .notADirectory
  | .error e => .error e

/-- How a program ends. -/
structure Ending where
  /-- Its exit code, unless a signal has ended it. -/
  exitCode : Option Nat
  /-- The milliseconds after which it has ended. -/
  elapsed : Nat

/-- Runs a program to its end, and waits for what it has left running and still writes to its streams. -/
def runToEnd (l : System.Launch) : Action Ending := do
  let body := run mostNested
  let signal ← Program.runLaunch body Program.mostPrograms l
  let s ← get
  set { s with deadline := none }
  waitForWriters (runToExit body) outputChannel
  waitForWriters (runToExit body) errorChannel
  let status := s.environment.status
  return ⟨if signal.isSome then none else some status, s.elapsed⟩

/-- Runs programs for at most a number of milliseconds. -/
def runner (limit : Option Nat) : CommandRunner := fun directory program arguments => do
  let command := showCommand program arguments
  let before ← get
  let d := System.install before
  let start : Except OsError (Location × System.Launch) := do
    let place ← directoryAt d directory
    let inside := { d with workingDirectory := place }
    let words := (program.text :: arguments).map Text.toBytewise
    return (place, ← System.launchNamed inside false System.usualPath words)
  match start with
  | .error e => throw (.notStarted command e)
  | .ok (place, l) =>
    let (s, ending) :=
      match runToEnd l (State.start d place limit) with
      | .ok ending s => (s, some ending)
      | .error _ s => (s, none)
    set { System.uninstall before s.disk with workingDirectory := before.workingDirectory }
    match limit with
    | some n => if ending.all fun e => n ≤ seenAt e.elapsed then throw (.timedOut command n)
    | none => pure ()
    let text (n : Nat) := Text.decodeLossy (readable s ((s.channels[n]?).getD .nowhere)).1
    return ⟨(ending.bind (·.exitCode)).map Int.ofNat, text outputChannel, text errorChannel⟩

end Buildwright.Shell
