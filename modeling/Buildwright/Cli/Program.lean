-- SUMMARY: The command line as a whole: from arguments to an exit code and two streams.
import Buildwright.Cli.Arguments
import Buildwright.Cli.Build
import Buildwright.Cli.Watch

/-!
# The command line

`Cli.run` carries out what arguments ask for. It is a function from the disk before to the disk
after, with an exit code and what is written to the two streams.
-/
namespace Buildwright.Cli

/-! ## Staleness -/

/-- Tells whether the compiled form of a file is out of date, and gives the exit code. -/
def stale (file sources classes : Path) (policy : StalenessPolicy) (json : Bool) : CommandM Nat := do
  let extension ←
    match file.dottedExtension? with
    | some extension => pure extension
    | none => throw [file.text ++ " has no file extension"]
  let d ← CommandM.disk
  let time ← CommandM.orFail ("failed to read modification time of " ++ file.text) ioCauses
    (d.modifiedMillis file)
  let state := policy.check d file sources classes extension time
  if json then
    CommandM.print
      (Json.object [("file", .string file.text), ("state", .string state.text)]).text
  else CommandM.print (if state = .stale then "stale" else "fresh")
  return 0

/-! ## Runs -/

/-- What a run leaves behind. -/
structure Outcome where
  exitCode : Nat
  stdout : String
  stderr : String
  disk : Disk

/-- The exit code of a run that fails. -/
def failureCode : Nat := 2

/-- The name and the version of the program. -/
def versionText : String := "kiln 0.1.0"

/-- How the program is called. -/
def usageText : String :=
  "Usage: kiln build <CLASSES_DIR> [--json]\n" ++
  "       kiln stale <FILE> --sources <SOURCES> --classes <CLASSES> [--fail-mode <MODE>] [--json]\n" ++
  "       kiln watch <PROJECT> [--max-events <N>]"

/-- Carries out a request. -/
def perform (around : Surroundings) (moves : List Move) : Request → CommandM Nat
  | .build classes json => build around classes json
  | .stale file sources classes policy json => stale file sources classes policy json
  | .watch project mostEvents => watch around project mostEvents moves

/-- What a terminal has become at the end of a run. -/
def Terminal.outcome (t : Terminal) (exitCode : Nat) : Outcome :=
  ⟨exitCode, t.stdout, t.stderr, t.session.disk⟩

/-- Carries out what arguments ask for, on a disk on which files move while a project is watched. -/
def run (around : Surroundings) (arguments : List String) (moves : List Move) (d : Disk) : Outcome :=
  match request arguments with
  | .error .help => ⟨0, usageText ++ "\n", "", d⟩
  | .error .version => ⟨0, versionText ++ "\n", "", d⟩
  | .error .misuse => ⟨failureCode, "", usageText ++ "\n", d⟩
  | .ok r =>
    match perform around moves r ⟨Session.start d, "", ""⟩ with
    | .ok code t => t.outcome code
    | .error c t => { t.outcome failureCode with stderr := t.stderr ++ Complaint.text c ++ "\n" }

end Buildwright.Cli
