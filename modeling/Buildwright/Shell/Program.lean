-- SUMMARY: Running programs of the system, and shells among them, in processes of their own.
import Buildwright.Shell.Builtin.Variables
import Buildwright.Shell.System
import Buildwright.Shell.Utility

/-!
# Running programs

A program runs in a process of its own: it sees the variables that are exported, and nothing that it
changes lasts but what it does to the disk, the channels and the time.
-/
namespace Buildwright.Shell

open Shell.Action

namespace Environment

/-- The environment of a program that is started. -/
def forProgram (e : Environment) (name : String) (arguments : List String) : Environment where
  name
  arguments
  bindings := (e.bindings.filter fun x => x.2.exported && x.2.value.isSome).map fun (x, v) =>
    (x, { v with constant := false })
  traps := e.traps.filter (·.2 == "")
  streams := e.streams
  mask := e.mask
  directory := e.directory

end Environment

namespace Program

/-! ## Shells -/

/-- The variables that a shell has from the beginning. -/
def shellVariables : List (String × String) :=
  [("IFS", String.ofList usualSeparators), ("OPTIND", "1"), ("PPID", "999"), ("PS1", "# "), ("PS2", "> "),
    ("PS4", "+ ")]

/-- Sets what a shell has from the beginning. -/
def prepareShell : Action Unit := do
  for (x, value) in shellVariables do setVariable x { value := some value }
  let d ← disk
  let named ← valueOf? "PWD"
  let fits := named.any fun p => Text.beginsWith "/" p &&
    (match d.resolve (pathOf p) with
    | .ok (place, _) => place == d.workingDirectory
    | .error _ => false)
  let directory :=
    if fits then named.getD "/" else Text.toBytewise ("/" ++ Text.joined "/" d.workingDirectory)
  setVariable "PWD" ⟨some directory, true, false⟩
  alter fun e => { e with directory, line := 0 }

/-- How a shell is called: whether the script is an argument, and whether it is the input. -/
structure Invocation where
  fromArgument : Bool := false
  fromInput : Bool := false

/-- Sets the options of a shell that letters stand for. -/
def shellLetters (value : Bool) (i : Invocation) : List Char → List String →
    Action (Invocation × List String)
  | [], rest => return (i, rest)
  | 'c' :: cs, rest => shellLetters value { i with fromArgument := true } cs rest
  | 's' :: cs, rest => shellLetters value { i with fromInput := true } cs rest
  | 'l' :: cs, rest | 'i' :: cs, rest => shellLetters value i cs rest
  | c :: cs, rest => do shellLetters value i cs (← Builtin.setLetters value [c] rest)

/-- Sets the options of a shell, from at most `n` arguments. -/
def shellOptions : Nat → Invocation → List String → Action (Invocation × List String)
  | 0, i, arguments => return (i, arguments)
  | n + 1, i, arguments => do
    match arguments with
    | [] => return (i, [])
    | a :: rest =>
      match a.toList with
      | ['-'] | ['-', '-'] => return (i, rest)
      | '-' :: cs => do
        let (i, rest) ← shellLetters true i cs rest
        shellOptions n i rest
      | '+' :: cs => do
        let (i, rest) ← shellLetters false i cs rest
        shellOptions n i rest
      | _ => return (i, a :: rest)

/-- Sets what a script is called and its arguments, and runs it. -/
def runScript (run : Command → Action Unit) (name : String) (arguments : List String) (isFile : Bool)
    (text : String) : Action Unit := do
  alter fun e => { e with name, arguments, line := 1 }
  evaluate run text isFile

/-- Runs a shell with arguments. -/
def runShell (run : Command → Action Unit) (name : String) (arguments : List String) : Action Unit :=
  upToExit (evaluate run) do
    prepareShell
    let (i, rest) ← shellOptions (arguments.length + 1) {} arguments
    match i.fromArgument, rest with
    | true, [] => mistake "-c requires an argument"
    | true, text :: others => runScript run (others.headD name) (others.drop 1) false text
    | false, file :: others =>
      if i.fromInput then runScript run name rest true (Text.bytewise (← takeInput))
      else
        match ← openToRead "No such file" file with
        | .error why => mistake ("cannot open " ++ file ++ ": " ++ why)
        | .ok channel => runScript run file others true (Text.bytewise (← takeAllFrom channel))
    | false, [] => runScript run name [] true (Text.bytewise (← takeInput))

/-! ## Programs -/

mutual

/-- Runs a program that is to be launched, at most `n` programs inside each other. The result is the signal
    that has ended it. -/
def runLaunch (run : Command → Action Unit) : Nat → System.Launch → Action (Option Nat)
  | 0, _ => throw .endless
  | n + 1, l => do
    let name := l.arguments.headD l.program
    let arguments := l.arguments.drop 1
    apart do
      alter (·.forProgram name arguments)
      if System.shells.contains l.program then runShell run name arguments
      else
        match Utility.named.lookup l.program with
        | some u => do finish (← u ⟨name, arguments, runNamed run n⟩)
        | none => finish 127

/-- Runs a program, looked for along the path. -/
def runNamed (run : Command → Action Unit) : Nat → List String → Action (Except OsError Nat)
  | 0, _ => throw .endless
  | n + 1, arguments => do
    let path := (← valueOf? "PATH").getD System.usualPath
    match System.launchNamed (← disk) true path arguments with
    | .ok l => do
      let _ ← runLaunch run n l
      return .ok (← environment).status
    | .error e => return .error e

end

/-- The number of programs that may run each other. -/
def mostPrograms : Nat := 200

/-- Runs a program for a shell, which tells what signal has ended it. -/
def launch (run : Command → Action Unit) (l : System.Launch) : Action Nat := do
  match (← runLaunch run mostPrograms l).bind Signal.description? with
  | some text => complain (text ++ "\n")
  | none => pure ()
  return (← environment).status

end Program
end Buildwright.Shell
