-- SUMMARY: Programs of the shell that leave loops, functions and scripts, and that run texts.
import Buildwright.Shell.Builtin.Variables
import Buildwright.Shell.Streams
import Buildwright.Shell.System

/-!
# Leaving and running

Programs that leave what is run, run their arguments or a file as a script, or replace the streams of
the script.
-/
namespace Buildwright.Shell.Builtin

open Shell.Action

/-- The number in the first argument, if there is an argument. -/
def firstNumber? (arguments : List String) : Action (Option Nat) := do
  match arguments with
  | a :: _ => return some (← number a)
  | [] => return none

/-- Ends the script. Without a number, the action of a trap ends it with the exit code before it. -/
def exitCommand : Builtin := special fun arguments => do
  match ← firstNumber? arguments with
  | some n => finish (n % 256)
  | none =>
    let e ← environment
    finish (e.trapped.getD e.status)
  throw .exit

/-- Ends a function or a sourced script. -/
def returnCommand : Builtin := special fun arguments => do
  match ← firstNumber? arguments with
  | some n => finish n
  | none => pure ()
  throw .back

/-- Leaves a number of loops, of which there may be fewer. -/
def leaving (jump : Nat → Jump) : Builtin := special fun arguments => do
  let n := (← firstNumber? arguments).getD 1
  if n == 0 then noNumber (arguments.headD "")
  let loops := (← environment).loops
  finish 0
  if loops == 0 then return 0
  throw (jump (min n loops))

/-- Runs its arguments as a script. -/
def eval : Builtin :=
  ⟨fun run arguments => do
    if arguments.isEmpty then return 0
    evaluate run (Text.joined " " arguments)
    return (← environment).status, true, false⟩

/-- Runs a computation within a function or a sourced script, which a jump may leave. -/
def withCall (m : Action Unit) : Action Unit :=
  tryCatch m fun
    | .back => pure ()
    | j => throw j

/-- The path of the script with a name. -/
def scriptPath (name : String) : Action String := do
  if name.toList.contains '/' then return name
  let d ← disk
  let path := (← valueOf? "PATH").getD System.usualPath
  match (System.candidates path name).find? fun p => d.isFile (pathOf p) with
  | some p => return p
  | none => mistake (name ++ ": not found")

/-- Runs a file as a part of the script. -/
def dot : Builtin :=
  ⟨fun run arguments => do
    match ← operands arguments with
    | [] => return 0
    | name :: _ =>
      let p ← scriptPath name
      match ← openToRead "No such file" p with
      | .error why => mistake ("cannot open " ++ p ++ ": " ++ why)
      | .ok channel =>
        let text := Text.bytewise (← takeAllFrom channel)
        let asked := (← environment).asked
        alter fun e => { e with program := p, asked := false }
        withCall (evaluate run text true)
        alter fun e => { e with asked }
        return (← environment).status, true, false⟩

end Buildwright.Shell.Builtin
