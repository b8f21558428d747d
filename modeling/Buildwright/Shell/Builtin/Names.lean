-- SUMMARY: Programs of the shell that tell what names stand for, and that give names a meaning.
import Buildwright.Shell.Builtin.Variables
import Buildwright.Shell.System

/-!
# What names stand for

A name may be a reserved word, an alias, a function, a program of the shell, or a program on the disk.
-/
namespace Buildwright.Shell.Builtin

open Shell.Action

/-- What a name stands for where a command begins. -/
inductive Meaning where
  | keyword
  | alias (text : String)
  | function
  | builtin (isSpecial : Bool)
  /-- A program at a path; `known` tells whether it has been run. -/
  | program (path : String) (known : Bool)
  | nothing

/-- The path along which programs are looked for. -/
def programPath : Action String := do
  return (← valueOf? "PATH").getD ""

/-- What a name stands for. -/
def meaningOf (builtins : List (String × Builtin)) (name : String) : Action Meaning := do
  let e ← environment
  if Token.reservedWords.contains name then return .keyword
  match e.aliases.lookup name with
  | some text => return .alias text
  | none => pure ()
  if (e.functions.lookup name).isSome then return .function
  match builtins.lookup name with
  | some b => return .builtin b.isSpecial
  | none => pure ()
  let d ← disk
  if name.toList.contains '/' then
    return match d.resolve (pathOf name) with
    | .ok _ => .program name false
    | .error _ => .nothing
  match e.located.lookup name with
  | some p => return .program p true
  | none =>
    match System.find? d (← programPath) name with
    | some p => return .program p false
    | none => return .nothing

/-- Writes what a name stands for in words, or that it stands for nothing. -/
def describe (builtins : List (String × Builtin)) (name : String) : Action Nat := do
  let m ← meaningOf builtins name
  let text :=
    match m with
    | .keyword => " is a shell keyword"
    | .alias text => " is an alias for " ++ text
    | .function => " is a shell function"
    | .builtin true => " is a special shell builtin"
    | .builtin false => " is a shell builtin"
    | .program p true => " is a tracked alias for " ++ p
    | .program p false => " is " ++ p
    | .nothing => ": not found"
  say (name ++ text ++ "\n")
  return match m with
  | .nothing => 127
  | _ => 0

/-- An alias as a command that gives it its meaning. -/
def aliasText (name text : String) : String := name ++ "=" ++ quotedWord text

/-- Writes by what a name is called. -/
def locate (builtins : List (String × Builtin)) (name : String) : Action Nat := do
  match ← meaningOf builtins name with
  | .nothing => return 127
  | .alias text => say ("alias " ++ aliasText name text ++ "\n")
  | .program p _ => say (p ++ "\n")
  | _ => say (name ++ "\n")
  return 0

/-- Describes names. -/
def typeCommand (builtins : List (String × Builtin)) : Builtin := plain fun arguments => do
  arguments.foldlM (fun status name => return max status (← describe builtins name)) 0

/-- What the program is asked that runs another one without looking for functions. -/
def command (builtins : List (String × Builtin)) : Builtin := plain fun arguments => do
  let (given, others) ← options "pvV" arguments
  match others, given.any (·.1 == 'V'), given.any (·.1 == 'v') with
  | name :: _, true, _ => describe builtins name
  | name :: _, _, true => locate builtins name
  | _, _, _ => return 0

/-- Remembers where programs are, or forgets it. -/
def hash : Builtin := plain fun arguments => do
  let (given, names) ← options "rv" arguments
  if given.any (·.1 == 'r') then
    alter fun e => { e with located := [] }
    return 0
  if names.isEmpty then
    say (String.join ((← environment).located.map fun x => x.2 ++ "\n"))
  names.foldlM (fun status name => do
    match System.find? (← disk) (← programPath) name with
    | some p =>
      alter fun e => { e with located := (name, p) :: e.located.filter (·.1 != name) }
      return status
    | none =>
      warn (name ++ ": not found")
      return 1) 0

/-! ## Aliases -/

/-- The place of an alias among all that are shown. -/
def aliasRank (name : String) : Nat :=
  let first := (name.toList.head?.map Char.toNat).getD 0
  (name.toList.foldl (fun n c => n + c.toNat) (first * 16)) % 39

/-- Gives words the meaning of texts, or writes their meaning. -/
def aliasCommand : Builtin := plain fun arguments => do
  if arguments.isEmpty then
    let all := (← environment).aliases.mergeSort fun a b => aliasRank a.1 ≤ aliasRank b.1
    say (String.join (all.map fun x => aliasText x.1 x.2 ++ "\n"))
  arguments.foldlM (fun status a => do
    match a.toList, assignment a with
    | c :: _, (name, some text) =>
      if c != '=' then
        alter fun e =>
          if e.aliases.any (·.1 == name) then
            { e with aliases := e.aliases.map fun x => if x.1 == name then (name, text) else x }
          else { e with aliases := e.aliases ++ [(name, text)] }
        return status
      else shown a status
    | _, _ => shown a status) 0
where
  /-- Writes the meaning of a word. -/
  shown (name : String) (status : Nat) : Action Nat := do
    match (← environment).aliases.lookup name with
    | some text =>
      say (aliasText name text ++ "\n")
      return status
    | none =>
      complain ("alias: " ++ name ++ " not found\n")
      return 1

/-- Takes their meaning from words. -/
def unalias : Builtin := plain fun arguments => do
  let (given, names) ← options "a" arguments
  if !given.isEmpty then
    alter fun e => { e with aliases := [] }
    return 0
  names.foldlM (fun status name => do
    if (← environment).aliases.any (·.1 == name) then
      alter fun e => { e with aliases := e.aliases.filter (·.1 != name) }
      return status
    else
      complain ("unalias: " ++ name ++ " not found\n")
      return 1) 0

end Buildwright.Shell.Builtin
