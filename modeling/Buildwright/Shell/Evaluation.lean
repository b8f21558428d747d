-- SUMMARY: Running texts that are scripts, and what programs of the shell have in common.
import Buildwright.Shell.Jobs
import Buildwright.Shell.Script

/-!
# Evaluation

A script is read and run line by line, so that what a line says holds for the way in which the next is
read. A text that is no script is a mistake, up to which the script is run.
-/
namespace Buildwright.Shell

open Shell.Action

/-! ## Scripts -/

/-- Reports that a text is no script. -/
def reportFault {α : Type} (f : Fault) : Action α := do
  alter fun e => { e with line := f.line }
  mistake ("Syntax error: " ++ f.message)

/-- Writes the lines that begin between two points of a script, if the script asks for that. -/
def showText (before after : Source) : Action Unit := do
  if ← isSet 'v' then
    let passed := before.rest.take (before.rest.length - after.rest.length)
    let cut :=
      if passed.getLast? == some '\n' then []
      else after.rest.takeWhile (· != '\n') ++ (after.rest.dropWhile (· != '\n')).take 1
    complain (String.ofList (passed ++ cut))

/-- Runs the rest of a script of at most `n` commands; `any` tells whether a command has been run, and
    `isFile` whether the text may be shown. -/
def runSource (run : Command → Action Unit) (isFile : Bool) : Nat → Bool → Source → Action Unit
  | 0, _, _ => throw .endless
  | n + 1, any, s => do
    let e ← environment
    let shown (after : Source) : Action Unit := if isFile then showText s after else pure ()
    match Parser.next? { s with aliases := e.aliases } with
    | .error f after => do
      shown after
      reportFault f
    | .ok none after => do
      shown after
      unless any do finish 0
    | .ok (some c) after => do
      shown after
      match c with
      | .none => runSource run isFile n any after
      | c => do
        run c
        runSource run isFile n true after

/-- Runs a text as a script; its lines have their own numbers. -/
def evaluate (run : Command → Action Unit) (text : String) (isFile : Bool := false) : Action Unit := do
  let cs := text.toList
  runSource run isFile (cs.length + 2) false { rest := cs }

/-- Runs what a job or a subshell consists of. -/
def runToExit (run : Command → Action Unit) (c : Command) : Action Unit :=
  upToExit (evaluate run) (run c)

/-! ## Programs of the shell -/

/-- A program of the shell itself: what it does with its arguments, whether its mistakes end the script
    and its variables last, and whether its arguments may be assignments. -/
structure Builtin where
  run : (Command → Action Unit) → List String → Action Nat
  isSpecial : Bool := false
  assigns : Bool := false

namespace Builtin

/-- A program that runs no commands. -/
def plain (f : List String → Action Nat) : Builtin := ⟨fun _ => f, false, false⟩

/-- A program that runs no commands and whose mistakes end the script. -/
def special (f : List String → Action Nat) : Builtin := ⟨fun _ => f, true, false⟩

/-- The options that letters in arguments stand for, with their values, and the other arguments. -/
def optionsFrom (letters : List Char) : Nat → List String → Action (List (Char × String) × List String)
  | 0, arguments => return ([], arguments)
  | n + 1, arguments => do
    match arguments with
    | "--" :: rest => return ([], rest)
    | a :: rest =>
      match a.toList with
      | '-' :: c :: cs => do
        if c == ':' || !letters.contains c then mistake ("Illegal option -" ++ String.singleton c)
        let takesValue := (letters.dropWhile (· != c)).drop 1 |>.head? |> (· == some ':')
        if takesValue then
          match cs, rest with
          | [], [] => mistake ("No arg for -" ++ String.singleton c ++ " option")
          | [], value :: rest => do
            let (found, others) ← optionsFrom letters n rest
            return ((c, value) :: found, others)
          | _, _ => do
            let (found, others) ← optionsFrom letters n rest
            return ((c, String.ofList cs) :: found, others)
        else
          let rest := if cs.isEmpty then rest else String.ofList ('-' :: cs) :: rest
          let (found, others) ← optionsFrom letters n rest
          return ((c, "") :: found, others)
      | _ => return ([], arguments)
    | [] => return ([], [])

/-- The options among arguments: `letters` says which there are, and a colon behind a letter that it has
    a value. -/
def options (letters : String) (arguments : List String) :
    Action (List (Char × String) × List String) :=
  optionsFrom letters.toList ((arguments.map (·.length + 1)).foldl (· + ·) 1) arguments

/-- The arguments of a program without options. -/
def operands (arguments : List String) : Action (List String) := do
  return (← options "" arguments).2

/-- The pieces of a text between quotes, of which runs stand together. -/
def quoteRuns (cs : List Char) : List (List Char) :=
  cs.foldr (fun c runs =>
    match runs with
    | (d :: ds) :: rest =>
      if (c == '\'') == (d == '\'') then (c :: d :: ds) :: rest else [c] :: (d :: ds) :: rest
    | _ => [[c]]) []

/-- A text in quotes, so that the shell reads it as a word. -/
def quotedWord (s : String) : String :=
  let runs := (quoteRuns s.toList).map fun run =>
    if run.head? == some '\'' then "\x22" ++ String.ofList run ++ "\x22"
    else "'" ++ String.ofList run ++ "'"
  if s == "" || s.toList.head? == some '\'' then "''" ++ String.join runs else String.join runs

/-- Checks that a text is a name of a variable. -/
def checkName (x : String) : Action Unit := do
  unless Word.isName x do mistake (x ++ ": bad variable name")

/-- The parts of an argument of the form `name=value`. -/
def assignment (a : String) : String × Option String :=
  match Text.cut? ['='] a.toList with
  | some (x, value) => (String.ofList x, some (String.ofList value))
  | none => (a, none)

end Builtin
end Buildwright.Shell
