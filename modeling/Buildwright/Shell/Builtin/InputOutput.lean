-- SUMMARY: Programs of the shell that write their arguments or read lines into variables, and conditions.
import Buildwright.Shell.Builtin.Variables
import Buildwright.Shell.Evaluation
import Buildwright.Shell.Format
import Buildwright.Shell.Utility.Condition

/-!
# Output and conditions

The shell has some programs of the system itself. They know fewer escapes, and have words of their own
for what is wrong.
-/
namespace Buildwright.Shell.Builtin

open Shell.Action

/-- Writes a text; that there is nothing to write to is reported. -/
def sayOrFail (program text : String) (status : Nat) : Action Nat := do
  if text != "" && (← channelOf? 1).isNone then
    warn (program ++ ": I/O error")
    return 1
  say text
  return status

/-- Writes arguments with their escapes, of which one may end the output. -/
def echo : Builtin := plain fun arguments => do
  let silent := arguments.head? == some "-n"
  let shown := if silent then arguments.drop 1 else arguments
  let e := Format.unescape ⟨false, false⟩ (Text.joined " " shown)
  sayOrFail "echo" (String.ofList e.chars ++ if silent || e.last then "" else "\n") 0

/-- Reports a fault in a format. -/
def reportFormat : Format.Fault → Action Unit
  | .notNumeric a => warn (a ++ ": expected numeric value")
  | .notAllNumeric a => warn (a ++ ": not completely converted")
  | .outOfRange a => warn (a ++ ": Numerical result out of range")
  | .noConversion t => warn (t ++ ": invalid directive")
  | .unfinished _ => warn "missing format character"

/-- Writes formatted arguments. -/
def printf : Builtin := plain fun arguments => do
  match ← operands arguments with
  | [] => mistake "usage: printf format [arg ...]"
  | format :: rest =>
    let (text, faults) := Format.format ⟨false, false⟩ format rest
    for f in faults do reportFormat f
    sayOrFail "printf" text (if faults.any (·.isFatal) then 2 else if faults.isEmpty then 0 else 1)

/-- Tells whether a condition holds; with `bracketed`, a bracket closes it. -/
def condition (bracketed : Bool) : Builtin := plain fun arguments => do
  if bracketed && arguments.getLast? != some "]" then mistake "missing ]"
  match ← Utility.Condition.evaluate (if bracketed then arguments.dropLast else arguments) with
  | .ok holds => return if holds then 0 else 1
  | .error f => mistake f.message

/-- Writes the times that processes have taken, which are none. -/
def times : Builtin := special fun _ => do
  say "0m0.000000s 0m0.000000s\n0m0.000000s 0m0.000000s\n"
  return 0

/-- Writes the bound on a resource, of which there is none. -/
def ulimit : Builtin := plain fun arguments => do
  let (_, others) ← options "HSatfdsmcnpvwr" arguments
  if others.isEmpty then say "unlimited\n"
  return 0

/-!
## Reading lines

A line is split into one field for each variable; the last one gets all that is left. A backslash keeps
the character behind it, or joins the line with the next.
-/

/-- The characters of a line, in which those do not separate fields that are marked. With `raw`, a
    backslash stands for itself. The second component tells whether the line has an end. -/
def takeMarkedLine (raw : Bool) (channel : Nat) : Nat → Action (List Marked × Bool)
  | 0 => return ([], false)
  | n + 1 => do
    match ← takeLineFrom channel with
    | none => return ([], false)
    | some (b, ended) =>
      let cs := (Text.bytewise b).toList.filter (· != '\x00')
      if raw then return (cs.map fun c => (c, false), ended)
      let (marked, joins) := unescaped cs
      if joins && ended then
        let (more, ended) ← takeMarkedLine raw channel n
        return (marked ++ more, ended)
      return (marked, ended)
where
  /-- The characters of a line without the backslashes that count, and whether the last one joins it with
      the next line. -/
  unescaped : List Char → List Marked × Bool
    | [] => ([], false)
    | ['\x5c'] => ([], true)
    | '\x5c' :: c :: cs =>
      let (marked, joins) := unescaped cs
      ((c, true) :: marked, joins)
    | c :: cs =>
      let (marked, joins) := unescaped cs
      ((c, false) :: marked, joins)

/-- How characters separate fields. -/
structure Separation where
  separators : List Char

namespace Separation

/-- Whether a character separates fields. -/
def splits (s : Separation) (c : Marked) : Bool := !c.2 && s.separators.contains c.1

/-- Whether a character is a blank that separates fields. -/
def isBlank (s : Separation) (c : Marked) : Bool := s.splits c && Fields.blanks.contains c.1

/-- The first field, and what follows it and its separator. -/
def field (s : Separation) (cs : List Marked) : List Marked × List Marked :=
  let first := cs.takeWhile (!s.splits ·)
  let rest := (cs.drop first.length).dropWhile s.isBlank
  match rest with
  | c :: after => if s.splits c then (first, after.dropWhile s.isBlank) else (first, rest)
  | [] => (first, [])

/-- What the last variable gets: a single field without its separator, or all that is left without the
    blanks at its end. -/
def last (s : Separation) (cs : List Marked) : List Marked :=
  let (first, rest) := s.field cs
  if rest.isEmpty then first else (cs.reverse.dropWhile s.isBlank).reverse

/-- The values of a number of variables. -/
def values (s : Separation) : Nat → List Marked → List String
  | 0, _ => []
  | 1, cs => [unmarked (s.last cs)]
  | n + 1, cs =>
    let (first, rest) := s.field cs
    unmarked first :: values s n rest

end Separation

/-- Reads a line into variables. -/
def read : Builtin := plain fun arguments => do
  let (given, names) ← options "p:r" arguments
  if names.isEmpty then mistake "arg count"
  let raw := given.any (·.1 == 'r')
  let (line, ended) ←
    match ← channelOf? 0 with
    | some channel => takeMarkedLine raw channel 10000
    | none => pure ([], false)
  let s : Separation := ⟨← separators⟩
  let found := s.values names.length (line.dropWhile s.isBlank)
  for (x, value) in names.zip found do
    checkName x
    assign x value
  return if ended then 0 else 1

end Buildwright.Shell.Builtin
