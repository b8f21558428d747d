-- SUMMARY: Conditions on texts, numbers and files.
import Buildwright.Shell.Utility.Files

/-!
# Conditions

A condition is written with operators in front of an operand, between two operands, and between
conditions. What an argument is depends on how many arguments there are and on what follows it.
-/
namespace Buildwright.Shell.Utility

open Shell.Action

/-- Where an operator stands. -/
inductive Position where
  /-- In front of an operand. -/
  | before
  /-- Between two operands. -/
  | between
  | other
  deriving DecidableEq

namespace Condition

/-- The operators and where they stand. -/
def position? (s : String) : Option Position :=
  if ["-r", "-w", "-x", "-e", "-f", "-d", "-c", "-b", "-p", "-u", "-g", "-k", "-s", "-t", "-z", "-n",
      "-h", "-O", "-G", "-L", "-S"].contains s then some .before
  else if ["=", "!=", "<", ">", "-eq", "-ne", "-ge", "-gt", "-le", "-lt", "-nt", "-ot", "-ef"].contains s
    then some .between
  else if ["!", "-a", "-o", "(", ")"].contains s then some .other
  else none

/-- What is wrong with a condition. -/
inductive Fault where
  | noNumber (text : String)
  | unexpected (text : String)
  | unfinished (operator : String)
  | unclosed

/-- Evaluates conditions: the state is what is left of the arguments, from the current one on. -/
abbrev Evaluator := ExceptT Fault (StateT (List String) Action)

/-- The operator that the first of some arguments is. -/
def operator? : List String → Option String
  | [] => none
  | s :: rest =>
    let isOperand : Bool :=
      match rest with
      | [] => true
      | [_] => false
      | next :: _ => position? next == some .between
    match position? s with
    | some .before => if isOperand then none else some s
    | some _ => if s == "(" && rest.isEmpty then none else some s
    | none => none

/-- Goes on by a number of arguments. -/
def advance (n : Nat) : Evaluator Unit := do
  modify (·.drop n)

/-- The number that an operand is. -/
def integer (s : String) : Evaluator Int := do
  match Text.integer? s with
  | some n => if Text.fitsInteger n then return n else throw (.noNumber s)
  | none => throw (.noNumber s)

/-- Whether an entry on the disk passes a test. -/
def entryPasses (operator : String) : Entry → Bool
  | .file f =>
    match operator with
    | "-f" | "-e" | "-r" | "-w" | "-O" | "-G" => true
    | "-x" => f.executable
    | "-s" => f.content.size != 0
    | _ => false
  | .directory _ | .closed => ["-d", "-e", "-r", "-w", "-x", "-s", "-O", "-G"].contains operator
  | .link _ => ["-h", "-L", "-e", "-r", "-w", "-O", "-G"].contains operator

/-- Whether what lies at a path passes a test. -/
def pathPasses (operator p : String) : Action Bool := do
  match device? p with
  | some (.channel _) => return ["-c", "-e", "-r", "-w", "-O", "-G"].contains operator
  | some (.stream n) => return (← channelOf? n).isSome && ["-e", "-r", "-w"].contains operator
  | some .terminal => return ["-c", "-e", "-r", "-w"].contains operator
  | none =>
    let follows := operator != "-h" && operator != "-L"
    match (← disk).locate (pathOf p) follows with
    | .ok (.present _ e) => return entryPasses operator e
    | _ => return false

/-- Whether an operand passes a test. -/
def passes (operator a : String) : Evaluator Bool := do
  match operator with
  | "-z" => return a == ""
  | "-n" => return a != ""
  | "-t" =>
    let _ ← integer a
    return false
  | _ => ExceptT.lift (StateT.lift (pathPasses operator a))

/-- The place of a file and the time of its last change. -/
def fileAt (p : String) : Evaluator (Option (Location × Int)) := do
  let d ← ExceptT.lift (StateT.lift disk)
  match d.resolve (pathOf p) with
  | .ok (place, e) => return some (place, (Disk.Entry.modified? e).getD d.now)
  | .error _ => return none

/-- Whether two files compare in some way. -/
def filesCompare (a b : String) (p : Location × Int → Location × Int → Bool) : Evaluator Bool := do
  match ← fileAt a, ← fileAt b with
  | some x, some y => return p x y
  | _, _ => return false

/-- Whether two operands compare in some way. -/
def compares (operator a b : String) : Evaluator Bool := do
  let numbers (p : Int → Int → Bool) : Evaluator Bool := do
    let m ← integer a
    let n ← integer b
    return p m n
  match operator with
  | "=" => return a == b
  | "!=" => return a != b
  | "<" => return decide (a < b)
  | ">" => return decide (b < a)
  | "-eq" => numbers (· == ·)
  | "-ne" => numbers (· != ·)
  | "-ge" => numbers (· ≥ ·)
  | "-gt" => numbers (· > ·)
  | "-le" => numbers (· ≤ ·)
  | "-lt" => numbers (· < ·)
  | "-nt" => filesCompare a b fun x y => decide (y.2 < x.2)
  | "-ot" => filesCompare a b fun x y => decide (x.2 < y.2)
  | _ => filesCompare a b fun x y => x.1 == y.1

mutual

/-- Evaluates conditions of which one has to hold; `first` is the operator at the current argument, and
    `last` tells whether there is no argument any more. -/
def anyOf : Nat → Option String → Evaluator Bool
  | 0, _ => return false
  | n + 1, first => do
    let holds ← allOf n first
    if operator? ((← get).drop 1) == some "-o" then
      advance 2
      let more ← anyOf n (operator? (← get))
      return holds || more
    else return holds

/-- Evaluates conditions of which all have to hold. -/
def allOf : Nat → Option String → Evaluator Bool
  | 0, _ => return false
  | n + 1, first => do
    let holds ← inverse n first
    if operator? ((← get).drop 1) == some "-a" then
      advance 2
      let more ← allOf n (operator? (← get))
      return holds && more
    else return holds

/-- Evaluates a condition, or the inverse of one. -/
def inverse : Nat → Option String → Evaluator Bool
  | 0, _ => return false
  | n + 1, first => do
    if first == some "!" then
      match (← get).drop 1 with
      | [] => return true
      | rest =>
        advance 1
        return !(← inverse n (operator? rest))
    else single n first

/-- Evaluates a condition without inner ones, or one in parentheses. -/
def single : Nat → Option String → Evaluator Bool
  | 0, _ => return false
  | n + 1, first => do
    match ← get with
    | [] => return false
    | a :: rest =>
      if first == some "(" then
        advance 1
        if operator? rest == some ")" then return false
        let holds ← anyOf n (operator? rest)
        advance 1
        if operator? (← get) != some ")" then throw .unclosed
        return holds
      else
        match first.bind position?, rest with
        | some .before, [] => throw (.unfinished a)
        | some .before, operand :: _ =>
          advance 1
          passes a operand
        | _, _ =>
          match operator? rest with
          | some operator =>
            if position? operator == some .between then
              match rest.drop 1 with
              | [] => throw (.unfinished operator)
              | b :: _ =>
                advance 2
                compares operator a b
            else return a != ""
          | none => return a != ""

end

/-- Evaluates arguments, of which the number decides about what they mean; `expected` is the answer. -/
def evaluateFrom : Nat → Bool → List String → Action (Except Fault Bool)
  | 0, expected, _ => return .ok !expected
  | n + 1, expected, arguments => do
    let whole (first : Option String) (arguments : List String) : Action (Except Fault Bool) := do
      let (found, rest) ← ((anyOf (8 * arguments.length + 8) first).run).run arguments
      match found, rest with
      | .error f, _ => return .error f
      | .ok _, a :: _ :: _ => return .error (.unexpected a)
      | .ok holds, _ => return .ok (holds == expected)
    let grouped : Action (Except Fault Bool) := do
      if arguments.head? == some "(" && arguments.getLast? == some ")" then
        let inner := (arguments.drop 1).dropLast
        whole (operator? inner) inner
      else if arguments.head? == some "!" then evaluateFrom n (!expected) (arguments.drop 1)
      else whole (operator? arguments) arguments
    match arguments with
    | [] => return .ok !expected
    | [_, operator, _] =>
      if position? operator == some .between then whole none arguments else grouped
    | [_, _, _, _] => grouped
    | _ => whole (operator? arguments) arguments

/-- Whether the condition that arguments write holds. -/
def evaluate (arguments : List String) : Action (Except Fault Bool) :=
  evaluateFrom (arguments.length + 1) true arguments

namespace Fault

/-- The wording of a fault in the shell. -/
def message : Fault → String
  | noNumber s => "Illegal number: " ++ s
  | unexpected s => if s == "" then "unexpected operator" else s ++ ": unexpected operator"
  | unfinished s => s ++ ": argument expected"
  | unclosed => "closing paren expected"

/-- The wording of a fault in a program of its own. -/
def longMessage : Fault → String
  | noNumber s => "invalid integer " ++ quoted s
  | unexpected s => "extra argument " ++ quoted s
  | unfinished s => "missing argument after " ++ quoted s
  | unclosed => "')' expected"

end Fault
end Condition

/-- Tells by its exit code whether a condition holds. -/
def test : Utility := fun c => do
  let arguments :=
    if c.name == "[" || lastName c.name == "[" then
      if c.arguments.getLast? == some "]" then some c.arguments.dropLast else none
    else some c.arguments
  match arguments with
  | none => c.fail "missing ']'" 2
  | some arguments =>
    match ← Condition.evaluate arguments with
    | .ok holds => return if holds then 0 else 1
    | .error f => c.fail f.longMessage 2

end Buildwright.Shell.Utility
