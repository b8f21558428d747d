-- SUMMARY: The program that works out an expression that stands in its arguments.
import Buildwright.Shell.Regex.Reader
import Buildwright.Shell.Utility.Basic

/-!
# Expressions in arguments

Each argument is an operand or an operator. Operators bind from the loosest to the tightest: `|`, `&`,
comparisons, sums, products, matches, and functions, which stand in front of their operands. Numbers are
whole and of any size.
-/
namespace Buildwright.Shell.Utility

open Shell.Action

namespace Calculation

/-- What an expression stands for. -/
inductive Datum where
  | number (n : Int)
  | text (s : String)

namespace Datum

/-- The text of a datum. -/
def shown : Datum → String
  | number n => toString n
  | text s => s

/-- The number that a datum is. -/
def number? : Datum → Option Int
  | number n => some n
  | text s =>
    match s.toList with
    | '-' :: cs => (Text.digits? cs).map fun n => -Int.ofNat n
    | cs => (Text.digits? cs).map Int.ofNat

/-- Whether a datum is zero or empty. -/
def isNull (d : Datum) : Bool :=
  match d with
  | number n => n == 0
  | text s => s == "" || d.number? == some 0

/-- One or zero. -/
def ofBool (b : Bool) : Datum := number (if b then 1 else 0)

end Datum

/-- The arguments that are left, and the one that has been taken last. -/
structure Draft where
  rest : List String
  last : String := ""

/-- What is wrong with an expression. -/
inductive Fault where
  | form (message : String)
  | content (message : String)

namespace Fault

/-- The wording of a fault. -/
def message : Fault → String
  | form message => "syntax error: " ++ message
  | content message => message

end Fault

/-- Works out a part of an expression. -/
abbrev Reader := EStateM Fault Draft

/-- Takes the next argument, which has to be there. -/
def take : Reader String := do
  let d ← get
  match d.rest with
  | [] => throw (.form ("missing argument after " ++ quoted d.last))
  | a :: rest =>
    set (⟨rest, a⟩ : Draft)
    return a

/-- Takes the next argument if it is one of some. -/
def takeOf? (names : List String) : Reader (Option String) := do
  let d ← get
  match d.rest with
  | a :: rest =>
    if names.contains a then
      set (⟨rest, a⟩ : Draft)
      return some a
    else return none
  | [] => return none

/-- The number that a datum has to be. -/
def toNumber (d : Datum) : Reader Int :=
  match d.number? with
  | some n => return n
  | none => throw (.content "non-integer argument")

/-- Works out an operator on numbers. -/
def calculate (op : String) (a b : Datum) : Reader Datum := do
  let x ← toNumber a
  let y ← toNumber b
  match op with
  | "+" => return .number (x + y)
  | "-" => return .number (x - y)
  | "*" => return .number (x * y)
  | _ =>
    if y == 0 then throw (.content "division by zero")
    return .number (if op == "/" then Int.tdiv x y else Int.tmod x y)

/-- Compares two data, as numbers if both are numbers. -/
def compare (op : String) (a b : Datum) : Datum :=
  let order : Ordering :=
    match a.number?, b.number? with
    | some x, some y => Ord.compare x y
    | _, _ => Ord.compare a.shown b.shown
  .ofBool <|
    match op with
    | "<" => order == .lt
    | "<=" => order != .gt
    | "=" | "==" => order == .eq
    | "!=" => order != .eq
    | ">=" => order != .lt
    | _ => order == .gt

/-- What a regular expression describes at the beginning of a text: the text of its first group, or a
    length. -/
def matchStart (text source : Datum) : Reader Datum := do
  match Regex.read { extended := false } source.shown with
  | .error message => throw (.content message)
  | .ok (r, groups) =>
    let t : Regex.Subject := ⟨text.shown.toList.toArray, false, false⟩
    match Regex.matchAt? t r 0 with
    | some (stop, found) =>
      if groups == 0 then return .number stop
      else
        return .text <|
          match found.lookup 1 with
          | some (a, b) => String.ofList (t.between a b)
          | none => ""
    | none => return if groups == 0 then .number 0 else .text ""

/-- The place of the first character of a text that is one of some, counted from one, or zero. -/
def indexOf (text chars : Datum) : Datum :=
  match text.shown.toList.findIdx? chars.shown.toList.contains with
  | some i => .number (i + 1)
  | none => .number 0

/-- A part of a text, from a place on and of a length. -/
def part (text start length : Datum) : Datum :=
  match start.number?, length.number? with
  | some i, some n =>
    if i ≤ 0 || n ≤ 0 then .text ""
    else .text (String.ofList ((text.shown.toList.drop (i.toNat - 1)).take n.toNat))
  | _, _ => .text ""

/-- The operators of the levels between `&` and matches, from the loosest to the tightest. -/
def operators (level : Nat) : List String :=
  match level with
  | 2 => ["<", "<=", "=", "==", "!=", ">=", ">"]
  | 3 => ["+", "-"]
  | 4 => ["*", "/", "%"]
  | _ => []

mutual

/-- Works out an expression of a level or a tighter one; what does not count is not worked out. -/
def level : Nat → Nat → Bool → Reader Datum
  | 0, _, _ => throw (.content "expression too long")
  | n + 1, l, counts => do
    if l == 6 then function n counts else rest n l counts (← level n (l + 1) counts)

/-- Works out what stands behind the first operand of a level. -/
def rest : Nat → Nat → Bool → Datum → Reader Datum
  | 0, _, _, _ => throw (.content "expression too long")
  | n + 1, l, counts, a => do
    match l with
    | 0 =>
      match ← takeOf? ["|"] with
      | none => return a
      | some _ =>
        let b ← level n 1 (counts && a.isNull)
        rest n 0 counts (if !a.isNull then a else if b.isNull then .number 0 else b)
    | 1 =>
      match ← takeOf? ["&"] with
      | none => return a
      | some _ =>
        let b ← level n 2 (counts && !a.isNull)
        rest n 1 counts (if a.isNull || b.isNull then .number 0 else a)
    | 5 =>
      match ← takeOf? [":"] with
      | none => return a
      | some _ =>
        let b ← level n 6 counts
        rest n 5 counts (← if counts then matchStart a b else pure a)
    | _ =>
      match ← takeOf? (operators l) with
      | none => return a
      | some op =>
        let b ← level n (l + 1) counts
        if !counts then rest n l counts a
        else if l == 2 then rest n l counts (compare op a b)
        else rest n l counts (← calculate op a b)

/-- Works out a function, or a single operand. -/
def function : Nat → Bool → Reader Datum
  | 0, _ => throw (.content "expression too long")
  | n + 1, counts => do
    match ← takeOf? ["+", "length", "match", "index", "substr"] with
    | some "+" => return .text (← take)
    | some "length" => return .number (← function n counts).shown.length
    | some "match" =>
      let a ← function n counts
      let b ← function n counts
      if counts then matchStart a b else return a
    | some "index" =>
      let a ← function n counts
      return indexOf a (← function n counts)
    | some _ =>
      let a ← function n counts
      let i ← function n counts
      return part a i (← function n counts)
    | none =>
      match ← take with
      | "(" =>
        let d ← level n 0 counts
        match (← get).rest with
        | [] => throw (.form ("expecting ')' after " ++ quoted (← get).last))
        | ")" :: _ =>
          let _ ← take
          return d
        | a :: _ => throw (.form ("expecting ')' instead of " ++ quoted a))
      | ")" => throw (.form "unexpected ')'")
      | a => return .text a

end

/-- Works out a whole expression. -/
def whole (arguments : List String) : Except Fault Datum :=
  match level (16 * arguments.length + 16) 0 true { rest := arguments } with
  | .ok d draft =>
    match draft.rest with
    | [] => .ok d
    | a :: _ => .error (.form ("unexpected argument " ++ quoted a))
  | .error f _ => .error f

end Calculation

/-- Works out an expression and writes what it stands for. -/
def expr : Utility := fun c => do
  let arguments := if c.arguments.head? == some "--" then c.arguments.drop 1 else c.arguments
  if arguments.isEmpty then c.misused "missing operand" 2
  else
    match Calculation.whole arguments with
    | .error f => c.fail f.message 2
    | .ok d =>
      say (d.shown ++ "\n")
      return if d.isNull then 1 else 0

end Buildwright.Shell.Utility
