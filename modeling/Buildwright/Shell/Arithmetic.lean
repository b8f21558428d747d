-- SUMMARY: Arithmetic expressions of scripts: reading and evaluating them.
import Buildwright.Shell.State
import Buildwright.Text.Number

/-!
# Arithmetic

Expressions on whole numbers of 64 bits with the usual operators, conditions and assignments.
Comparisons give one or zero, and a name without a value counts as zero.
-/
namespace Buildwright.Shell.Arithmetic

/-- The operators of two operands whose values are both needed. -/
inductive Operator where
  | times | over | modulo | plus | minus | left | right
  | less | lessOrEqual | greater | greaterOrEqual | equal | unequal
  | and | exclusiveOr | or
  deriving DecidableEq

/-- An expression. -/
inductive Expression where
  | number (n : Int64)
  | name (x : String)
  | negative (e : Expression)
  | isZero (e : Expression)
  | complement (e : Expression)
  | operation (op : Operator) (a b : Expression)
  | both (a b : Expression)
  | either (a b : Expression)
  | choice (condition yes no : Expression)
  /-- Gives a name the value of an expression, or of its own value and an expression. -/
  | assignment (x : String) (op : Option Operator) (e : Expression)
  /-- A place at which something else was expected, behind an expression or at once. -/
  | fault (before : Option Expression) (message : String)
  deriving Inhabited

/-! ## Tokens -/

/-- What an expression consists of. -/
inductive Token where
  | number (n : Int64)
  | name (x : String)
  | sign (text : String)
  deriving DecidableEq

/-- The signs of more than one character, longer ones first. -/
def longSigns : List String :=
  ["<<=", ">>=", "||", "&&", "==", "!=", "<=", ">=", "<<", ">>", "+=", "-=", "*=", "/=", "%=", "&=",
    "^=", "|="]

/-- The next token of a text and what follows it. -/
def token (c : Char) (cs : List Char) : Token × List Char :=
  let all := c :: cs
  if c.isDigit then
    match Text.leadingNatural? all with
    | some (n, rest) => (.number (Int64.ofInt (Text.clampInteger n)), rest)
    | none => (.sign (String.singleton c), cs)
  else if Word.beginsName c then
    let name := all.takeWhile Word.continuesName
    (.name (String.ofList name), all.drop name.length)
  else
    match longSigns.find? fun s => s.toList.isPrefixOf all with
    | some s => (.sign s, all.drop s.length)
    | none => (.sign (String.singleton c), cs)

/-- The tokens of a text of at most `n` characters. -/
def tokens : Nat → List Char → List Token
  | 0, _ | _, [] => []
  | n + 1, c :: cs =>
    if c == ' ' || c == '\t' || c == '\n' then tokens n cs
    else
      let (t, rest) := token c cs
      t :: tokens n rest

/-! ## Reading -/

/-- The operators with their signs, and their levels: the lower, the tighter. -/
def operators : List (String × Operator × Nat) :=
  [("*", .times, 0), ("/", .over, 0), ("%", .modulo, 0), ("+", .plus, 1), ("-", .minus, 1),
    ("<<", .left, 2), (">>", .right, 2), ("<", .less, 3), ("<=", .lessOrEqual, 3), (">", .greater, 3),
    (">=", .greaterOrEqual, 3), ("==", .equal, 4), ("!=", .unequal, 4), ("&", .and, 5),
    ("^", .exclusiveOr, 6), ("|", .or, 7)]

/-- The level of the loosest operators. -/
def loosest : Nat := 7

/-- The signs that assign, with the operators that they apply first. -/
def assignments : List (String × Option Operator) :=
  [("=", none), ("+=", some .plus), ("-=", some .minus), ("*=", some .times), ("/=", some .over),
    ("%=", some .modulo), ("<<=", some .left), (">>=", some .right), ("&=", some .and),
    ("^=", some .exclusiveOr), ("|=", some .or)]

/-- Reads expressions from tokens. Where something else was expected, there is a fault in the expression, and
    nothing more is read. -/
abbrev Reader := StateM (List Token)

/-- A fault behind an expression or at once; nothing more is read. -/
def refuseAt (before : Option Expression) (message : String) : Reader Expression := do
  set ([] : List Token)
  return .fault before message

/-- The fault of a text in which an operand is missing. -/
def noOperand : Reader Expression := refuseAt none "expecting primary"

/-- Takes a sign if it comes next. -/
def accept (text : String) : Reader Bool := do
  match ← get with
  | .sign s :: rest =>
    if s = text then
      set rest
      return true
    else return false
  | _ => return false

/-- Takes an operator of a level if one comes next. -/
def operatorOf? (level : Nat) : Reader (Option Operator) := do
  match ← get with
  | .sign s :: rest =>
    match operators.lookup s with
    | some (op, l) =>
      if l = level then
        set rest
        return some op
      else return none
    | none => return none
  | _ => return none

mutual

/-- Takes an assignment or a condition. -/
def assignment : Nat → Reader Expression
  | 0 => noOperand
  | n + 1 => do
    match ← get with
    | .name x :: .sign s :: rest =>
      match assignments.lookup s with
      | some op =>
        set rest
        return .assignment x op (← assignment n)
      | none => condition n
    | _ => condition n

/-- Takes a choice between two expressions, or what may stand in it. -/
def condition : Nat → Reader Expression
  | 0 => noOperand
  | n + 1 => do
    let a ← either n
    if ← accept "?" then
      let b ← assignment n
      if ← accept ":" then return .choice a b (← condition n)
      return .choice a (← refuseAt (some b) "expecting ':'") (.number 0)
    else return a

/-- Takes expressions of which one has to hold. -/
def either : Nat → Reader Expression
  | 0 => noOperand
  | n + 1 => do
    let a ← both n
    if ← accept "||" then return .either a (← either n) else return a

/-- Takes expressions that have to hold together. -/
def both : Nat → Reader Expression
  | 0 => noOperand
  | n + 1 => do
    let a ← operation n loosest
    if ← accept "&&" then return .both a (← both n) else return a

/-- Takes operands with operators of at most a level between them. -/
def operation : Nat → Nat → Reader Expression
  | 0, _ => noOperand
  | n + 1, 0 => do operationFrom n 0 (← operand n)
  | n + 1, level + 1 => do operationFrom n (level + 1) (← operation n level)

/-- Takes the operators of a level and their second operands. -/
def operationFrom : Nat → Nat → Expression → Reader Expression
  | 0, _, a => refuseAt (some a) "expecting primary"
  | n + 1, level, a => do
    match ← operatorOf? level with
    | some op =>
      let b ← if level = 0 then operand n else operation n (level - 1)
      operationFrom n level (.operation op a b)
    | none => return a

/-- Takes an operand with the signs in front of it. -/
def operand : Nat → Reader Expression
  | 0 => noOperand
  | n + 1 => do
    match ← get with
    | .number k :: rest =>
      set rest
      return .number k
    | .name x :: rest =>
      set rest
      return .name x
    | .sign s :: rest =>
      set rest
      match s with
      | "(" =>
        let e ← assignment n
        if ← accept ")" then return e
        refuseAt (some e) "expecting ')'"
      | "+" => operand n
      | "-" => return .negative (← operand n)
      | "!" => return .isZero (← operand n)
      | "~" => return .complement (← operand n)
      | _ => noOperand
    | [] => noOperand

end

/-- The expression that a text writes; it has a fault if the text does not write one. -/
def read (s : String) : Expression :=
  let ts := tokens s.length s.toList
  match (assignment (16 * (ts.length + 2))).run ts with
  | (e, []) => e
  | (e, _) => .fault (some e) "expecting EOF"

/-! ## Evaluating -/

open Shell.Action

/-- A truth value as a number. -/
def ofBool (b : Bool) : Int64 := if b then 1 else 0

/-- The result of an operator; nothing for a division by zero. -/
def result? (op : Operator) (a b : Int64) : Option Int64 :=
  match op with
  | .times => some (a * b)
  | .over => if b = 0 then none else some (a / b)
  | .modulo => if b = 0 then none else some (a % b)
  | .plus => some (a + b)
  | .minus => some (a - b)
  | .left => some (a <<< b)
  | .right => some (a >>> b)
  | .less => some (ofBool (a < b))
  | .lessOrEqual => some (ofBool (a ≤ b))
  | .greater => some (ofBool (b < a))
  | .greaterOrEqual => some (ofBool (b ≤ a))
  | .equal => some (ofBool (a == b))
  | .unequal => some (ofBool (a != b))
  | .and => some (a &&& b)
  | .exclusiveOr => some (a ^^^ b)
  | .or => some (a ||| b)

/-- Fails at an expression. -/
def refuse {α : Type} (text message : String) : Action α :=
  mistake ("arithmetic expression: " ++ message ++ ": \x22" ++ text ++ "\x22")

/-- The number that a value is: one of 64 bits, in a base that it shows, with blanks around it. -/
def numberOf (value : String) : Action Int64 := do
  if value.toList.all Text.isSpace then return 0
  match Text.leadingInteger? Text.leadingNatural? value.toList with
  | some (n, rest) =>
    if Text.fitsInteger n && rest.all Text.isSpace then return Int64.ofInt n
    else mistake ("Illegal number: " ++ value)
  | none => mistake ("Illegal number: " ++ value)

/-- The value of an expression that is part of a text. If its value does not count, `idle`, nothing is done,
    and only a fault is looked for. Everything in front of a fault is evaluated before. -/
def evaluate (text : String) (idle : Bool) : Expression → Action Int64
  | .number n => return n
  | .name x => do if idle then return 0 else numberOf ((← valueOf? x).getD "")
  | .negative e => do return -(← evaluate text idle e)
  | .isZero e => do return ofBool ((← evaluate text idle e) == 0)
  | .complement e => do return ~~~(← evaluate text idle e)
  | .operation op a b => do
    let a ← evaluate text idle a
    let b ← evaluate text idle b
    if idle then return 0
    match result? op a b with
    | some n => return n
    | none => refuse text "division by zero"
  | .both a b => do
    let a ← evaluate text idle a
    let b ← evaluate text (idle || a == 0) b
    return ofBool (a != 0 && b != 0)
  | .either a b => do
    let a ← evaluate text idle a
    let b ← evaluate text (idle || a != 0) b
    return ofBool (a != 0 || b != 0)
  | .choice condition yes no => do
    let holds := (← evaluate text idle condition) != 0
    let yes ← evaluate text (idle || !holds) yes
    let no ← evaluate text (idle || holds) no
    return if holds then yes else no
  | .assignment x op e => do
    let b ← evaluate text idle e
    if idle then return b
    let n ←
      match op with
      | none => pure b
      | some op =>
        match result? op (← numberOf ((← valueOf? x).getD "")) b with
        | some n => pure n
        | none => refuse text "division by zero"
    assign x (toString n.toInt)
    return n
  | .fault none message => refuse text message
  | .fault (some e) message => do
    let _ ← evaluate text idle e
    refuse text message

/-- The value of the expression that a text writes. -/
def value (text : String) : Action Int64 :=
  evaluate text false (read text)

end Buildwright.Shell.Arithmetic
