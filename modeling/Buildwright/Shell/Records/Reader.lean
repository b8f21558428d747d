-- SUMMARY: Reading programs on records.
import Buildwright.Shell.Records.Matching
import Buildwright.Shell.Records.Token

/-!
# Reading programs on records

Operators bind from the loosest to the tightest: choices, `||`, `&&`, `in`, matches, comparisons, joins,
sums, products, signs, reading from commands, powers, steps. An assignment can stand where an operand of a
comparison can. In what is printed, a sign for output is no comparison unless it stands in parentheses.

What is wrong with a program is collected; reading ends where a token does not fit.
-/
namespace Buildwright.Shell.Records

/-- What a variable is used for. -/
inductive Use where
  | scalar
  | table
  deriving DecidableEq

/-- What is wrong with a program, and in which line. -/
structure Mistake where
  line : Nat
  message : String
  /-- Whether the message says where it belongs to. -/
  isPlaced : Bool := true

/-- A program that is being read. -/
structure Draft where
  rest : List Token
  lastLine : Nat
  /-- The line of the token that has been taken last. -/
  line : Nat := 1
  /-- The open parentheses and braces. -/
  parens : Nat := 0
  braces : Nat := 0
  mistakes : List Mistake := []
  globals : List (String × Use) := [("ENVIRON", .table), ("ARGV", .table)]
  parameters : List String := []
  parameterUses : List (Nat × Use) := []
  /-- The loops around what is read. -/
  loops : Nat := 0
  inProcedure : Bool := false
  /-- Whether a record is there to go on from. -/
  hasRecord : Bool := true
  /-- Whether a sign for output ends the expression. -/
  isBare : Bool := false
  procedures : List (String × Procedure) := []
  /-- The lines of calls, with the names of what is called and the numbers of arguments. -/
  calls : List (Nat × String × Nat) := []

/-- Reads a part of a program. A mistake that does not allow to go on ends the reading. -/
abbrev Reader := EStateM Mistake Draft

namespace Reader

/-! ## Tokens -/

/-- Reports a mistake in the line that is read. -/
def report (message : String) : Reader Unit :=
  modify fun d => { d with mistakes := ⟨d.line, message, true⟩ :: d.mistakes }

/-- Drops closing signs that close nothing. -/
def dropExtras : List Token → List Token × List Mistake
  | ⟨.extra c, line⟩ :: ts =>
    let (rest, found) := dropExtras ts
    (rest, ⟨line, "extra '" ++ String.singleton c ++ "'", true⟩ :: found)
  | ts => (ts, [])

/-- The token that comes next, if there is one. -/
def peek : Reader (Option TokenKind) := do
  let d ← get
  match d.rest with
  | ⟨.extra _, _⟩ :: _ =>
    let (rest, found) := dropExtras d.rest
    set { d with rest, mistakes := found.reverse ++ d.mistakes }
    return rest.head?.map (·.kind)
  | t :: _ => return some t.kind
  | [] => return none

/-- Goes on behind a token. -/
def advance : Reader Unit :=
  modify fun d =>
    match d.rest with
    | [] => d
    | t :: rest =>
      let d := { d with rest, line := t.line }
      match t.kind with
      | .sign "(" => { d with parens := d.parens + 1 }
      | .sign ")" => { d with parens := d.parens - 1 }
      | .sign "\x7b" => { d with braces := d.braces + 1 }
      | .sign "\x7d" => { d with braces := d.braces - 1 }
      | _ => d

/-- Ends the reading at the token that comes next. -/
def unexpected {α : Type} : Reader α := do
  let _ ← peek
  let d ← get
  let missing (sign near : String) := "missing " ++ sign ++ " near " ++ near
  match d.rest with
  | [] =>
    if d.parens != 0 then throw ⟨d.lastLine, missing ")" "end of file", true⟩
    else if d.braces != 0 then throw ⟨d.lastLine, missing "\x7d" "end of file", true⟩
    else throw ⟨d.lastLine, "syntax error at or near end of file", true⟩
  | t :: _ =>
    match t.kind with
    | .fault message => throw ⟨t.line, message, true⟩
    | .unknown c =>
      throw ⟨t.line, toString t.line ++ ": unexpected character '" ++ String.singleton c ++ "'", false⟩
    | kind =>
      let ends :=
        match kind with
        | .lineEnd | .sign ";" | .sign "\x7d" => true
        | _ => false
      if ends && d.parens != 0 then throw ⟨t.line, missing ")" (Token.shown kind), true⟩
      else throw ⟨t.line, "syntax error at or near " ++ Token.shown kind, true⟩

/-- Whether a sign comes next. -/
def isNext (s : String) : Reader Bool := do
  match ← peek with
  | some (.sign t) => return t == s
  | _ => return false

/-- Takes a sign if it comes next. -/
def accept (s : String) : Reader Bool := do
  if ← isNext s then
    advance
    return true
  else return false

/-- Takes a sign, which has to come next. -/
def expect (s : String) : Reader Unit := do
  unless ← accept s do unexpected

/-- Takes a reserved name if it comes next. -/
def acceptName (x : String) : Reader Bool := do
  match ← peek with
  | some (.name y) =>
    if x == y then
      advance
      return true
    else return false
  | _ => return false

/-- Drops ends of lines. -/
def dropLineEnd : Reader Unit := do
  if let some .lineEnd ← peek then advance

/-- Reads what stands in parentheses or brackets, where a sign for output compares. -/
def enclosed {α : Type} (r : Reader α) : Reader α := do
  let before := (← get).isBare
  modify fun d => { d with isBare := false }
  let a ← r
  modify fun d => { d with isBare := before }
  return a

/-! ## Variables -/

/-- What a variable is called in messages. -/
def calledAs (isParameter : Bool) (u : Use) (x : String) : String :=
  (if isParameter then "local " else "") ++ (if u == .table then "array " else "variable ") ++ x

/-- Notes what a variable is used for, which has to be the same everywhere. -/
def note (v : Variable) (u : Use) : Reader Unit := do
  let d ← get
  match v with
  | .global x =>
    match d.globals.lookup x with
    | some before =>
      if before != u then report ("illegal reference to " ++ calledAs false before x)
    | none => set { d with globals := (x, u) :: d.globals }
  | .parameter n =>
    match d.parameterUses.lookup n with
    | some before =>
      if before != u then
        report ("illegal reference to " ++ calledAs true before ((d.parameters[n]?).getD ""))
    | none => set { d with parameterUses := (n, u) :: d.parameterUses }

/-- The variable with a name. -/
def variableOf (x : String) : Reader Variable := do
  match (← get).parameters.idxOf? x with
  | some n => return .parameter n
  | none => return .global x

/-- Whether a name can be that of a variable. -/
def isFree (x : String) : Bool :=
  !Token.reserved.contains x && (Function.names.lookup x).isNone

/-- Takes the name of a variable if it comes next. -/
def freeName? : Reader (Option String) := do
  match ← peek with
  | some (.name x) =>
    if isFree x then
      advance
      return some x
    else return none
  | _ => return none

/-- Takes the name of a table. -/
def table : Reader Variable := do
  match ← freeName? with
  | some x =>
    let v ← variableOf x
    note v .table
    return v
  | none => unexpected

/-- The name of a variable that comes next and is all that stands up to a comma or a parenthesis. -/
def loneName? : Reader (Option String) := do
  let _ ← peek
  match (← get).rest with
  | ⟨.name x, _⟩ :: ⟨.sign s, _⟩ :: _ =>
    return if isFree x && (s == "," || s == ")") then some x else none
  | _ => return none

/-! ## Regular expressions and numbers -/

/-- The expression for a regular expression, of which mistakes are reported. -/
def pattern (source : String) : Reader Expr := do
  match regexOf source with
  | .ok r => return .regex r
  | .error message =>
    report message
    return .text ""

/-- Reports mistakes in a text that is used as a regular expression. -/
def checkPattern (least : Nat) : Expr → Reader Unit
  | .text s => do
    if least ≤ s.length then
      if let .error message := regexOf s then report message
  | _ => pure ()

/-- The least positive number with all its digits. -/
def leastFull : Float := 2.2250738585072014e-308

/-- The expression for a number, which must be neither too large nor too small. -/
def literal (x : Float) (written : String) : Reader Expr := do
  let digits := written.toList.takeWhile fun c => c != 'e' && c != 'E'
  let isZero := digits.all fun c => c == '0' || c == '.'
  if !isZero && (x < leastFull || x - x != 0) then report (written ++ " : decimal overflow")
  return .number x

/-! ## Expressions -/

/-- The signs that assign, with the operators that they apply first. -/
def assignments : List (String × Option Arithmetic) :=
  [("=", none), ("+=", some .add), ("-=", some .subtract), ("*=", some .multiply), ("/=", some .divide),
    ("%=", some .remainder), ("^=", some .power)]

/-- The signs of comparisons. -/
def comparisons : List (String × Comparison) :=
  [("<", .less), ("<=", .atMost), ("==", .equal), ("!=", .unequal), (">=", .atLeast), (">", .greater)]

/-- Whether an operand can begin with a token. -/
def startsOperand : TokenKind → Bool
  | .number _ _ | .text _ | .regex _ | .callee _ => true
  | .name x => x == "getline" || !Token.reserved.contains x
  | .sign s => ["$", "!", "(", "-", "+", "++", "--"].contains s
  | _ => false

/-- Whether there is a comma in the outermost parentheses that tokens go on with, behind a number of open
    parentheses and brackets. -/
def hasComma : Nat → List Token → Bool
  | _, [] => false
  | depth, t :: ts =>
    match t.kind with
    | .sign "(" | .sign "[" => hasComma (depth + 1) ts
    | .sign ")" | .sign "]" => 1 < depth && hasComma (depth - 1) ts
    | .sign "," => depth == 1 || hasComma depth ts
    | _ => hasComma depth ts

/-- Whether several expressions in parentheses come next. -/
def listsKeys : Reader Bool := do
  return (← isNext "(") && hasComma 0 (← get).rest

/-- Whether reading from a command comes next. -/
def readsCommand : Reader Bool := do
  let d ← get
  match d.rest with
  | ⟨.sign "|", _⟩ :: ⟨.name "getline", _⟩ :: _ => return !d.isBare
  | _ => return false

/-- Whether a change of the number of fields comes next. -/
def countChanges : Reader Bool := do
  match (← get).rest with
  | ⟨.name "NF", _⟩ :: ⟨.sign s, _⟩ :: _ => return s == "++" || s == "--"
  | _ => return false

/-- Notes what the arguments of a function are used for, and reports what is wrong with them. -/
def checkArguments (name : String) (f : Function) (least most : Nat) (es : List Expr) : Reader Unit := do
  if es.length < least || most < es.length then
    report ("wrong number of arguments in call to " ++ name)
  for (e, i) in es.zipIdx do
    match e with
    | .value (.variable v) =>
      if f == .split && i == 1 then note v .table else if f != .length then note v .scalar
    | _ => pure ()
  match f, es with
  | .find, [_, e] => checkPattern 0 e
  | .substitute, e :: _ | .substituteAll, e :: _ => checkPattern 0 e
  | .split, [_, _, e] => checkPattern 2 e
  | _, _ => pure ()

mutual

/-- Takes an expression. -/
def expression : Nat → Reader Expr
  | 0 => unexpected
  | n + 1 => do
    let c ← operation n 0
    if ← accept "?" then
      let yes ← expression n
      expect ":"
      return .choice c yes (← expression n)
    else return c

/-- Takes an operation of a level or a tighter one. -/
def operation : Nat → Nat → Reader Expr
  | 0, _ => unexpected
  | n + 1, level => do
    if level == 5 then comparand n
    else operations n level (← operation n (level + 1))

/-- Takes the operations of a level behind their first operand. -/
def operations : Nat → Nat → Expr → Reader Expr
  | 0, _, _ => unexpected
  | n + 1, level, a => do
    match level, ← peek with
    | 0, some (.sign "||") =>
      advance
      operations n 0 (.either a (← operation n 1))
    | 1, some (.sign "&&") =>
      advance
      operations n 1 (.both a (← operation n 2))
    | 2, some (.name "in") =>
      advance
      let found := .holds (← table) [a]
      operations n 2 (← operations n 3 (← operations n 4 found))
    | 3, some (.sign "~") =>
      advance
      let b ← operation n 4
      checkPattern 0 b
      operations n 3 (.fits a b)
    | 3, some (.sign "!~") =>
      advance
      let b ← operation n 4
      checkPattern 0 b
      operations n 3 (.not (.fits a b))
    | 4, some (.sign s) =>
      match comparisons.lookup s with
      | some op =>
        if s == ">" && (← get).isBare then return a
        advance
        operations n 4 (.compare op a (← operation n 5))
      | none => return a
    | _, _ => return a

/-- Takes an operand of a comparison, which may be an assignment, or keys in parentheses that are looked up
    in a table. -/
def comparand : Nat → Reader Expr
  | 0 => unexpected
  | n + 1 => do
    if ← listsKeys then
      advance
      let es ← enclosed (expressions n)
      expect ")"
      if ← acceptName "in" then return .holds (← table) es else unexpected
    let a ← joins n (← sums n (← products n (← signed n)))
    match a, ← peek with
    | .value p, some (.sign s) =>
      match assignments.lookup s with
      | some op =>
        advance
        return .assign p op (← expression n)
      | none => return a
    | _, _ => return a

/-- Takes what is joined to a text. -/
def joins : Nat → Expr → Reader Expr
  | 0, _ => unexpected
  | n + 1, a => do
    match ← peek with
    | some t =>
      if startsOperand t then joins n (.join a (← sums n (← products n (← signed n)))) else return a
    | none => return a

/-- Takes what is added to an operand. -/
def sums : Nat → Expr → Reader Expr
  | 0, _ => unexpected
  | n + 1, a => do
    if ← accept "+" then sums n (.arithmetic .add a (← products n (← signed n)))
    else if ← accept "-" then sums n (.arithmetic .subtract a (← products n (← signed n)))
    else return a

/-- Takes what an operand is multiplied with. -/
def products : Nat → Expr → Reader Expr
  | 0, _ => unexpected
  | n + 1, a => do
    if ← accept "*" then products n (.arithmetic .multiply a (← signed n))
    else if ← accept "/" then products n (.arithmetic .divide a (← signed n))
    else if ← accept "%" then products n (.arithmetic .remainder a (← signed n))
    else return a

/-- Takes an operand with the signs in front of it. -/
def signed : Nat → Reader Expr
  | 0 => unexpected
  | n + 1 => do
    if ← accept "!" then return .not (← signed n)
    else if ← accept "-" then return .negate (← signed n)
    else if ← accept "+" then return .plus (← signed n)
    else reads n (← powered n)

/-- Takes what reads from a command. -/
def reads : Nat → Expr → Reader Expr
  | 0, _ => unexpected
  | n + 1, a => do
    if ← readsCommand then
      advance
      advance
      reads n (.read (.command a) (← place? n))
    else return a

/-- Takes a power. -/
def powered : Nat → Reader Expr
  | 0 => unexpected
  | n + 1 => do
    let a ← stepped n
    if ← accept "^" then return .arithmetic .power a (← exponent n) else return a

/-- Takes an exponent, which may have signs in front of it. -/
def exponent : Nat → Reader Expr
  | 0 => unexpected
  | n + 1 => do
    if ← accept "-" then return .negate (← exponent n)
    else if ← accept "+" then return .plus (← exponent n)
    else if ← accept "!" then return .not (← exponent n)
    else powered n

/-- Takes an operand, which may change by one afterwards. -/
def stepped : Nat → Reader Expr
  | 0 => unexpected
  | n + 1 => do
    let a ← primary n
    match a with
    | .value p =>
      if ← accept "++" then return .step p true false
      else if ← accept "--" then return .step p false false
      else return a
    | _ => return a

/-- Takes a place of which the value changes by one. -/
def stepOf : Nat → Bool → Reader Expr
  | 0, _ => unexpected
  | n + 1, up => do
    match ← place? n with
    | some p => return .step p up true
    | none => unexpected

/-- Takes a place if one comes next. -/
def place? : Nat → Reader (Option Place)
  | 0 => unexpected
  | n + 1 => do
    if ← accept "$" then return some (.field (← fieldNumber n))
    else
      match ← freeName? with
      | some x => return some (← named n x)
      | none => return none

/-- Takes what follows the name of a variable. -/
def named : Nat → String → Reader Place
  | 0, _ => unexpected
  | n + 1, x => do
    let v ← variableOf x
    if ← accept "[" then
      note v .table
      let es ← enclosed (expressions n)
      expect "]"
      return .element v es
    else
      note v .scalar
      return .variable v

/-- Takes the number of a field. The number of fields may change by one in it. -/
def fieldNumber : Nat → Reader Expr
  | 0 => unexpected
  | n + 1 => do
    if ← countChanges then stepped n
    else if ← accept "++" then stepOf n true
    else if ← accept "--" then stepOf n false
    else if ← accept "-" then return .negate (← fieldNumber n)
    else if ← accept "+" then return .plus (← fieldNumber n)
    else if ← accept "!" then return .not (← fieldNumber n)
    else primary n

/-- Takes a single operand. -/
def primary : Nat → Reader Expr
  | 0 => unexpected
  | n + 1 => do
    match ← peek with
    | some (.number x written) =>
      advance
      literal x written
    | some (.text s) =>
      advance
      return .text s
    | some (.regex s) =>
      advance
      pattern s
    | some (.sign "++") =>
      advance
      stepOf n true
    | some (.sign "--") =>
      advance
      stepOf n false
    | some (.sign "(") =>
      advance
      let e ← enclosed (expression n)
      expect ")"
      return .grouped e
    | some (.callee f) =>
      advance
      let line := (← get).line
      advance
      let es ← enclosed (arguments n)
      modify fun d => { d with calls := (line, f, es.length) :: d.calls }
      return .call f es
    | some (.name "getline") =>
      advance
      let into ← place? n
      if ← accept "<" then return .read (.file (← powered n)) into else return .read .input into
    | some (.name x) =>
      match Function.names.lookup x with
      | some (f, least, most) =>
        advance
        if ← accept "(" then
          let es ← enclosed (arguments n)
          checkArguments x f least most es
          return .apply f es
        else if f == .length then return .apply f []
        else unexpected
      | none =>
        match ← place? n with
        | some p => return .value p
        | none => unexpected
    | _ =>
      match ← place? n with
      | some p => return .value p
      | none => unexpected

/-- Takes expressions with commas between them. -/
def expressions : Nat → Reader (List Expr)
  | 0 => unexpected
  | n + 1 => do
    let e ← expression n
    if ← accept "," then return e :: (← expressions n) else return [e]

/-- Takes arguments and the parenthesis behind them. The use of a variable that is an argument is not
    known. -/
def arguments : Nat → Reader (List Expr)
  | 0 => unexpected
  | n + 1 => do
    if ← accept ")" then return []
    let e ←
      match ← loneName? with
      | some x =>
        advance
        pure (.value (.variable (← variableOf x)))
      | none => expression n
    if ← accept "," then
      if ← isNext ")" then unexpected
      return e :: (← arguments n)
    expect ")"
    return [e]

end

/-! ## Statements -/

/-- Takes the end of a statement. A brace ends it, too, and stays. -/
def terminate : Reader Unit := do
  match ← peek with
  | some .lineEnd | some (.sign ";") => advance
  | some (.sign "\x7d") => pure ()
  | _ => unexpected

/-- Whether a statement ends here. -/
def isEnd : Reader Bool := do
  match ← peek with
  | some .lineEnd | some (.sign ";") | some (.sign "\x7d") | none => return true
  | _ => return false

/-- Whether what is printed ends in front of tokens. -/
def endsPrint : List Token → Bool
  | [] => true
  | t :: _ =>
    match t.kind with
    | .lineEnd => true
    | .sign s => [";", "\x7d", ">", ">>", "|"].contains s
    | _ => false

/-- The tokens behind the parenthesis that closes a number of open ones. -/
def behindParens : Nat → List Token → List Token
  | _, [] => []
  | depth, t :: ts =>
    match t.kind with
    | .sign "(" => behindParens (depth + 1) ts
    | .sign ")" => if depth ≤ 1 then ts else behindParens (depth - 1) ts
    | _ => behindParens depth ts

/-- Takes what is printed. Parentheses around all of it are taken away. -/
def printed (n : Nat) : Reader (List Expr) := do
  let _ ← peek
  if endsPrint (← get).rest then return []
  if (← isNext "(") && endsPrint (behindParens 0 (← get).rest) then
    advance
    if ← accept ")" then return []
    let es ← expressions n
    expect ")"
    return es
  modify fun d => { d with isBare := true }
  let es ← expressions n
  modify fun d => { d with isBare := false }
  return es

/-- Takes where output goes. -/
def target (n : Nat) : Reader Target := do
  if ← accept ">" then return .file (← expression n)
  else if ← accept ">>" then return .append (← expression n)
  else if ← accept "|" then return .command (← expression n)
  else return .output

/-- Takes an expression in parentheses and an end of a line behind it. -/
def condition (n : Nat) : Reader Expr := do
  expect "("
  let e ← expression n
  expect ")"
  dropLineEnd
  return e

/-- The variable and the table of a loop over keys, if the tokens behind its parenthesis are of one. -/
def keyLoop? : List Token → Option (String × String)
  | ⟨.name x, _⟩ :: ⟨.name "in", _⟩ :: ⟨.name t, _⟩ :: ⟨.sign ")", _⟩ :: _ =>
    if isFree x && isFree t then some (x, t) else none
  | _ => none

/-- Reads a body of a loop. -/
def inLoop {α : Type} (r : Reader α) : Reader α := do
  modify fun d => { d with loops := d.loops + 1 }
  let a ← r
  modify fun d => { d with loops := d.loops - 1 }
  return a

/-- Takes a statement that is a single name. -/
def jump (s : Statement) (allowed : Bool) (message : String) : Reader Statement := do
  advance
  unless allowed do report message
  terminate
  return s

/-- Takes an expression in front of the end of a statement if there is one. -/
def maybeExpression (n : Nat) : Reader (Option Expr) := do
  if ← isEnd then return none else return some (← expression n)

/-- Takes a statement that writes something. -/
def printing (n : Nat) (formatted : Bool) : Reader Statement := do
  advance
  let es ← printed n
  if formatted && es.isEmpty then report "no arguments in call to printf"
  let place ← target n
  terminate
  return if formatted then .printFormat es place else .print es place

/-- Takes a statement that removes keys from a table. -/
def deletion (n : Nat) : Reader Statement := do
  advance
  let v ← table
  if ← accept "[" then
    let es ← enclosed (expressions n)
    expect "]"
    terminate
    return .delete v (some es)
  else
    terminate
    return .delete v none

mutual

/-- Takes a statement. -/
def statement : Nat → Reader Statement
  | 0 => unexpected
  | n + 1 => do
    let d ← get
    match ← peek with
    | some (.sign "\x7b") => return .block (← block n)
    | some (.sign ";") =>
      advance
      return .block []
    | some (.name "if") =>
      advance
      let c ← condition n
      let yes ← statement n
      if ← acceptName "else" then return .choice c yes (some (← statement n))
      else return .choice c yes none
    | some (.name "while") =>
      advance
      let c ← condition n
      return .loop (some c) (← inLoop (statement n)) none
    | some (.name "do") =>
      advance
      let body ← inLoop (statement n)
      unless ← acceptName "while" do unexpected
      expect "("
      let c ← expression n
      expect ")"
      terminate
      return .loopOnce body c
    | some (.name "for") =>
      advance
      expect "("
      forLoop n
    | some (.name "print") => printing n false
    | some (.name "printf") => printing n true
    | some (.name "delete") => deletion n
    | some (.name "break") =>
      jump .leaveLoop (d.loops != 0) "break statement outside of loop"
    | some (.name "continue") =>
      jump .nextRound (d.loops != 0) "continue statement outside of loop"
    | some (.name "next") => jump .nextRecord d.hasRecord "improper use of next"
    | some (.name "nextfile") => jump .nextFile d.hasRecord "improper use of nextfile"
    | some (.name "exit") =>
      advance
      let e ← maybeExpression n
      terminate
      return .exit e
    | some (.name "return") =>
      advance
      unless d.inProcedure do report "return outside function body"
      let e ← maybeExpression n
      terminate
      return .back e
    | _ =>
      let e ← expression n
      terminate
      return .expression e

/-- Takes a loop, of which the opening parenthesis has been taken. -/
def forLoop : Nat → Reader Statement
  | 0 => unexpected
  | n + 1 => do
    let _ ← peek
    match keyLoop? (← get).rest with
    | some (x, t) =>
      for _ in List.range 4 do advance
      dropLineEnd
      let v ← variableOf x
      note v .scalar
      let t ← variableOf t
      note t .table
      return .each v t (← inLoop (statement n))
    | none =>
      let first ← if ← isNext ";" then pure none else pure (some (← expression n))
      expect ";"
      let c ← if ← isNext ";" then pure none else pure (some (← expression n))
      expect ";"
      let behind ← if ← isNext ")" then pure none else pure (some (← expression n))
      expect ")"
      dropLineEnd
      let body ← inLoop (statement n)
      let loop := Statement.loop c body (behind.map .expression)
      return .block ((first.map Statement.expression).toList ++ [loop])

/-- Takes statements in braces. -/
def block : Nat → Reader (List Statement)
  | 0 => unexpected
  | n + 1 => do
    expect "\x7b"
    statements n

/-- Takes statements and the brace behind them. -/
def statements : Nat → Reader (List Statement)
  | 0 => unexpected
  | n + 1 => do
    if ← accept "\x7d" then return []
    let s ← statement n
    return s :: (← statements n)

end

/-! ## Programs -/

/-- Takes the parameters of a function and the parenthesis behind them. -/
def parameters : Nat → Reader (List String)
  | 0 => unexpected
  | n + 1 => do
    if ← accept ")" then return []
    match ← freeName? with
    | none => unexpected
    | some x =>
      if ← accept "," then return x :: (← parameters n)
      expect ")"
      return [x]

/-- Whether a name stands twice among names. -/
def duplicate? : List String → Option String
  | [] => none
  | x :: xs => if xs.contains x then some x else duplicate? xs

/-- Takes a function of the program. -/
def procedure (n : Nat) : Reader Unit := do
  advance
  let name ←
    match ← peek with
    | some (.callee f) =>
      advance
      pure f
    | some (.name f) =>
      unless isFree f do unexpected
      advance
      pure f
    | _ => unexpected
  if ((← get).procedures.lookup name).isSome then report ("redefinition of " ++ name)
  if let some u := (← get).globals.lookup name then
    report ("illegal reference to " ++ calledAs false u name)
  expect "("
  let names ← parameters n
  if let some x := duplicate? names then report (x ++ " is duplicated in argument list")
  dropLineEnd
  modify fun d => { d with
    parameters := names, parameterUses := [], inProcedure := true, hasRecord := false }
  let body ← block n
  modify fun d => { d with
    parameters := [], parameterUses := [], inProcedure := false, hasRecord := true
    procedures := (name, ⟨names.length, body⟩) :: d.procedures }
  let _ ← accept ";"

/-- Takes an action. -/
def action (n : Nat) : Reader (List Statement) := do
  let body ← block n
  let _ ← accept ";"
  return body

/-- Takes a rule. -/
def rule (n : Nat) : Reader Rule := do
  match ← peek with
  | some (.sign "\x7b") => return ⟨.always, some (← action n)⟩
  | some (.name x) =>
    if x == "BEGIN" || x == "END" then
      advance
      modify fun d => { d with hasRecord := false }
      let body ← action n
      modify fun d => { d with hasRecord := true }
      return ⟨if x == "BEGIN" then .beginning else .ending, some body⟩
    else conditional n
  | _ => conditional n
where
  /-- Takes a rule with a condition. -/
  conditional (n : Nat) : Reader Rule := do
    let e ← expression n
    let occasion ← if ← accept "," then pure (Occasion.between e (← expression n)) else pure (.when e)
    if ← isNext "\x7b" then return ⟨occasion, some (← action n)⟩
    else
      terminate
      return ⟨occasion, none⟩

/-- Takes rules and functions. -/
def rules (depth : Nat) : Nat → Reader (List Rule)
  | 0 => unexpected
  | n + 1 => do
    match ← peek with
    | none => return []
    | some (.name x) =>
      if x == "function" || x == "func" then
        procedure depth
        rules depth n
      else return (← rule depth) :: (← rules depth n)
    | some _ => return (← rule depth) :: (← rules depth n)

/-- Reports calls of functions that there are not, and calls with too many arguments. -/
def checkCalls : Reader Unit := do
  let d ← get
  for (line, f, count) in d.calls.reverse do
    match d.procedures.lookup f with
    | none =>
      modify fun d => { d with
        mistakes := ⟨d.lastLine, "function " ++ f ++ " never defined", true⟩ :: d.mistakes }
    | some p =>
      if p.parameters < count then
        modify fun d => { d with
          mistakes := ⟨line, "too many arguments in call to " ++ f, true⟩ :: d.mistakes }

/-- Takes a whole program. -/
def program (n : Nat) : Reader Program := do
  let rules ← rules n n
  checkCalls
  return ⟨rules, (← get).procedures⟩

end Reader

/-- The program that a text writes, or what is wrong with it. -/
def Program.read (text : String) : Except (List Mistake) Program :=
  let tokens := Token.read text
  let lastLine := Token.lineEnds text.toList + 2
  match Reader.program (24 * tokens.length + 64) { rest := tokens, lastLine } with
  | .ok p d => if d.mistakes.isEmpty then .ok p else .error d.mistakes.reverse
  | .error m d => .error (d.mistakes.reverse ++ [m])

end Buildwright.Shell.Records
