-- SUMMARY: Reading regular expressions, in the basic and in the extended form.
import Buildwright.Shell.Regex
import Buildwright.Text.Number

/-!
# Reading regular expressions

In the basic form, parentheses, braces, bars, plus signs and question marks have a meaning behind a
backslash; in the extended form, they have one without it.
-/
namespace Buildwright.Shell.Regex

/-- How regular expressions are written. -/
structure Style where
  extended : Bool
  /-- Whether letters behind backslashes stand for control characters, also in brackets. -/
  escapes : Bool := false
  /-- Whether backslashes quote characters in brackets. -/
  quotesInBrackets : Bool := false
  /-- Whether groups can be referred to. -/
  references : Bool := true
  /-- Whether a repetition with nothing to repeat is a mistake, and bounds that are none. -/
  strict : Bool := false
  /-- Whether the name of a class that stands for a bracket is a mistake. -/
  checksClasses : Bool := false
  /-- Whether numbers behind backslashes are codes of characters, and a backslash at the end stands for
      itself. -/
  codes : Bool := false
  /-- Whether an alternative or a group without anything in it is a mistake, and a repetition with nothing
      to repeat. -/
  needsParts : Bool := false

/-- An expression that is being read: what is left, and how many groups have begun and are open. -/
structure Draft where
  rest : List Char
  groups : Nat := 0
  depth : Nat := 0
  finished : List Nat := []

/-- Reads an expression; a failure says what is wrong. -/
abbrev Reader := EStateM String Draft

/-- The control characters that letters stand for. -/
def controls : List (Char × Char) :=
  [('a', '\x07'), ('f', '\x0c'), ('n', '\n'), ('r', '\r'), ('t', '\t'), ('v', '\x0b')]

namespace Reader

/-- What is left to read. -/
def left : Reader (List Char) := do
  return (← get).rest

/-- Goes on with what is left. -/
def goOn (rest : List Char) : Reader Unit :=
  modify fun s => { s with rest }

/-- Takes some characters if they come next. -/
def accept (text : String) : Reader Bool := do
  match text.toList.isPrefixOf? (← left) with
  | some rest =>
    goOn rest
    return true
  | none => return false

/-! ## Brackets -/

/-- An element of a bracket. -/
inductive Element where
  | char (c : Char)
  /-- The members of a class, or the characters that count as the same as one. -/
  | class_ (ranges : List (Char × Char))

namespace Element

/-- The ranges of an element. -/
def ranges : Element → List (Char × Char)
  | char c => [(c, c)]
  | class_ ranges => ranges

end Element

/-- The characters up to a sign with a closing bracket, and what follows these. -/
def upToSign (sign : Char) : List Char → Option (List Char × List Char)
  | a :: b :: rest =>
    if a == sign && b == ']' then some ([], rest)
    else (upToSign sign (b :: rest)).map fun (cs, after) => (a :: cs, after)
  | _ => none

/-- What is said of a bracket that is not closed. -/
def unclosed : String := "Unmatched [, [^, [:, [., or [="

/-- What stands behind an opening bracket and a sign within a bracket. -/
def signed (sign : Char) (cs : List Char) : Except String (Element × List Char) :=
  match upToSign sign cs with
  | none => throw unclosed
  | some (name, after) =>
    if sign == ':' then
      match CharClass.named.lookup (String.ofList name) with
      | some ranges => return (.class_ ranges, after)
      | none => throw "Invalid character class name"
    else
      match name with
      | [c] => return (if sign == '=' then .class_ [(c, c)] else .char c, after)
      | _ => throw "Invalid collation character"

/-- An element that begins with a character, and what follows it. -/
def element (s : Style) (c : Char) (cs : List Char) : Except String (Element × List Char) :=
  match c, cs with
  | '[', sign :: rest =>
    if s.quotesInBrackets then
      match CharClass.className? cs with
      | some _ => signed ':' rest
      | none => return (.char c, cs)
    else if [':', '.', '='].contains sign then signed sign rest
    else return (.char c, cs)
  | '\x5c', d :: rest =>
    if s.quotesInBrackets then return (.char ((controls.lookup d).getD d), rest)
    else if s.escapes then
      match controls.lookup d with
      | some e => return (.char e, rest)
      | none => return (.char c, cs)
    else return (.char c, cs)
  | _, _ => return (.char c, cs)

/-- The members of a bracket, of which the opening sign has been taken, and what follows the closing
    one. One that stands first is a member, and so is a dash. -/
def members? (s : Style) :
    Nat → Bool → List Char → Except String (List (Char × Char) × List Char)
  | _, true, [] => throw "Invalid regular expression"
  | 0, _, _ | _, _, [] => throw unclosed
  | n + 1, first, c :: cs => do
    let more (ranges : List (Char × Char)) (rest : List Char) := do
      let (found, after) ← members? s n false rest
      return (ranges ++ found, after)
    if c == ']' && !first then return ([], cs)
    if c == '-' && !first && !s.quotesInBrackets && cs.head?.any (· != ']') then throw "Invalid range end"
    let (low, rest) ← element s c cs
    match rest with
    | '-' :: d :: rest' =>
      if d == ']' then more low.ranges rest
      else
        let (high, after) ← element s d rest'
        match low, high with
        | .char a, .char b => if b < a then throw "Invalid range end" else more [(a, b)] after
        | _, _ => throw "Invalid range end"
    | _ => more low.ranges rest

/-- What is said of the name of a class that stands for a bracket. -/
def classFault : String := "character class syntax is [[:space:]], not [:space:]"

/-- Whether a bracket, of which the opening sign has been taken, looks like the name of a class. -/
def looksLikeClass (cs : List Char) : Bool :=
  match cs with
  | ':' :: c :: rest => ((c :: rest).takeWhile (· != ']')).getLast? == some ':' && c != ']'
  | _ => false

/-- Takes a bracket, of which the opening sign has been taken. -/
def bracket (s : Style) : Reader Regex := do
  let cs ← left
  if s.checksClasses && looksLikeClass cs then throw classFault
  let (negated, cs) :=
    match cs with
    | '^' :: rest => (true, rest)
    | _ => (false, cs)
  match members? s (cs.length + 1) true cs with
  | .ok (ranges, rest) =>
    goOn rest
    return .one ⟨negated, ranges⟩
  | .error message => throw message

/-! ## Repetitions -/

/-- The greatest number of repetitions. -/
def mostRepetitions : Nat := 32767

/-- The bounds that stand in front of a closing text, and what follows it. -/
def bounds? (closing : String) (cs : List Char) : Option (Nat × Option Nat × List Char) :=
  let number (ds : List Char) : Option Nat := (String.ofList ds).toNat?
  let low := cs.takeWhile Char.isDigit
  match cs.drop low.length with
  | ',' :: rest =>
    let high := rest.takeWhile Char.isDigit
    (closing.toList.isPrefixOf? (rest.drop high.length)).map fun after =>
      ((number low).getD 0, number high, after)
  | rest => do
    let n ← number low
    let after ← closing.toList.isPrefixOf? rest
    return (n, some n, after)

/-- What is wrong with bounds, if anything is. -/
def wrongBounds? (least : Nat) (most : Option Nat) : Option String :=
  let top := most.getD least
  if top < least then some "Invalid content of \x5c\x7b\x5c\x7d"
  else if mostRepetitions < top then some "Regular expression too big"
  else none

/-- Whether there is anything that closes the bounds that text begins with. -/
def areClosed (closing : String) : List Char → Bool
  | [] => false
  | c :: cs => closing.toList.isPrefixOf (c :: cs) || areClosed closing cs

/-- What is wrong with bounds that are none. -/
def boundsFault (closing : String) (cs : List Char) : String :=
  if areClosed closing cs then "Invalid content of \x5c\x7b\x5c\x7d" else "Unmatched \x5c\x7b"

/-- Takes the signs of repetition behind an expression. -/
def repetitions (s : Style) : Nat → Regex → Reader Regex
  | 0, r => return r
  | n + 1, r => do
    if ← accept "*" then repetitions s n (.many r 0 none)
    else if ← accept (if s.extended then "+" else "\x5c+") then repetitions s n (.many r 1 none)
    else if ← accept (if s.extended then "?" else "\x5c?") then repetitions s n (.many r 0 (some 1))
    else
      let before ← left
      let closing := if s.extended then "\x7d" else "\x5c\x7d"
      if ← accept (if s.extended then "\x7b" else "\x5c\x7b") then
        match bounds? closing (← left) with
        | some (least, most, after) =>
          match wrongBounds? least most with
          | some why => throw why
          | none =>
            goOn after
            repetitions s n (.many r least most)
        | none =>
          if s.extended && !s.strict then
            goOn before
            return r
          else throw (boundsFault closing (← left))
      else return r

/-! ## Expressions -/

/-- An expression for a single character. -/
def exactly (c : Char) : Regex := .one (.only c)

/-- What letters behind a backslash stand for. -/
def lettered? (c : Char) : Option Regex :=
  match c with
  | 'w' => some (.one .wordChars)
  | 'W' => some (.one { CharClass.wordChars with negated := true })
  | 's' => some (.one ⟨false, [('\t', '\r'), (' ', ' ')]⟩)
  | 'S' => some (.one ⟨true, [('\t', '\r'), (' ', ' ')]⟩)
  | '<' => some (.edge .wordStart)
  | '>' => some (.edge .wordEnd)
  | 'b' => some (.edge .wordEdge)
  | 'B' => some (.edge .noWordEdge)
  | '\x60' => some (.edge .textStart)
  | '\'' => some (.edge .textEnd)
  | _ => none

/-- The expression for a character behind a backslash. -/
def escaped (s : Style) (c : Char) : Reader Regex := do
  if s.escapes then
    if let some d := controls.lookup c then return exactly d
  if s.references && c.isDigit && c != '0' then
    let n := c.toNat - '0'.toNat
    if (← get).finished.contains n then return .back n else throw "Invalid back reference"
  if s.references then
    if let some r := lettered? c then return r
  return exactly c

/-- The character that a code stands for, as an octal number or a hexadecimal one behind `x`, and what
    follows it. A `b` stands for the backspace. -/
def coded? (cs : List Char) : Option (Char × List Char) :=
  let octal := (cs.take 3).takeWhile fun d => '0' ≤ d && d ≤ '7'
  if !octal.isEmpty then
    some (Char.ofNat (Text.valueOfDigits 8 octal % 256), cs.drop octal.length)
  else
    match cs with
    | 'b' :: rest => some ('\x08', rest)
    | 'x' :: rest =>
      match (rest.take 2).takeWhile (Text.isDigitOf 16) with
      | [] => none
      | ds => some (Char.ofNat (Text.valueOfDigits 16 ds), rest.drop ds.length)
    | _ => none

/-- Whether an expression ends in front of a text: at the end, at a bar, or at a closing parenthesis. -/
def endsAt (s : Style) (open_ : Bool) : List Char → Bool
  | [] => true
  | '|' :: _ => s.extended
  | ')' :: _ => s.extended && open_
  | '\x5c' :: '|' :: _ => !s.extended
  | '\x5c' :: ')' :: _ => !s.extended
  | _ => false

mutual

/-- Takes an expression with its alternatives. -/
def alternatives (s : Style) : Nat → Reader Regex
  | 0 => throw "Regular expression too big"
  | n + 1 => do
    let a ← sequence s n true
    if ← accept (if s.extended then "|" else "\x5c|") then return .alt a (← alternatives s n)
    else return a

/-- Takes expressions that follow one another; `first` tells whether nothing stands in front. -/
def sequence (s : Style) : Nat → Bool → Reader Regex
  | 0, _ => throw "Regular expression too big"
  | n + 1, first => do
    let s' ← get
    if endsAt s (s'.depth != 0) s'.rest then
      let isOpen := s'.rest.isEmpty && s'.depth != 0
      if s.needsParts && first && !isOpen then throw "Invalid preceding regular expression"
      return .empty
    let anchored :=
      match s'.rest with
      | '^' :: _ => s.extended || first
      | _ => false
    if anchored then
      let after := s'.rest.drop 1
      goOn after
      if endsAt s (s'.depth != 0) after then return .edge .lineStart
      return .seq (.edge .lineStart) (← sequence s n true)
    else
      let a ← atom s n first
      let a ← repetitions s (s'.rest.length + 1) a
      if endsAt s (s'.depth != 0) (← left) then return a
      return .seq a (← sequence s n false)

/-- Takes a single expression. -/
def atom (s : Style) : Nat → Bool → Reader Regex
  | 0, _ => throw "Regular expression too big"
  | n + 1, first => do
    match ← left with
    | [] => return .empty
    | c :: cs =>
      goOn cs
      match c, cs with
      | '.', _ => return .one .all
      | '[', _ => bracket s
      | '$', _ =>
        if s.extended || endsAt s true cs then return .edge .lineEnd else return exactly c
      | '(', _ => if s.extended then group s n else return exactly c
      | ')', _ =>
        if s.extended && s.strict then throw "Unmatched ) or \x5c)" else return exactly c
      | '*', _ | '+', _ | '?', _ =>
        if s.extended && first then
          if s.strict || s.needsParts then throw "Invalid preceding regular expression"
          else return .empty
        else return exactly c
      | '\x7b', _ =>
        if s.extended && s.strict then throw "Invalid preceding regular expression"
        match if s.extended && first then bounds? "\x7d" cs else none with
        | some (_, _, after) =>
          goOn after
          return .empty
        | none => return exactly c
      | '\x5c', [] => if s.codes then return exactly c else throw "Trailing backslash"
      | '\x5c', d :: rest =>
        if s.codes then
          if let some (e, rest) := coded? cs then
            goOn rest
            return exactly e
        goOn rest
        if !s.extended && s.strict && first && d == '\x7b' then throw "Invalid preceding regular expression"
        else if !s.extended && d == '(' then group s n
        else if !s.extended && d == ')' then throw "Unmatched ) or \x5c)"
        else escaped s d
      | _, _ => return exactly c

/-- Takes a group, of which the opening parenthesis has been taken. -/
def group (s : Style) : Nat → Reader Regex
  | 0 => throw "Regular expression too big"
  | n + 1 => do
    let number := (← get).groups + 1
    modify fun d => { d with groups := number, depth := d.depth + 1 }
    let r ← alternatives s n
    unless ← accept (if s.extended then ")" else "\x5c)") do throw "Unmatched ( or \x5c("
    modify fun d => { d with depth := d.depth - 1, finished := number :: d.finished }
    return .group number r

end

end Reader

/-- The expression that a text writes and the number of its groups, or what is wrong with it. -/
def read (s : Style) (text : String) : Except String (Regex × Nat) :=
  match Reader.alternatives s (4 * text.length + 8) { rest := text.toList } with
  | .ok r d => if d.rest.isEmpty then .ok (r, d.groups) else .error "Unmatched ) or \x5c)"
  | .error message _ => .error message

end Buildwright.Shell.Regex
