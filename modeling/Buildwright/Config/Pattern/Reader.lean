-- SUMMARY: Reading patterns for the values of fields from their text.
import Buildwright.Config.Pattern.Basic
import Buildwright.Text.Blank
import Buildwright.Text.Alphanumeric

/-!
# Reading patterns

`Pattern.ofText?` reads a pattern. A directive cannot hold a comma, an equals sign or a closing brace within
a pattern, so there are no counted repetitions and nothing else that needs these: an opening brace makes
a text no pattern.

A repetition sign stands behind what it repeats. Within brackets a closing bracket that comes first is a
member, and a dash is one at the beginning and at the end.
-/
namespace Buildwright.Pattern

/-- What is left of a pattern's text, whether blanks and comments in it are passed over, and the names of
    groups before it. -/
structure Source where
  rest : List Char
  spaced : Bool
  names : List (List Char)

/-- The characters behind blanks and comments, of which a first comment may already have begun. A comment
    goes from a `#` to the end of the line. -/
def behindBlanks (inComment : Bool) : List Char → List Char
  | [] => []
  | c :: cs =>
    if inComment then behindBlanks (c != '\n') cs
    else if Text.isBlank c then behindBlanks false cs
    else if c == '#' then behindBlanks true cs
    else c :: cs

namespace Source

/-- The source with other characters left. -/
def leaving (s : Source) (cs : List Char) : Source := { s with rest := cs }

/-- The source behind blanks and comments, if these are passed over. -/
def trimmed (s : Source) : Source :=
  if s.spaced then s.leaving (behindBlanks false s.rest) else s

/-- The first character of some that are left which is not blank, if blanks are passed over. The sign that
    begins a comment counts as one blank. -/
def next? (s : Source) (cs : List Char) : Option Char :=
  if s.spaced then
    match cs.dropWhile Text.isBlank with
    | '#' :: rest => (rest.dropWhile Text.isBlank).head?
    | rest => rest.head?
  else cs.head?

end Source

/-! ## Single characters -/

/-- The value of a hexadecimal digit. -/
def hexValue? (c : Char) : Option Nat :=
  if c.isDigit then some (c.toNat - '0'.toNat)
  else if 'a' ≤ c.toLower && c.toLower ≤ 'f' then some (c.toLower.toNat - 'a'.toNat + 10)
  else none

/-- The number that some hexadecimal digits add to those of the value `v`. -/
def hexDigits? : Nat → Nat → Source → Option (Nat × Source)
  | 0, v, s => some (v, s)
  | n + 1, v, s =>
    let s := s.trimmed
    match s.rest with
    | c :: cs => (hexValue? c).bind fun d => hexDigits? n (16 * v + d) (s.leaving cs)
    | [] => none

/-- The letters behind which a character is written as a number, with how many digits it has. -/
def hexLengths : List (Char × Nat) :=
  [('x', 2), ('u', 4), ('U', 8)]

/-- The letters that stand for something of their own behind a backslash. -/
def escapes : List (Char × Atom) :=
  [('d', .kind false), ('s', .kind false), ('w', .kind false),
    ('D', .kind true), ('S', .kind true), ('W', .kind true),
    ('A', .edge), ('z', .edge),
    ('b', .wordEdge), ('B', .wordEdge), ('<', .wordEdge), ('>', .wordEdge),
    ('a', .literal ⟨'\x07', false⟩), ('f', .literal ⟨'\x0c', false⟩), ('t', .literal ⟨'\t', false⟩),
    ('n', .literal ⟨'\n', false⟩), ('r', .literal ⟨'\r', false⟩), ('v', .literal ⟨'\x0b', false⟩)]

/-- What a backslash and what follows it stand for. -/
def escape? (s : Source) : Option (Atom × Source) :=
  match s.rest with
  | [] => none
  | c :: cs =>
    match hexLengths.lookup c, escapes.lookup c with
    | some n, _ => do
      let (v, s) ← hexDigits? n 0 (s.leaving cs)
      if Nat.isValidChar v then some (.literal ⟨Char.ofNat v, n = 2⟩, s) else none
    | none, some a => some (a, s.leaving cs)
    | none, none =>
      if isAscii c && !c.isAlphanum then some (.literal ⟨c, false⟩, s.leaving cs) else none

/-! ## Sets of characters -/

/-- The names of the ASCII classes. -/
def classNames : List String :=
  ["alnum", "alpha", "ascii", "blank", "cntrl", "digit", "graph", "lower", "print", "punct", "space",
    "upper", "word", "xdigit"]

namespace CharSet

/-- The set that an atom between brackets stands for. -/
def ofAtom? : Atom → Option CharSet
  | .literal l => some (literal l)
  | .kind negated => some (kind negated)
  | _ => none

/-- The ASCII class whose name in colons follows an opening bracket, and what follows its closing
    bracket. -/
def ascii? : List Char → Option (CharSet × List Char)
  | ':' :: cs =>
    let negated := cs.head? == some '^'
    match (if negated then cs.drop 1 else cs).span (· != ':') with
    | (name, ':' :: ']' :: rest) =>
      if classNames.contains (String.ofList name) then some (ascii negated, rest) else none
    | _ => none
  | _ => none

/-- An atom between brackets. -/
def atom? (s : Source) : Option (Atom × Source) :=
  match s.rest with
  | '\x5c' :: cs => escape? (s.leaving cs)
  | c :: cs => some (.literal ⟨c, false⟩, s.leaving cs)
  | [] => none

/-- A range, or an atom that is not followed by a dash and another one. -/
def range? (s : Source) : Option (CharSet × Source) := do
  let (low, s) ← atom? s
  let s := s.trimmed
  let isRange :=
    match s.rest with
    | '-' :: cs => s.next? cs != some ']' && s.next? cs != some '-'
    | _ => false
  if !isRange then (ofAtom? low).map (·, s)
  else
    let (high, s) ← atom? (s.leaving (s.rest.drop 1)).trimmed
    match low, high with
    | .literal low, .literal high => if low.char ≤ high.char then some (range low high, s) else none
    | _, _ => none

/-- The dashes at the beginning of a set, of which at most `n` are read. -/
def dashes : Nat → Source → List CharSet × Source
  | 0, s => ([], s)
  | n + 1, s =>
    match s.rest with
    | '-' :: cs =>
      let (found, s) := dashes n (s.leaving cs).trimmed
      (literal ⟨'-', false⟩ :: found, s)
    | _ => ([], s)

/-- Whether a set is negated, and the members that stand at its beginning and not elsewhere. -/
def opening (s : Source) : Bool × List CharSet × Source :=
  let s := s.trimmed
  let negated := s.rest.head? == some '^'
  let s := if negated then (s.leaving (s.rest.drop 1)).trimmed else s
  let (found, s) := dashes s.rest.length s
  match found, s.rest with
  | [], ']' :: cs => (negated, [literal ⟨']', false⟩], (s.leaving cs).trimmed)
  | _, _ => (negated, found, s)

/-- The set of the parts behind an operator, or of all parts if there is none. The parts come last
    first. -/
def joined (left : Option CharSet) (parts : List CharSet) : CharSet :=
  let right := ofParts parts.reverse
  match left with
  | some left => operation left right
  | none => right

/-- The set up to a closing bracket, of which at most `n` parts are read. What stands in front of the last
    operator is `left`, and `parts` are those read since, last first. -/
def members? : Nat → Option CharSet → List CharSet → Source → Option (CharSet × Source)
  | 0, _, _, _ => none
  | n + 1, left, parts, s =>
    let s := s.trimmed
    match s.rest with
    | ']' :: cs => some (joined left parts, s.leaving cs)
    | '&' :: '&' :: cs | '-' :: '-' :: cs | '~' :: '~' :: cs =>
      members? n (some (joined left parts)) [] (s.leaving cs)
    | '[' :: cs =>
      match ascii? cs with
      | some (part, rest) => members? n left (part :: parts) (s.leaving rest)
      | none => do
        let (negated, found, s) := opening (s.leaving cs)
        let (inner, s) ← members? n none found.reverse s
        members? n left (nested negated inner :: parts) s
    | _ => do
      let (part, s) ← range? s
      members? n left (part :: parts) s

/-- The set behind an opening bracket, and whether it is negated. -/
def read? (s : Source) : Option (Bool × CharSet × Source) := do
  let (negated, found, s) := opening s
  let (inner, s) ← members? (s.rest.length + 1) none found.reverse s
  return (negated, inner, s)

end CharSet

/-! ## Groups -/

/-- What an opening parenthesis begins. -/
inductive Opening where
  /-- Flags are switched for the rest of the group around. -/
  | switches (s : Settings)
  /-- A group with flags of its own. -/
  | begins (s : Settings)

/-- The flags in front of a colon or a closing parenthesis, behind those in `found`; a dash in front of
    flags clears them. `dash` tells whether one has been read, and `owed` whether a flag has to follow
    it. No flag is named twice. -/
def settings? (dash owed : Bool) (found : Settings) : List Char → Option (Settings × List Char)
  | [] => none
  | c :: cs =>
    if c == ':' || c == ')' then if owed then none else some (found, c :: cs)
    else if c == '-' then if dash then none else settings? true true found cs
    else
      match Flag.named.lookup c with
      | some f =>
        if (found.lookup f).isSome then none else settings? dash false (found ++ [(f, !dash)]) cs
      | none => none

/-- Whether a character may stand in the name of a group behind the first. -/
def isNameChar (c : Char) : Bool :=
  c == '_' || c == '.' || c == '[' || c == ']' || Text.isAlphanumeric c

/-- The source behind the name of a group, which no group before it has. -/
def groupName? (s : Source) (cs : List Char) : Option Source :=
  match cs.span isNameChar with
  | (first :: more, '>' :: rest) =>
    if (first == '_' || Text.isLetter first) && !s.names.contains (first :: more) then
      some { s with rest := rest, names := (first :: more) :: s.names }
    else none
  | _ => none

/-- What an opening parenthesis begins, and the source behind the signs that say so. -/
def opening? (s : Source) : Option (Opening × Source) :=
  let s := s.trimmed
  match s.rest with
  | '?' :: 'P' :: '<' :: cs => (groupName? s cs).map (.begins [], ·)
  | '?' :: '<' :: cs => (groupName? s cs).map (.begins [], ·)
  | '?' :: cs =>
    match settings? false false [] cs with
    | some (found, ':' :: rest) => some (.begins found, s.leaving rest)
    | some (found, ')' :: rest) => if found = [] then none else some (.switches found, s.leaving rest)
    | _ => none
  | _ => some (.begins [], s)

/-- The source with blanks passed over as flags say. -/
def Source.switched (s : Source) (found : Settings) : Source :=
  { s with spaced := (found.lookup .spaced).getD s.spaced }

/-! ## Patterns -/

/-- The pattern of alternatives of which the last is a sequence; they come last first, and so do the parts
    of the sequence. -/
def joined (choices parts : List Pattern) : Pattern :=
  ofChoice (ofSequence parts.reverse :: choices).reverse

/-- The parts, last first, of which the last is repeated. -/
def repeated? : List Pattern → Option (List Pattern)
  | p :: parts => if p.isRepeatable then some (repetition p :: parts) else none
  | [] => none

/-- An atom outside brackets. -/
def atom? (s : Source) : Option (Atom × Source) :=
  match s.rest with
  | '\x5c' :: cs => escape? (s.leaving cs)
  | '.' :: cs => some (.anyChar, s.leaving cs)
  | '^' :: cs | '$' :: cs => some (.edge, s.leaving cs)
  | c :: cs => some (.literal ⟨c, false⟩, s.leaving cs)
  | [] => none

/-- The pattern up to the end of a group or of the text, of which at most `n` parts are read. Alternatives
    that are complete are in `choices`, and the parts of the last one in `parts`, both last first. -/
def read? : Nat → List Pattern → List Pattern → Source → Option (Pattern × Source)
  | 0, _, _, _ => none
  | n + 1, choices, parts, s =>
    let s := s.trimmed
    match s.rest with
    | [] | ')' :: _ => some (joined choices parts, s)
    | '|' :: cs => read? n (ofSequence parts.reverse :: choices) [] (s.leaving cs)
    | '(' :: cs => do
      match ← opening? (s.leaving cs) with
      | (.switches found, s) => read? n choices (switch found :: parts) (s.switched found)
      | (.begins found, inside) =>
        let (inner, s') ← read? n [] [] (inside.switched found)
        match s'.rest with
        | ')' :: cs =>
          read? n choices (group found inner :: parts) { s' with rest := cs, spaced := s.spaced }
        | _ => none
    | '[' :: cs => do
      let (negated, inner, s) ← CharSet.read? (s.leaving cs)
      read? n choices (set negated inner :: parts) s
    | '*' :: cs | '+' :: cs | '?' :: cs => do
      let parts ← repeated? parts
      read? n choices parts (s.leaving (if cs.head? = some '?' then cs.drop 1 else cs))
    | '\x7b' :: _ => none
    | _ => do
      let (a, s) ← atom? s
      read? n choices (.atom a :: parts) s

/-- The pattern with a text. -/
def ofText? (cs : List Char) : Option Pattern :=
  match read? (cs.length + 1) [] [] ⟨cs, false, []⟩ with
  | some (p, s) => if s.rest = [] then some p else none
  | none => none

/-- Whether a text is a pattern that can be used for whole values: the sign for the end of a value is put
    behind it. -/
def isValue (cs : List Char) : Bool :=
  (ofText? (cs ++ ['$'])).any isUsable

end Buildwright.Pattern
