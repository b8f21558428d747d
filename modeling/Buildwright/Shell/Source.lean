-- SUMMARY: The text of a shell script while it is read: characters, lines, documents, and words while they grow.
import Buildwright.Shell.Command
import Buildwright.Text.Pieces

/-!
# Reading scripts

A script is read character by character. A backslash at the end of a line joins it with the next, and
a document that an operator announces stands behind the line, from where it is taken at once.
-/
namespace Buildwright.Shell

/-- Why a text is not a script, and in which line. -/
structure Fault where
  message : String
  line : Nat

/-- What a script consists of between blanks. -/
inductive Token where
  | eof
  | newline
  /-- A sign between commands. -/
  | operator (text : String)
  /-- A word that has a meaning of its own where a command begins. -/
  | reserved (text : String)
  | word (w : Word)
  /-- The beginning of a redirection. For a document, `indented` tells whether the tabs in front of its
      lines do not count. -/
  | redirect (stream : Nat) (kind : Redirect) (indented : Bool)

namespace Token

/-- What a token is called in messages. -/
def name : Token → String
  | eof => "end of file"
  | newline => "newline"
  | operator text | reserved text => "\x22" ++ text ++ "\x22"
  | word _ => "word"
  | redirect _ _ _ => "redirection"

end Token

/-- The text of a script that is still to be read. -/
structure Source where
  rest : List Char
  /-- The line of the next character. -/
  line : Nat := 1
  /-- The number of lines that documents have taken out behind the line. -/
  hidden : Nat := 0
  /-- A token that has been read and not been used. -/
  pushed : Option Token := none
  /-- Words that stand for texts. -/
  aliases : List (String × String) := []
  /-- The words whose texts are being read, with the number of characters behind the text. -/
  replaced : List (String × Nat) := []

/-- Reads from a source. -/
abbrev Parser := EStateM Fault Source

namespace Parser

/-! ## Characters -/

/-- Fails with a message. -/
def fail {α : Type} (message : String) : Parser α := do
  throw ⟨message, (← get).line⟩

/-- The text without joined line ends in front, and the number of these. -/
def unjoined : List Char → Nat → List Char × Nat
  | '\x5c' :: '\n' :: cs, n => unjoined cs (n + 1)
  | cs, n => (cs, n)

/-- Passes over joined line ends. -/
def joinLines : Parser Unit :=
  modify fun s =>
    match unjoined s.rest 0 with
    | (_, 0) => s
    | (rest, n) => { s with rest, line := s.line + n }

/-- The next character, which stays where it is. -/
def peek : Parser (Option Char) := do
  return (← get).rest.head?

/-- The next character behind joined line ends, which stays where it is. -/
def peekJoined : Parser (Option Char) := do
  joinLines
  peek

/-- Takes a character. -/
def advance : Parser Unit :=
  modify fun s =>
    match s.rest with
    | '\n' :: rest => { s with rest, line := s.line + 1 + s.hidden, hidden := 0 }
    | _ :: rest => { s with rest }
    | [] => s

/-- Takes the next character if it is a certain one, and tells whether it is. -/
def accept (c : Char) : Parser Bool := do
  if (← peekJoined) == some c then
    advance
    return true
  else return false

/-- Takes characters as long as they fulfil a condition. -/
def takeWhile (p : Char → Bool) : Parser String := do
  let rec go : Nat → List Char → Parser (List Char)
    | 0, taken => return taken
    | n + 1, taken => do
      match ← peekJoined with
      | some c =>
        if p c then
          advance
          go n (c :: taken)
        else return taken
      | none => return taken
  let taken ← go ((← get).rest.length + 1) []
  return String.ofList taken.reverse

/-- Passes over blanks. -/
def skipBlanks : Parser Unit := do
  let _ ← takeWhile fun c => c == ' ' || c == '\t'

/-! ## Words while they grow -/

/-- A word while it grows: its parts, the last first, and the characters behind them, the last first,
    with whether they are quoted. -/
structure Draft where
  parts : List Part := []
  characters : List Char := []
  quoted : Bool := false

namespace Draft

/-- The parts, with the characters behind them as a part of their own. -/
def closed (d : Draft) : List Part :=
  match d.characters with
  | [] => d.parts
  | cs => .literal (String.ofList cs.reverse) d.quoted :: d.parts

/-- Adds a character. -/
def add (c : Char) (quoted : Bool) (d : Draft) : Draft :=
  if d.quoted == quoted then { d with characters := c :: d.characters }
  else ⟨d.closed, [c], quoted⟩

/-- Adds a part. -/
def addPart (p : Part) (d : Draft) : Draft :=
  ⟨p :: d.closed, [], d.quoted⟩

/-- Adds parts. -/
def addParts (ps : List Part) (d : Draft) : Draft :=
  ⟨ps.reverse ++ d.closed, [], d.quoted⟩

/-- The word. -/
def word (d : Draft) : Word := d.closed.reverse

end Draft

/-! ## Places in words -/

/-- Where characters of a word stand. -/
inductive Place where
  /-- Outside of all quotes. -/
  | outside
  /-- Behind the operator that announces a document. -/
  | announcement
  /-- In double quotes. -/
  | quotes
  /-- In the braces of a parameter, which may stand in quotes, and there perhaps in quotes again. -/
  | braces (quoted again : Bool)
  /-- In a document. -/
  | document
  /-- In an arithmetic expression, with some parentheses open. -/
  | arithmetic (parentheses : Nat)

namespace Place

/-- Whether characters are quoted at a place. -/
def isQuoted : Place → Bool
  | outside | announcement => false
  | braces quoted _ => quoted
  | quotes | document | arithmetic _ => true

/-- Whether quotes begin a quoted text at a place. -/
def hasQuotes : Place → Bool
  | outside | announcement => true
  | braces quoted _ => !quoted
  | quotes | document | arithmetic _ => false

/-- The characters that end a word. -/
def wordEnds : List Char := ['\n', ' ', '\t', ';', '&', '|', '(', ')', '<', '>']

/-- Whether a character ends what stands at a place. -/
def ends (c : Char) : Place → Bool
  | outside | announcement => wordEnds.contains c
  | quotes => c == '\x22'
  | braces _ again => c == '\x7d' && !again
  | document | arithmetic _ => false

/-- Whether a backslash quotes a character where characters are quoted anyway. -/
def escapes (c : Char) (p : Place) : Bool :=
  c == '\x5c' || c.toNat == 0x60 || c == '$' ||
    match p with
    | quotes | arithmetic _ => c == '\x22'
    | braces _ _ => c == '\x22' || c == '\x7d'
    | _ => false

/-- What is wrong if a script ends at a place. -/
def unfinished? : Place → Option String
  | outside | announcement | document => none
  | quotes => some "Unterminated quoted string"
  | braces quoted _ => some (if quoted then "Unterminated quoted string" else "Missing '\x7d'")
  | arithmetic _ => some "Missing '))'"

end Place

/-! ## Documents -/

/-- The end of the line that a text begins with: what stands before it and what follows it. Line ends in
    quotes do not count. -/
def cutLine : Option Char → List Char → List Char → List Char × List Char
  | _, taken, [] => (taken.reverse, [])
  | none, taken, '\n' :: cs => (taken.reverse, cs)
  | none, taken, '\x5c' :: c :: cs => cutLine none (c :: '\x5c' :: taken) cs
  | some '\x22', taken, '\x5c' :: c :: cs => cutLine (some '\x22') (c :: '\x5c' :: taken) cs
  | none, taken, c :: cs =>
    cutLine (if c == '\x22' || c == '\'' then some c else none) (c :: taken) cs
  | some q, taken, c :: cs => cutLine (if c == q then none else some q) (c :: taken) cs

/-- The lines of a document and what follows the line that ends it. A line that is joined with the one
    before it does not end the document. -/
def documentLines (indented joins : Bool) (ending : List Char) :
    Bool → List (List Char) → List (List Char) × List (List Char)
  | _, [] => ([], [])
  | joined, line :: rest =>
    let line := if indented && !joined then line.dropWhile (· == '\t') else line
    if line == ending && !joined then ([], rest)
    else
      let slashes := (line.reverse.takeWhile (· == '\x5c')).length
      let (lines, after) := documentLines indented joins ending (joins && slashes % 2 == 1) rest
      (line :: lines, after)

/-- Takes the document that a word announces out of the source: its text, in which nothing stands for
    something else if the word is quoted. -/
def takeDocument (indented : Bool) (announcement : Word) : Parser String := do
  let s ← get
  let (here, below) := cutLine none [] s.rest
  let all := below.splitOn '\n'
  let lines := if all.getLast? == some [] then all.dropLast else all
  let (taken, after) :=
    documentLines indented (!announcement.isQuoted) announcement.bareText.toList false lines
  let rest := if after.isEmpty then [] else ['\n'].intercalate (after ++ [[]])
  set { s with rest := here ++ '\n' :: rest, hidden := s.hidden + (lines.length - after.length) }
  let text := taken.flatMap (· ++ ['\n'])
  let endsOpen := taken.length == lines.length && all.getLast? != some []
  return String.ofList (if endsOpen then text.dropLast else text)

end Parser
end Buildwright.Shell
