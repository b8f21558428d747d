-- SUMMARY: The tokens of programs on records.
import Buildwright.Shell.Records.Program
import Buildwright.Text.Decimal

/-!
# Tokens of programs on records

Numbers, texts in quotes, regular expressions between slashes, names and signs, each with its line. The end
of a line is a token where it can end a statement. A slash begins a regular expression unless it stands
behind an operand; behind a sign that changes a place by one it does, too, without the next character.
-/
namespace Buildwright.Shell.Records

/-- What a token is. -/
inductive TokenKind where
  | number (x : Float) (written : String)
  | text (s : String)
  | regex (source : String)
  | name (x : String)
  /-- The name of a function of the program, right in front of a parenthesis. -/
  | callee (x : String)
  | sign (s : String)
  | lineEnd
  /-- A closing sign that closes nothing. -/
  | extra (c : Char)
  /-- What is no token; the message tells why. -/
  | fault (message : String)
  /-- A character that nothing begins with. -/
  | unknown (c : Char)
  deriving Inhabited

/-- A token and its line. -/
structure Token where
  kind : TokenKind
  line : Nat
  deriving Inhabited

namespace Token

/-- The names with a meaning of their own. -/
def reserved : List String :=
  ["BEGIN", "END", "function", "func", "if", "else", "while", "do", "for", "in", "break", "continue",
    "next", "nextfile", "exit", "return", "delete", "print", "printf", "getline"]

/-- The signs, longer ones first. -/
def signs : List String :=
  ["&&", "||", "++", "--", "+=", "-=", "*=", "/=", "%=", "^=", "==", "!=", "<=", ">=", "!~", ">>",
    "\x7b", "\x7d", "(", ")", "[", "]", ";", ",", "+", "-", "*", "/", "%", "^", "!", "<", ">", "|", "?",
    ":", "~", "$", "="]

/-- Whether a slash behind a token divides: the token can be the end of an operand, and no sign that changes a
    place. -/
def isDivided : TokenKind → Bool
  | .number _ _ | .text _ | .regex _ => true
  | .name x => x == "getline" || x != "length" && !reserved.contains x
  | .sign s => [")", "]"].contains s
  | _ => false

/-- Whether a token changes a place by one. -/
def isStep : TokenKind → Bool
  | .sign s => s == "++" || s == "--"
  | _ => false

/-- Whether a line can go on behind a token, if there is one. -/
def goesOn : Option TokenKind → Bool
  | none | some .lineEnd => true
  | some (.sign s) => ["\x7b", "\x7d", "&&", "||", ",", ";"].contains s
  | some (.name x) => x == "do" || x == "else"
  | _ => false

/-! ## Escapes -/

/-- The characters that letters behind backslashes stand for. -/
def escapes : List (Char × Char) :=
  [('\x22', '\x22'), ('\x5c', '\x5c'), ('a', '\x07'), ('b', '\x08'), ('f', '\x0c'), ('n', '\n'),
    ('r', '\r'), ('t', '\t'), ('v', '\x0b')]

/-- A text with its escapes, of which at most `n` characters are left. A backslash in front of another
    character stays. -/
def unescape : Nat → List Char → List Char
  | 0, _ | _, [] => []
  | n + 1, '\x5c' :: c :: cs =>
    match escapes.lookup c with
    | some d => d :: unescape n cs
    | none =>
      let octal := ((c :: cs).take 3).takeWhile fun d => '0' ≤ d && d ≤ '7'
      let hex := if c == 'x' then (cs.take 2).takeWhile (Text.isDigitOf 16) else []
      if !octal.isEmpty then
        Char.ofNat (Text.valueOfDigits 8 octal % 256) :: unescape n ((c :: cs).drop octal.length)
      else if !hex.isEmpty then
        Char.ofNat (Text.valueOfDigits 16 hex) :: unescape n (cs.drop hex.length)
      else if c == '\n' then unescape n cs
      else '\x5c' :: c :: unescape n cs
  | n + 1, c :: cs => c :: unescape n cs

/-- A text with its escapes. -/
def unescaped (cs : List Char) : String :=
  String.ofList (unescape (cs.length + 1) cs)

/-! ## Texts and regular expressions -/

/-- How much of something without an end is shown. -/
def shownOfRunaway : Nat := 10

/-- What is said of a text without an end. -/
def runawayText (cs : List Char) : String :=
  "runaway string constant \x22" ++
    String.ofList ((cs.takeWhile (· != '\n')).take shownOfRunaway) ++ " ..."

/-- What is said of a regular expression without an end. -/
def runawayRegex (cs : List Char) : String :=
  "runaway regular expression /" ++
    String.ofList ((cs.takeWhile (· != '\n')).take shownOfRunaway) ++ " ..."

/-- The characters up to the closing quote, and what follows it. -/
def quoted? : List Char → Option (List Char × List Char)
  | [] | '\n' :: _ => none
  | '\x22' :: rest => some ([], rest)
  | '\x5c' :: c :: rest => (quoted? rest).map fun (s, after) => ('\x5c' :: c :: s, after)
  | c :: rest => (quoted? rest).map fun (s, after) => (c :: s, after)

/-- The characters up to the closing slash, and what follows it. A slash in brackets closes nothing, and
    `boxed` counts the characters since the opening bracket. -/
def slashed? : Option Nat → List Char → Option (List Char × List Char)
  | _, [] | _, '\n' :: _ => none
  | boxed, '\x5c' :: '/' :: rest =>
    (slashed? (boxed.map (· + 1)) rest).map fun (s, after) => ('/' :: s, after)
  | boxed, '\x5c' :: c :: rest =>
    (slashed? (boxed.map (· + 1)) rest).map fun (s, after) => ('\x5c' :: c :: s, after)
  | none, '/' :: rest => some ([], rest)
  | none, '[' :: rest => (slashed? (some 0) rest).map fun (s, after) => ('[' :: s, after)
  | some n, c :: rest =>
    let next : Option Nat :=
      if c == ']' && n != 0 then none else if c == '^' && n == 0 then some 0 else some (n + 1)
    (slashed? next rest).map fun (s, after) => (c :: s, after)
  | none, c :: rest => (slashed? none rest).map fun (s, after) => (c :: s, after)

/-! ## Numbers -/

/-- The characters of the number that a text begins with. -/
def numberChars (cs : List Char) : List Char :=
  let whole := cs.takeWhile Char.isDigit
  let rest := cs.drop whole.length
  let fraction :=
    match rest with
    | '.' :: more => '.' :: more.takeWhile Char.isDigit
    | _ => []
  let rest := rest.drop fraction.length
  let exponent :=
    match rest with
    | e :: more =>
      if e == 'e' || e == 'E' then
        let sign := (more.take 1).filter fun c => c == '+' || c == '-'
        let digits := (more.drop sign.length).takeWhile Char.isDigit
        if digits.isEmpty then [] else e :: (sign ++ digits)
      else []
    | [] => []
  whole ++ fraction ++ exponent

/-- The number that characters are. -/
def numberOf (cs : List Char) : Float :=
  ((Text.leadingFloat? cs).map (·.1)).getD 0

/-! ## Reading -/

/-- Whether a name can begin with a character. -/
def beginsName (c : Char) : Bool := c.isAlpha || c == '_'

/-- Whether a name can go on with a character. -/
def continuesName (c : Char) : Bool := c.isAlphanum || c == '_'

/-- The token that a text begins with, which is neither empty nor begins with a blank, and what follows
    it. -/
def next (before : Option TokenKind) (c : Char) (cs : List Char) : TokenKind × List Char :=
  let all := c :: cs
  let startsNumber := c.isDigit || (c == '.' && (cs.head?.map Char.isDigit).getD false)
  if startsNumber then
    let digits := numberChars all
    (.number (numberOf digits) (String.ofList digits), all.drop digits.length)
  else if beginsName c then
    let x := all.takeWhile continuesName
    let rest := all.drop x.length
    let x := String.ofList x
    let isKnown := reserved.contains x || (Function.names.lookup x).isSome
    (if rest.head? == some '(' && !isKnown then .callee x else .name x, rest)
  else if c == '\x22' then
    match quoted? cs with
    | some (s, rest) => (.text (unescaped s), rest)
    | none => (.fault (runawayText cs), [])
  else if c == '/' && !(before.map isDivided).getD false then
    let cs := if (before.map isStep).getD false && cs.head? != some '=' then cs.drop 1 else cs
    match slashed? none cs with
    | some (s, rest) => (.regex (String.ofList s), rest)
    | none => (.fault (runawayRegex cs), [])
  else
    match signs.find? fun s => s.toList.isPrefixOf all with
    | some s => (.sign s, all.drop s.length)
    | none => (.unknown c, [])

/-- The number of the ends of lines in characters. -/
def lineEnds (cs : List Char) : Nat := cs.count '\n'

/-- The tokens of a text, of which at most `n` characters are left. -/
def readFrom : Nat → Option TokenKind → Nat → List Char → List Token
  | 0, _, _, _ | _, _, _, [] => []
  | n + 1, before, line, c :: cs =>
    match c, cs with
    | '\n', _ =>
      if goesOn before then readFrom n before (line + 1) cs
      else ⟨.lineEnd, line⟩ :: readFrom n (some .lineEnd) (line + 1) cs
    | '#', _ => readFrom n before line (cs.dropWhile (· != '\n'))
    | '\x5c', '\n' :: rest => readFrom n before (line + 1) rest
    | '\x5c', '\r' :: '\n' :: rest => readFrom n before (line + 1) rest
    | _, _ =>
      if Text.isSpace c then readFrom n before line cs
      else
        let (kind, rest) := next before c cs
        let taken := (c :: cs).take (cs.length + 1 - rest.length)
        ⟨kind, line⟩ :: readFrom n (some kind) (line + lineEnds taken) rest

/-- Tokens of which the closing signs that close nothing are marked, behind a number of open parentheses and
    of open braces. A line ends behind a brace that closes nothing. -/
def marked : Nat → Nat → List Token → List Token
  | _, _, [] => []
  | parens, braces, t :: ts =>
    match t.kind with
    | .sign "(" => t :: marked (parens + 1) braces ts
    | .sign "\x7b" => t :: marked parens (braces + 1) ts
    | .sign ")" =>
      if parens == 0 then ⟨.extra ')', t.line⟩ :: marked 0 braces ts
      else t :: marked (parens - 1) braces ts
    | .sign "\x7d" =>
      if braces == 0 then ⟨.extra '\x7d', t.line⟩ :: ⟨.lineEnd, t.line⟩ :: marked parens 0 ts
      else t :: marked parens (braces - 1) ts
    | _ => t :: marked parens braces ts

/-- The tokens of a program. -/
def read (text : String) : List Token :=
  let cs := text.toList ++ ['\n']
  marked 0 0 (readFrom (cs.length + 1) none 1 cs)

/-- How a token is shown in a message. -/
def shown : TokenKind → String
  | .number _ written => written
  | .text s => s
  | .regex s => "/" ++ s ++ "/"
  | .name x | .callee x => x
  | .sign s => s
  | .lineEnd => "end of line"
  | .extra c => String.singleton c
  | .unknown c => String.singleton c
  | .fault message => message

end Token

end Buildwright.Shell.Records
