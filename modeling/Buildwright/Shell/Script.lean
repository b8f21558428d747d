-- SUMMARY: Reading shell scripts: tokens, words, and the commands that they form.
import Buildwright.Shell.Source

/-!
# Scripts

A script is read command by command: `Parser.next?` reads up to the end of a line that ends a command,
so that what stands in front of a mistake can be run before the mistake is found. Commands stand in
words and words in commands, and so they are read together.
-/
namespace Buildwright.Shell

namespace Token

/-- The words that have a meaning of their own where a command begins. -/
def reservedWords : List String :=
  ["!", "case", "do", "done", "elif", "else", "esac", "fi", "for", "if", "in", "then", "until", "while",
    "\x7b", "\x7d"]

/-- The tokens that end a list of commands. -/
def endings : List String :=
  [")", ";;", "do", "done", "elif", "else", "esac", "fi", "then", "\x7d"]

/-- Whether a list of commands ends with a token. -/
def endsList : Token → Bool
  | eof => true
  | operator text | reserved text => endings.contains text
  | _ => false

/-- Whether a token is a certain sign or reserved word. -/
def isSign (text : String) : Token → Bool
  | operator t | reserved t => t == text
  | _ => false

end Token

namespace Parser

/-- What a token may be where it is read. -/
structure Expecting where
  /-- Ends of lines in front of the token do not count. -/
  newlines : Bool := false
  reserved : Bool := false
  aliases : Bool := false
  announcement : Bool := false

/-- Where a command may begin in a line. -/
def atCommand : Expecting := { reserved := true, aliases := true }

/-- Where a command may begin, perhaps in a later line. -/
def atNextCommand : Expecting := { atCommand with newlines := true }

/-- How a list of commands ends. -/
inductive Extent where
  /-- With the line. -/
  | line
  /-- With a token that ends a list; there has to be a command. -/
  | body
  /-- With a token that ends a list. -/
  | nested
  deriving DecidableEq

/-- Puts a token back. -/
def push (t : Token) : Parser Unit :=
  modify fun s => { s with pushed := some t }

/-- Fails at a token that may not stand where it is. -/
def unexpected {α : Type} (t : Token) : Parser α :=
  fail (t.name ++ " unexpected")

/-- Fails at a token that stands in place of another. -/
def unexpectedFor {α : Type} (t : Token) (wanted : String) : Parser α :=
  fail (t.name ++ " unexpected (expecting " ++ wanted ++ ")")

/-- A sign or a reserved word in quotes, as messages show it. -/
def shown (text : String) : String := "\x22" ++ text ++ "\x22"

/-- Reads something from another text, and goes on with this one afterwards. -/
def within {α : Type} (text : List Char) (line : Nat) (m : Parser α) : Parser α := do
  let before ← get
  set ({ rest := text, line, aliases := before.aliases } : Source)
  let a ← m
  set before
  return a

/-- Takes the characters between single quotes. -/
def singleQuoted : Parser String := do
  let s ← get
  let text := s.rest.takeWhile (· != '\'')
  let lines := text.count '\n'
  match s.rest.drop text.length with
  | [] =>
    set { s with rest := [], line := s.line + lines }
    fail "Unterminated quoted string"
  | _ :: rest =>
    set { s with rest, line := s.line + lines }
    return String.ofList text

/-- Takes the text between backquotes. Some characters are quoted in it by a backslash, which then does
    not count. -/
def backquoted (quoted : Bool) : Parser (List Char) := do
  let rec go : Nat → List Char → Parser (List Char)
    | 0, _ => fail "EOF in backquote substitution"
    | n + 1, taken => do
      match ← peekJoined with
      | none => fail "EOF in backquote substitution"
      | some c =>
        advance
        if c.toNat == 0x60 then return taken.reverse
        else if c == '\x5c' then
          match ← peek with
          | none => go n taken
          | some e =>
            advance
            if e == '\x5c' || e.toNat == 0x60 || e == '$' || (quoted && e == '\x22') then
              go n (e :: taken)
            else go n (e :: '\x5c' :: taken)
        else go n (c :: taken)
  go ((← get).rest.length + 1) []

/-- Whether a character is the name of a parameter on its own. -/
def isSpecial (c : Char) : Bool :=
  ['!', '#', '$', '*', '-', '?', '@'].contains c || c.isDigit

/-- Takes the sign behind the name of a parameter in braces: what it does, and whether an empty value
    counts as missing. -/
def change? : Parser (Option (Change × Bool)) := do
  let emptyToo ← accept ':'
  match ← peekJoined with
  | some '-' => advance; return some (.orElse, emptyToo)
  | some '=' => advance; return some (.orAssign, emptyToo)
  | some '?' => advance; return some (.orFail, emptyToo)
  | some '+' => advance; return some (.whenSet, emptyToo)
  | some '\x7d' => if emptyToo then advance
                   return some (.nothing, emptyToo)
  | some '#' =>
    if emptyToo then return none
    advance
    return some (.dropStart (← accept '#'), false)
  | some '%' =>
    if emptyToo then return none
    advance
    return some (.dropEnd (← accept '%'), false)
  | _ => return none

/-- What a name in braces asks for. -/
inductive Asked where
  | value (name : String)
  | size (name : String)
  | nothing

/-- Takes the name of a parameter in braces. A number sign in front asks for the length. -/
def asked : Parser Asked := do
  let named (make : String → Asked) (c : Char) : Parser Asked := do
    if Word.beginsName c then return make (← takeWhile Word.continuesName)
    else return make (← takeWhile Char.isDigit)
  match ← peekJoined with
  | none => return .nothing
  | some '#' => do
    advance
    match ← peekJoined with
    | some c =>
      if Word.continuesName c then named .size c
      else
        let s ← get
        match unjoined (s.rest.drop 1) 0 with
        | ('\x7d' :: _, _) =>
          if c == '\x7d' then return .value "#"
          else
            advance
            return if isSpecial c then .size (String.singleton c) else .nothing
        | _ => return .value "#"
    | none => return .value "#"
  | some c =>
    if Word.continuesName c then named .value c
    else if isSpecial c then
      advance
      return .value (String.singleton c)
    else return .nothing

/-- The text that a word stands for and is not being replaced by already. -/
def aliasText? (s : Source) (word : String) : Option String :=
  let isOpen (r : String × Nat) : Bool := r.1 == word && r.2 < s.rest.length
  if s.replaced.any isOpen then none else s.aliases.lookup word

/-- Whether reading has left the text of a word that ends in a blank, so that the next word may stand for
    a text as well. -/
def leavesBlankAlias (before after : Source) : Bool :=
  before.replaced.any fun (word, n) =>
    n < before.rest.length && after.rest.length ≤ n &&
      Text.endsWith " " ((before.aliases.lookup word).getD "")

/-- The special programs of the shell, whose names functions cannot have. -/
def specialNames : List String :=
  [".", ":", "break", "continue", "eval", "exec", "exit", "export", "local", "readonly", "return",
    "set", "shift", "times", "trap", "unset"]

/-- The variable that a word sets, and its value. -/
def assignment? : Word → Option (String × Word)
  | .literal s false :: rest =>
    match s.toList.takeWhile Word.continuesName, s.toList.dropWhile Word.continuesName with
    | c :: cs, '=' :: value =>
      if Word.beginsName c then
        some (String.ofList (c :: cs),
          if value = [] then rest else .literal (String.ofList value) false :: rest)
      else none
    | _, _ => none
  | _ => none

/-- The stream that a word in front of an operator names, or that the operator redirects otherwise. -/
def streamOf? (w : Word) (operator : Char) : Option Nat :=
  match w with
  | [] => some (if operator == '<' then 0 else 1)
  | [.literal s false] => if s.length = 1 && s.toList.all Char.isDigit then s.toNat? else none
  | _ => none

/-- Takes the sign of a redirection. -/
def redirect (stream : Nat) : Parser Token := do
  if ← accept '>' then
    if ← accept '>' then return .redirect stream .append false
    if ← accept '|' then return .redirect stream .overwrite false
    if ← accept '&' then return .redirect stream .likeOutput false
    return .redirect stream .write false
  else
    advance
    if ← accept '<' then return .redirect stream .document (← accept '-')
    if ← accept '&' then return .redirect stream .likeInput false
    if ← accept '>' then return .redirect stream .readWrite false
    return .redirect stream .read false

/-- Takes a sign between commands. -/
def sign (c : Char) : Parser Token := do
  advance
  match c with
  | '&' => return .operator (if ← accept '&' then "&&" else "&")
  | '|' => return .operator (if ← accept '|' then "||" else "|")
  | ';' => return .operator (if ← accept ';' then ";;" else ";")
  | c => return .operator (String.singleton c)

mutual

/-- Takes parts of a word up to what ends their place. -/
def parts : Nat → Place → Draft → Parser Word
  | 0, _, _ => fail "too long"
  | n + 1, p, d => do
    match ← peek with
    | none =>
      match p.unfinished? with
      | some message => fail message
      | none => return d.word
    | some c =>
      if p.ends c then return d.word
      else if c == '\x5c' then
        advance
        match ← peek with
        | none => parts n p (d.add c true)
        | some '\n' =>
          advance
          parts n p d
        | some e =>
          if p.hasQuotes || p.escapes e then
            advance
            parts n p (d.add e true)
          else parts n p (d.add c true)
      else if c == '\'' && p.hasQuotes then
        advance
        let text ← singleQuoted
        parts n p (d.addPart (.literal text true))
      else if c == '\x22' && p.hasQuotes then
        advance
        let w ← parts n .quotes {}
        advance
        match w with
        | [.parameter "@" true] => parts n p (d.addParts w)
        | _ => parts n p (d.addParts (.literal "" true :: w))
      else if c.toNat == 0x60 then
        advance
        match p with
        | .announcement => parts n p (d.add c false)
        | _ =>
          let text ← backquoted p.isQuoted
          let inner ← within text 1 (list n .nested)
          parts n p (d.addPart (.output (inner.getD .none) p.isQuoted))
      else
        advance
        match p, c with
        | .announcement, '$' => parts n p (d.add c false)
        | _, '$' => parts n p (← dollar n p d)
        | .braces true again, '\x22' => parts n (.braces true !again) d
        | .arithmetic k, '(' => parts n (.arithmetic (k + 1)) (d.add c true)
        | .arithmetic (k + 1), ')' => parts n (.arithmetic k) (d.add c true)
        | .arithmetic 0, ')' =>
          if ← accept ')' then return d.word else parts n p (d.add c true)
        | _, _ => parts n p (d.add c p.isQuoted)

/-- Takes what follows a dollar sign. -/
def dollar : Nat → Place → Draft → Parser Draft
  | 0, _, _ => fail "too long"
  | n + 1, p, d => do
    let quoted := p.isQuoted
    match ← peekJoined with
    | some '(' =>
      advance
      if ← accept '(' then return d.addPart (.arithmetic (← parts n (.arithmetic 0) {}) quoted)
      else
        let before := (← get).pushed
        modify fun s => { s with pushed := none }
        let c ← list n .nested
        let t ← token n {}
        if !t.isSign ")" then unexpectedFor t (shown ")")
        modify fun s => { s with pushed := before }
        return d.addPart (.output (c.getD .none) quoted)
    | some '\x7b' =>
      advance
      return d.addPart (← braces n p)
    | some c =>
      if Word.beginsName c then
        return d.addPart (.parameter (← takeWhile Word.continuesName) quoted)
      else if isSpecial c then
        advance
        return d.addPart (.parameter (String.singleton c) quoted)
      else return d.add '$' quoted
    | none => return d.add '$' quoted

/-- Takes a parameter in braces, of which the opening one has been taken. -/
def braces : Nat → Place → Parser Part
  | 0, _ => fail "too long"
  | n + 1, p => do
    let quoted := p.isQuoted
    let word (inner : Bool) : Parser Word := do
      let w ← parts n (.braces inner false) {}
      advance
      return w
    match ← asked with
    | .nothing =>
      let _ ← word quoted
      return .malformed
    | .size name =>
      if ← accept '\x7d' then return .size name quoted
      else
        let _ ← word quoted
        return .malformed
    | .value name =>
      match ← change? with
      | some (.nothing, false) =>
        advance
        return .parameter name quoted
      | some (change, emptyToo) =>
        let inner :=
          match change with
          | .dropStart _ | .dropEnd _ => false
          | _ => quoted
        return .changed name change emptyToo (← word inner) quoted
      | none =>
        let _ ← word quoted
        return .malformed

/-- Takes a token as it stands in the text. -/
def rawToken : Nat → Bool → Parser Token
  | 0, _ => fail "too long"
  | n + 1, announcement => do
    skipBlanks
    match ← peekJoined with
    | none => return .eof
    | some '#' =>
      modify fun s => { s with rest := s.rest.dropWhile (· != '\n') }
      rawToken n announcement
    | some '\n' =>
      advance
      return .newline
    | some c =>
      if ['&', '|', ';', '(', ')'].contains c then sign c
      else
        let w ← parts n (if announcement then .announcement else .outside) {}
        match ← peek with
        | some e =>
          match (if e == '<' || e == '>' then streamOf? w e else none) with
          | some stream => redirect stream
          | none => return .word w
        | none => return .word w

/-- Takes a token. -/
def token : Nat → Expecting → Parser Token
  | 0, _ => fail "too long"
  | n + 1, e => do
    let before ← get
    let t ←
      match before.pushed with
      | some t => do
        modify fun s => { s with pushed := none }
        pure t
      | none => rawToken n e.announcement
    let after ← get
    match t with
    | .newline => if e.newlines then token n e else return t
    | .word w =>
      match Word.plain? w with
      | some s =>
        if e.reserved && Token.reservedWords.contains s then return .reserved s
        else if !after.aliases.isEmpty && (e.aliases || leavesBlankAlias before after) then
          match aliasText? after s with
          | some text =>
            set { after with
              rest := text.toList ++ after.rest
              replaced := (s, after.rest.length) :: after.replaced }
            token n { e with aliases := true }
          | none => return t
        else return t
      | none => return t
    | _ => return t

/-- Takes the target of a redirection of which the sign has been taken. -/
def redirection : Nat → Nat → Redirect → Bool → Parser Redirection
  | 0, _, _, _ => fail "too long"
  | n + 1, stream, kind, indented => do
    match ← token n { announcement := kind == .document } with
    | .word w =>
      if kind == .document then
        let line := (← get).line
        let text ← takeDocument indented w
        if w.isQuoted then return .mk stream kind [.literal text true]
        else return .mk stream kind (← within text.toList (line + 1) (parts n .document {}))
      else return .mk stream kind w
    | t => unexpected t

/-- Takes redirections behind a command. -/
def redirections : Nat → List Redirection → Parser (List Redirection)
  | 0, _ => fail "too long"
  | n + 1, taken => do
    match ← token n atCommand with
    | .redirect stream kind indented =>
      redirections n ((← redirection n stream kind indented) :: taken)
    | t =>
      push t
      return taken.reverse

/-- Takes a list of commands; there is none at the end of the text. -/
def list : Nat → Extent → Parser (Option Command)
  | 0, _ => fail "too long"
  | n + 1, extent => listFrom n extent none

/-- Takes the rest of a list of commands. -/
def listFrom : Nat → Extent → Option Command → Parser (Option Command)
  | 0, _, _ => fail "too long"
  | n + 1, extent, before => do
    match ← token n (if extent == .line then atCommand else atNextCommand) with
    | .newline => return some (before.getD .none)
    | .eof =>
      push .eof
      return before
    | t =>
      push t
      if (extent == .nested || before.isSome) && t.endsList then return before
      let line := (← get).line
      let c ← andOr n
      let t ← token n {}
      let c := if t.isSign "&" then .background line c else c
      let all :=
        match before with
        | some b => .sequence b c
        | none => c
      match t with
      | .eof =>
        push .eof
        return some all
      | .newline =>
        push .newline
        listFrom n extent (some all)
      | t =>
        if t.isSign "&" || t.isSign ";" then listFrom n extent (some all)
        else if extent == .line then unexpected t
        else
          push t
          return some all

/-- Takes a list of commands, of which there has to be one. -/
def body : Nat → Parser Command
  | 0 => fail "too long"
  | n + 1 => do return (← list n .body).getD .none

/-- Takes commands of which each depends on how those before it ended. -/
def andOr : Nat → Parser Command
  | 0 => fail "too long"
  | n + 1 => do andOrFrom n (← pipeline n {})

/-- Takes commands that depend on how those before them ended. -/
def andOrFrom : Nat → Command → Parser Command
  | 0, _ => fail "too long"
  | n + 1, first => do
    let t ← token n {}
    if t.isSign "&&" then andOrFrom n (.both first (← pipeline n atNextCommand))
    else if t.isSign "||" then andOrFrom n (.either first (← pipeline n atNextCommand))
    else
      push t
      return first

/-- Takes commands of which each reads what the one before it writes. -/
def pipeline : Nat → Expecting → Parser Command
  | 0, _ => fail "too long"
  | n + 1, e => do
    let t ← token n e
    let negated := t.isSign "!"
    unless negated do push t
    let c ← pipelineFrom n [] (if negated then atCommand else {})
    return if negated then .negated c else c

/-- Takes the commands of a pipeline of which some have been taken, the last first. -/
def pipelineFrom : Nat → List Command → Expecting → Parser Command
  | 0, _, _ => fail "too long"
  | n + 1, taken, e => do
    let c ← command n e
    let t ← token n {}
    if t.isSign "|" then pipelineFrom n (c :: taken) atNextCommand
    else
      push t
      return if taken.isEmpty then c else .pipeline (c :: taken).reverse

/-- Takes a command with its redirections. -/
def command : Nat → Expecting → Parser Command
  | 0, _ => fail "too long"
  | n + 1, e => do
    let line := (← get).line
    let close (ending : String) (c : Command) : Parser Command := do
      let t ← token n {}
      if !t.isSign ending then unexpectedFor t (shown ending)
      return c
    let finish (c : Command) : Parser Command := do
      match ← redirections n [] with
      | [] => return c
      | rs => return .redirected line c rs
    match ← token n e with
    | .reserved "if" => finish (← close "fi" (← conditional n))
    | .reserved "while" => finish (← close "done" (← repetition n false))
    | .reserved "until" => finish (← close "done" (← repetition n true))
    | .reserved "for" => finish (← close "done" (← iteration n line))
    | .reserved "case" => finish (← selection n line)
    | .operator "(" => finish (← close ")" (.subshell line (← body n)))
    | .reserved "\x7b" => finish (← close "\x7d" (← body n))
    | .word w =>
      push (.word w)
      simple n (← get).line [] [] []
    | .redirect stream kind indented =>
      push (.redirect stream kind indented)
      simple n (← get).line [] [] []
    | t => unexpected t

/-- Takes a condition and the branches behind it, up to the word that ends them. -/
def conditional : Nat → Parser Command
  | 0 => fail "too long"
  | n + 1 => do
    let condition ← body n
    let t ← token n {}
    if !t.isSign "then" then unexpectedFor t (shown "then")
    let yes ← body n
    let t ← token n {}
    if t.isSign "elif" then return .branch condition yes (← conditional n)
    else if t.isSign "else" then return .branch condition yes (← body n)
    else
      push t
      return .branch condition yes .none

/-- Takes a condition and the commands that it repeats, up to the word that ends them. -/
def repetition : Nat → Bool → Parser Command
  | 0, _ => fail "too long"
  | n + 1, negated => do
    let condition ← body n
    let t ← token n {}
    if !t.isSign "do" then unexpectedFor t (shown "do")
    return .loop negated condition (← body n)

/-- Takes a variable, the words of which it takes the values, and the commands that are repeated, up to
    the word that ends them. -/
def iteration : Nat → Nat → Parser Command
  | 0, _ => fail "too long"
  | n + 1, line => do
    let name ←
      match ← token n {} with
      | .word w =>
        match Word.plain? w with
        | some s => if Word.isName s then pure s else fail "Bad for loop variable"
        | none => fail "Bad for loop variable"
      | _ => fail "Bad for loop variable"
    let t ← token n atNextCommand
    let ws ←
      if t.isSign "in" then words n []
      else
        unless t.isSign ";" do push t
        pure [[.parameter "@" true]]
    let t ← token n atNextCommand
    if !t.isSign "do" then unexpectedFor t (shown "do")
    return .each line name ws (← body n)

/-- Takes words up to the end of a line or a semicolon. -/
def words : Nat → List Word → Parser (List Word)
  | 0, _ => fail "too long"
  | n + 1, taken => do
    match ← token n {} with
    | .word w => words n (w :: taken)
    | .newline => return taken.reverse
    | t => if t.isSign ";" then return taken.reverse else unexpected t

/-- Takes a word and the branches of which one is chosen for it. -/
def selection : Nat → Nat → Parser Command
  | 0, _ => fail "too long"
  | n + 1, line => do
    match ← token n {} with
    | .word subject =>
      let t ← token n atNextCommand
      if !t.isSign "in" then unexpectedFor t (shown "in")
      return .select line subject (← cases n [])
    | t => unexpectedFor t "word"

/-- Takes the branches of a selection. -/
def cases : Nat → List (List Word × Command) → Parser (List (List Word × Command))
  | 0, _ => fail "too long"
  | n + 1, taken => do
    let t ← token n { newlines := true, reserved := true }
    if t.isSign "esac" then return taken.reverse
    else
      let t ← if t.isSign "(" then token n {} else pure t
      let patterns ← alternatives n t []
      let c := (← list n .nested).getD .none
      let all := (patterns, c) :: taken
      let t ← token n { newlines := true, reserved := true }
      if t.isSign ";;" then cases n all
      else if t.isSign "esac" then return all.reverse
      else unexpectedFor t (shown ";;")

/-- Takes patterns up to a closing parenthesis; the first of them has been taken. -/
def alternatives : Nat → Token → List Word → Parser (List Word)
  | 0, _, _ => fail "too long"
  | n + 1, first, taken => do
    let w : Word :=
      match first with
      | .word w => w
      | .reserved s => [.literal s false]
      | _ => []
    let t ← token n {}
    if t.isSign "|" then alternatives n (← token n {}) (w :: taken)
    else if t.isSign ")" then return (w :: taken).reverse
    else unexpectedFor t (shown ")")

/-- Takes the rest of a simple command, or of a function; what has been taken is given, the last
    first. -/
def simple : Nat → Nat → List (String × Word) → List Word → List Redirection → Parser Command
  | 0, _, _, _, _ => fail "too long"
  | n + 1, line, assignments, ws, rs => do
    match ← token n { aliases := ws.isEmpty } with
    | .word w =>
      match (if ws.isEmpty then assignment? w else none) with
      | some a => simple n line (a :: assignments) ws rs
      | none => simple n line assignments (w :: ws) rs
    | .redirect stream kind indented =>
      simple n line assignments ws ((← redirection n stream kind indented) :: rs)
    | t =>
      if t.isSign "(" && ws.length == 1 && assignments.isEmpty && rs.isEmpty then
        let t ← token n {}
        if !t.isSign ")" then unexpectedFor t (shown ")")
        let name := (ws.head?.bind Word.plain?).getD ""
        if !Word.isName name || specialNames.contains name then fail "Bad function name"
        let line := (← get).line
        return .define line name (← command n atNextCommand)
      else
        push t
        return .simple line assignments.reverse ws.reverse rs.reverse

end

/-- The number of steps that reading a text takes at most, whatever stands in it. -/
def bound (s : Source) : Nat := 8 * s.rest.length + 1000

/-- Takes the commands up to the end of a line; there are none at the end of the text. -/
def next? : Parser (Option Command) := do
  modify fun s => { s with pushed := none }
  let s ← get
  let c ← list (bound s) .line
  return c

end Parser
end Buildwright.Shell
