-- SUMMARY: Reading scripts that edit lines.
import Buildwright.Shell.Edit
import Buildwright.Shell.Format
import Buildwright.Shell.Regex.Reader
import Buildwright.Text.Number
import Buildwright.Text.Pieces

/-!
# Reading scripts

A script comes in parts, each of which is an argument or a file. Commands end at line ends and at
semicolons; texts and names of files end at line ends only.
-/
namespace Buildwright.Shell.Edit

/-! ## Places and faults -/

/-- Where a part of a script comes from. -/
inductive Origin where
  | argument (n : Nat)
  | file (name : String)

/-- What is wrong with a script, and the exit code for that. -/
structure Fault where
  message : String
  status : Nat := 1

/-- The place of a character, or of a line in a file, as messages name it. -/
def placeText (o : Origin) (taken line : Nat) : String :=
  match o with
  | .argument n => "-e expression #" ++ toString n ++ ", char " ++ toString taken
  | .file name => "file " ++ name ++ " line " ++ toString line

/-- A script that is being read. -/
structure Draft where
  origin : Origin := .argument 1
  rest : List Char := []
  /-- The number of characters of the part that have been taken, and of the line at hand. -/
  taken : Nat := 0
  line : Nat := 1
  script : Script := {}
  /-- The blocks that are open: their steps, and where they begin. -/
  blocks : List (Nat × String) := []
  /-- The labels of jumps, the last one first. -/
  jumps : List String := []
  /-- Whether a text goes on in the next part. -/
  inText : Bool := false
  extended : Bool := false
  isSandboxed : Bool := false

/-- Reads a script. -/
abbrev Reader := EStateM Fault Draft

namespace Reader

/-- Reports what is wrong at the place that has been reached. -/
def fail {α : Type} (message : String) : Reader α := do
  let d ← get
  throw ⟨placeText d.origin d.taken d.line ++ ": " ++ message, 1⟩

/-! ## Characters -/

/-- Goes on with what is left. -/
def goOn (rest : List Char) : Reader Unit :=
  modify fun d =>
    let n := d.rest.length - rest.length
    { d with rest, taken := d.taken + n, line := d.line + (d.rest.take n).countP (· == '\n') }

/-- Takes the next character. -/
def next? : Reader (Option Char) := do
  match (← get).rest with
  | [] => return none
  | c :: cs =>
    goOn cs
    return some c

/-- Takes characters of a kind. -/
def takeWhile (p : Char → Bool) : Reader (List Char) := do
  let cs := (← get).rest.takeWhile p
  goOn ((← get).rest.drop cs.length)
  return cs

/-- Whether a character is a blank. -/
def isBlank (c : Char) : Bool := c == ' ' || c == '\t'

/-- Takes blanks. -/
def skipBlanks : Reader Unit := do
  let _ ← takeWhile isBlank

/-- The next character behind blanks, which are taken. -/
def peek? : Reader (Option Char) := do
  skipBlanks
  return (← get).rest.head?

/-- Takes a number; there may be none, which counts as zero. -/
def number : Reader Nat := do
  return Text.valueOfDigits 10 (← takeWhile Char.isDigit)

/-- Takes the end of a command. -/
def commandEnd : Reader Unit := do
  match ← peek? with
  | none | some '\x7d' | some '#' => pure ()
  | some c =>
    let _ ← next?
    unless c == '\n' || c == ';' do fail "extra characters after command"

/-- Takes what is left of the line, and its end. -/
def lineRest : Reader String := do
  let cs ← takeWhile (· != '\n')
  let _ ← next?
  return String.ofList cs

/-! ## Escapes -/

/-- The character that a number with a letter in front stands for, and what follows it. -/
def numbered? : List Char → Option (Char × List Char)
  | 'c' :: '\x5c' :: '\x5c' :: cs => some ('\x1c', cs)
  | 'c' :: c :: cs => some (Char.ofNat (Nat.xor c.toUpper.toNat 64), cs)
  | l :: cs =>
    let digits (base most : Nat) : Option (Char × List Char) :=
      match (cs.take most).takeWhile (Text.isDigitOf base) with
      | [] => none
      | ds => some (Format.byteChar (Text.valueOfDigits base ds), cs.drop ds.length)
    match l with
    | 'd' => digits 10 3
    | 'o' => digits 8 3
    | 'x' => digits 16 2
    | _ => none
  | [] => none

/-- The character that an escape stands for, of which the backslash has been taken, and what follows
    it. -/
def escaped? (cs : List Char) : Option (Char × List Char) :=
  match cs with
  | [] => none
  | c :: rest => ((Regex.controls.lookup c).map (·, rest)).orElse fun _ => numbered? cs

/-- An expression in which the characters that numbers stand for are put in their places. -/
def withNumbers : Nat → List Char → List Char
  | 0, cs => cs
  | _, [] => []
  | n + 1, '\x5c' :: cs =>
    match numbered? cs, cs with
    | some (c, rest), _ => c :: withNumbers n rest
    | none, c :: rest => '\x5c' :: c :: withNumbers n rest
    | none, [] => ['\x5c']
  | n + 1, c :: cs => c :: withNumbers n cs

/-- A text up to the end of its line: the text, what follows it, and whether it ends there. A backslash
    at the end lets it go on. -/
def textFrom : Nat → List Char → List Char × List Char × Bool
  | 0, cs => ([], cs, true)
  | _, [] => (['\n'], [], true)
  | _, ['\x5c'] => (['\n'], [], false)
  | n + 1, '\x5c' :: c :: cs =>
    let (d, rest) := (escaped? (c :: cs)).getD (c, cs)
    let (text, more) := textFrom n rest
    (d :: text, more)
  | n + 1, c :: cs =>
    if c == '\n' then (['\n'], cs, true)
    else
      let (text, more) := textFrom n cs
      (c :: text, more)

/-- Takes a text up to the end of its line. -/
def text : Reader String := do
  let d ← get
  let (cs, rest, ends) := textFrom (d.rest.length + 1) d.rest
  goOn rest
  modify fun d => { d with inText := !ends }
  return String.ofList cs

/-! ## Delimited parts -/

/-- Where characters stand in a bracket: outside the names in it, behind the sign that opens a name, or
    in a name behind the sign that closes it. -/
inductive InBracket where
  | outside
  | opened
  | named (sign : Char)
  | closing (sign : Char)

/-- The rest of a bracket with its closing sign, and what follows it; nothing if it has no end on its
    line. -/
def bracketRest? : InBracket → List Char → Option (List Char × List Char)
  | _, [] => none
  | k, c :: cs =>
    let more (k : InBracket) := (bracketRest? k cs).map fun (text, rest) => (c :: text, rest)
    match k, c with
    | _, '\n' => none
    | .outside, ']' | .opened, ']' => some ([']'], cs)
    | .closing _, ']' => more .outside
    | .outside, '[' => more .opened
    | k, '[' => more k
    | .opened, c => more (if c == '.' || c == ':' || c == '=' then .named c else .outside)
    | .named d, c => more (if c == d then .closing d else .named d)
    | .closing d, c => more (if c == d then .closing d else .named d)
    | .outside, _ => more .outside

/-- A bracket, of which the opening sign has been taken, and what follows it. -/
def bracket? (cs : List Char) : Option (List Char × List Char) :=
  let (front, cs) :=
    match cs with
    | '^' :: ']' :: rest => (['^', ']'], rest)
    | '^' :: rest => (['^'], rest)
    | ']' :: rest => ([']'], rest)
    | _ => ([], cs)
  (bracketRest? .outside cs).map fun (text, rest) => (front ++ text, rest)

/-- The characters up to a delimiter, what follows it, and whether there is one on the line. -/
def upTo (delimiter : Char) (isExpression : Bool) : Nat → List Char → List Char × List Char × Bool
  | 0, cs => ([], cs, false)
  | _, [] => ([], [], false)
  | n + 1, c :: cs =>
    let behind (front rest : List Char) : List Char × List Char × Bool :=
      let (text, more) := upTo delimiter isExpression n rest
      (front ++ text, more)
    if c == '\n' then ([], c :: cs, false)
    else if c == delimiter then ([], cs, true)
    else
      match c, cs with
      | '\x5c', [] => ([], [], false)
      | '\x5c', d :: rest =>
        if d == 'n' && isExpression then behind ['\n'] rest
        else if d == '\n' || (d == delimiter && (isExpression || d != '&')) then behind [d] rest
        else behind [c, d] rest
      | '[', _ =>
        if isExpression then
          match bracket? cs with
          | some (text, rest) => behind (c :: text) rest
          | none => ([], cs.dropWhile (· != '\n'), false)
        else behind [c] cs
      | _, _ => behind [c] cs

/-- Takes characters up to a delimiter; it is a mistake if there is none. -/
def delimited (delimiter : Char) (isExpression : Bool) (message : String) : Reader (List Char) := do
  let d ← get
  let (text, rest, found) := upTo delimiter isExpression (d.rest.length + 1) d.rest
  goOn rest
  unless found do fail message
  return text

/-- The expression that a text writes; none stands for the one that was used last. -/
def searchOf (ignoresCase hasLines : Bool) (text : List Char) : Reader (Option Search) := do
  if text.isEmpty then
    if ignoresCase || hasLines then fail "cannot specify modifiers on empty regexp"
    return none
  let style : Regex.Style :=
    { extended := (← get).extended, escapes := true, strict := true, checksClasses := true }
  match Regex.read style (String.ofList (withNumbers (text.length + 1) text)) with
  | .ok (r, groups) => return some ⟨if hasLines then withinLines r else r, groups, ignoresCase, hasLines⟩
  | .error m => if m == Regex.Reader.classFault then throw ⟨m, 4⟩ else fail m

/-! ## Addresses -/

/-- Takes the letters behind an expression in an address: whether cases do not count, and whether lines
    begin and end within the text. -/
def modifiers : Nat → Bool × Bool → Reader (Bool × Bool)
  | 0, k => return k
  | n + 1, (i, m) => do
    match ← peek? with
    | some 'I' =>
      let _ ← next?
      modifiers n (true, m)
    | some 'M' =>
      let _ ← next?
      modifiers n (i, true)
    | _ => return (i, m)

/-- Takes an address, if there is one. -/
def limit? : Reader (Option Limit) := do
  let d ← get
  let expression (delimiter : Char) : Reader (Option Limit) := do
    let text ← delimited delimiter true "unterminated address regex"
    let (i, m) ← modifiers (d.rest.length + 1) (false, false)
    return some (.reached (.found (← searchOf i m text)))
  match d.rest with
  | '/' :: cs =>
    goOn cs
    expression '/'
  | '\x5c' :: c :: cs =>
    goOn cs
    expression c
  | ['\x5c'] => fail "unterminated address regex"
  | '$' :: cs =>
    goOn cs
    return some (.reached .last)
  | '+' :: cs =>
    goOn cs
    skipBlanks
    return some (.after (← number))
  | '~' :: cs =>
    goOn cs
    skipBlanks
    return some (.multiple (← number))
  | c :: _ =>
    if !c.isDigit then return none
    let first ← number
    match ← peek? with
    | some '~' =>
      let _ ← next?
      skipBlanks
      let step ← number
      return some (.reached (if step == 0 then .line first else .every first step))
    | _ => return some (.reached (.line first))
  | [] => return none

/-- Takes the addresses of a command. -/
def selection : Reader Selection := do
  let start ←
    match ← limit? with
    | some (.reached a) => pure (some a)
    | some (.after 0) | some (.multiple 0) => pure none
    | some _ => fail "invalid usage of +N or ~N as first address"
    | none => pure none
  let limit ←
    if start.isSome && (← peek?) == some ',' then do
      let _ ← next?
      skipBlanks
      match ← limit? with
      | some l => pure (some l)
      | none =>
        let _ ← next?
        fail "unexpected \x60,'"
    else pure none
  match start, limit with
  | some (.line 0), some (.reached (.found _)) => pure ()
  | some (.line 0), _ =>
    unless limit.isNone && (← peek?) == some 'r' do
      skipBlanks
      let _ ← next?
      fail "invalid usage of line address 0"
  | _, _ => pure ()
  if (← peek?) == some '!' then
    let _ ← next?
    if (← peek?) == some '!' then
      let _ ← next?
      fail "multiple \x60!'s"
    return ⟨start, limit, true⟩
  return ⟨start, limit, false⟩

/-! ## Parts of commands -/

/-- Takes a label. -/
def label : Reader String := do
  skipBlanks
  return String.ofList (← takeWhile fun c => !Text.isSpace c && c != ';' && c != '\x7d' && c != '#')

/-- Takes the label of a jump. -/
def target : Reader String := do
  let l ← label
  modify fun d => { d with jumps := if l == "" then d.jumps else l :: d.jumps }
  return l

/-- Refuses what reaches outside the script, if that is not allowed. -/
def reachOut : Reader Unit := do
  if (← get).isSandboxed then fail "e/r/w commands disabled in sandbox mode"

/-- Takes the name of a file. -/
def name : Reader String := do
  reachOut
  skipBlanks
  let n ← lineRest
  if n == "" then fail "missing filename in r/R/w/W commands"
  return n

/-- Takes the name of a file to write to. -/
def output : Reader Target := do
  match ← name with
  | "/dev/stdout" => return .output
  | "/dev/stderr" => return .errors
  | n => return .file n

/-- Takes the text of a command that adds one. -/
def addedText : Reader String := do
  match ← peek? with
  | none => fail "expected \x5c after \x60a', \x60c' or \x60i'"
  | some '\x5c' =>
    let _ ← next?
    match (← get).rest with
    | [] =>
      modify fun d => { d with inText := true }
      return ""
    | '\n' :: [] =>
      goOn []
      return "\n"
    | '\n' :: cs =>
      goOn cs
      text
    | _ => text
  | some _ => text

/-- Takes a number if there is one, and the end of the command. -/
def optionalNumber : Reader (Option Nat) := do
  skipBlanks
  let ds ← takeWhile Char.isDigit
  commandEnd
  return if ds.isEmpty then none else some (Text.valueOfDigits 10 ds)

/-- The pieces of what a part is replaced by. -/
def pieces : Nat → List Char → List Piece
  | 0, _ | _, [] => []
  | n + 1, '\x5c' :: c :: cs =>
    match c with
    | 'L' => .cases_ .lowered :: pieces n cs
    | 'U' => .cases_ .raised :: pieces n cs
    | 'E' => .cases_ .kept :: pieces n cs
    | 'l' => .nextCase .lowered :: pieces n cs
    | 'u' => .nextCase .raised :: pieces n cs
    | _ =>
      if c.isDigit then .group (c.toNat - '0'.toNat) :: pieces n cs
      else
        let (d, rest) := (escaped? (c :: cs)).getD (c, cs)
        .char d :: pieces n rest
  | n + 1, '&' :: cs => .group 0 :: pieces n cs
  | n + 1, c :: cs => .char c :: pieces n cs

/-- The flags of a substitution: what it does besides, and how its expression is meant. -/
structure Flags where
  first : Option Nat := none
  everywhere : Bool := false
  prints : Bool := false
  runs : Bool := false
  target : Option Target := none
  ignoresCase : Bool := false
  hasLines : Bool := false

/-- Takes the flags of a substitution, and the end of the command. -/
def flags : Nat → Flags → Reader Flags
  | 0, f => return f
  | n + 1, f => do
    match (← get).rest with
    | [] | '\x7d' :: _ | '#' :: _ => return f
    | c :: rest =>
      if c.isDigit then
        if f.first.isSome then
          goOn rest
          fail "multiple number options to \x60s' command"
        let k ← number
        if k == 0 then fail "number option to \x60s' command may not be zero"
        flags n { f with first := some k }
      else
        goOn rest
        match c with
        | '\n' | ';' => return f
        | ' ' | '\t' => flags n f
        | 'i' | 'I' => flags n { f with ignoresCase := true }
        | 'm' | 'M' => flags n { f with hasLines := true }
        | 'e' =>
          reachOut
          flags n { f with runs := true }
        | 'p' =>
          if f.prints then fail "multiple \x60p' options to \x60s' command"
          flags n { f with prints := true }
        | 'g' =>
          if f.everywhere then fail "multiple \x60g' options to \x60s' command"
          flags n { f with everywhere := true }
        | 'w' => return { f with target := some (← output) }
        | _ => fail "unknown option to \x60s'"

/-- Takes a substitution. -/
def substitution : Reader Instruction := do
  let unterminated := "unterminated \x60s' command"
  match ← next? with
  | none => fail unterminated
  | some delimiter =>
    let expression ← delimited delimiter true unterminated
    let new ← delimited delimiter false unterminated
    let f ← flags ((← get).rest.length + 1) {}
    let search ← searchOf f.ignoresCase f.hasLines expression
    let parts := pieces (new.length + 1) new
    let most := parts.foldl (fun n p =>
      match p with
      | .group k => max n k
      | _ => n) 0
    match search with
    | some s =>
      if s.groups < most then
        fail ("invalid reference \x5c" ++ toString most ++ " on \x60s' command's RHS")
    | none => pure ()
    return .substitute
      { search, pieces := parts, first := f.first.getD 1, everywhere := f.everywhere, prints := f.prints,
        runs := f.runs, target := f.target }

/-- The characters of a part of an exchange. -/
def letters : Nat → List Char → List Char
  | 0, _ | _, [] => []
  | n + 1, '\x5c' :: '\x5c' :: cs => '\x5c' :: letters n cs
  | n + 1, '\x5c' :: cs =>
    match escaped? cs with
    | some (c, rest) => c :: letters n rest
    | none => letters n cs
  | n + 1, c :: cs => c :: letters n cs

/-- Takes an exchange of characters. -/
def exchange : Reader Instruction := do
  let unterminated := "unterminated \x60y' command"
  match ← next? with
  | none => fail unterminated
  | some delimiter =>
    let before ← delimited delimiter false unterminated
    let after ← delimited delimiter false unterminated
    let before := letters (before.length + 1) before
    let after := letters (after.length + 1) after
    unless before.length == after.length do fail "strings for \x60y' command are different lengths"
    commandEnd
    return .translate (before.zip after)

/-- Whether a version that is asked for is newer than the one that is here. -/
def isNewer (version : String) : Bool :=
  match (Text.pieces '.' version).map fun p => (Text.digits? p.toList).getD 0 with
  | [] => false
  | [major] => decide (4 < major)
  | major :: minor :: _ => decide (4 < major) || (major == 4 && decide (9 < minor))

/-! ## Commands -/

/-- Adds a step. -/
def add (s : Selection) (i : Instruction) : Reader Unit :=
  modify fun d => { d with script := { d.script with steps := d.script.steps.push ⟨s, i⟩ } }

/-- Takes a command without anything behind it. -/
def bare (i : Instruction) : Reader Instruction := do
  commandEnd
  return i

/-- Takes what stands behind the letter of a command. -/
def instruction (s : Selection) (c : Char) : Reader Instruction := do
  let single : Reader Unit := do
    if s.limit.isSome then fail "command only uses one address"
  match c with
  | 'a' => return .append (← addedText)
  | 'i' => return .insert (← addedText)
  | 'c' => return .change (← addedText)
  | 'b' => return .jump (← target)
  | 't' => return .jumpIfReplaced (← target)
  | 'T' => return .jumpUnlessReplaced (← target)
  | 'd' => bare .delete
  | 'D' => bare .deleteLine
  | 'e' =>
    reachOut
    match ← peek? with
    | none => return .execute none
    | some '\n' =>
      let _ ← next?
      return .execute none
    | some _ => return .execute (some (← text))
  | 'F' => bare .fileName
  | '=' => bare .number
  | 'g' => bare .get
  | 'G' => bare .getAppending
  | 'h' => bare .hold
  | 'H' => bare .holdAppending
  | 'x' => bare .exchange
  | 'l' => return .list (← optionalNumber)
  | 'n' => bare .next
  | 'N' => bare .nextAppending
  | 'p' => bare .print
  | 'P' => bare .printLine
  | 'q' =>
    single
    return .quit ((← optionalNumber).getD 0)
  | 'Q' =>
    single
    return .quitSilently ((← optionalNumber).getD 0)
  | 'r' => return .readFile (← name)
  | 'R' => return .readLine (← name)
  | 'w' => return .write (← output)
  | 'W' => return .writeLine (← output)
  | 's' => substitution
  | 'y' => exchange
  | 'z' => bare .clear
  | 'v' =>
    if isNewer (← label) then fail "expected newer version of sed"
    return .nothing
  | _ => fail ("unknown command: \x60" ++ String.singleton c ++ "'")

/-- Takes a command. -/
def command : Reader Unit := do
  let s ← selection
  match ← next? with
  | none => fail "missing command"
  | some '#' =>
    if s.start.isSome then fail "comments don't accept any addresses"
    let _ ← lineRest
  | some ':' =>
    if s.start.isSome then fail ": doesn't want any addresses"
    let l ← label
    if l == "" then fail "\x22:\x22 lacks a label"
    modify fun d => { d with script := { d.script with
      labels := (l, d.script.steps.size) :: d.script.labels } }
  | some '\x7b' =>
    let d ← get
    let place := placeText d.origin 0 d.line
    modify fun d => { d with blocks := (d.script.steps.size, place) :: d.blocks }
    add s (.block 0)
  | some '\x7d' =>
    match (← get).blocks with
    | [] => fail "unexpected \x60\x7d'"
    | (start, _) :: blocks =>
      if s.start.isSome then fail "\x60\x7d' doesn't want any addresses"
      modify fun d => { d with
        blocks
        script := { d.script with
          steps := d.script.steps.modify start fun t => ⟨t.selection, .block d.script.steps.size⟩ } }
      commandEnd
  | some c => add s (← instruction s c)

/-- Takes the commands of a part. -/
def commands : Nat → Reader Unit
  | 0 => return ()
  | n + 1 => do
    let _ ← takeWhile fun c => Text.isSpace c || c == ';'
    match (← get).rest with
    | [] => return ()
    | _ =>
      command
      commands n

/-- The instruction with a text that goes on. -/
def continued (more : String) : Instruction → Instruction
  | .append t => .append (t ++ more)
  | .insert t => .insert (t ++ more)
  | .change t => .change (t ++ more)
  | i => i

/-- Takes a part of a script; it may begin with a text that goes on from the part before. -/
def part (origin : Origin) (content : String) : Reader Unit := do
  let d ← get
  let cs := content.toList
  set { d with origin, rest := cs, taken := 0, line := 1 }
  let isFirst := d.script.steps.isEmpty && !d.script.isQuiet &&
    (match origin with
    | .argument n => n == 1
    | .file _ => true)
  if isFirst && ['#', 'n'].isPrefixOf cs then
    modify fun d => { d with script := { d.script with isQuiet := true } }
  if d.inText then
    let more ← text
    modify fun d => { d with script := { d.script with
      steps := d.script.steps.modify (d.script.steps.size - 1) fun t =>
        ⟨t.selection, continued more t.instruction⟩ } }
  commands (cs.length + 1)

/-- Checks that blocks are closed and that jumps have places to go to. -/
def check : Reader Unit := do
  let d ← get
  match d.blocks with
  | (_, place) :: _ => throw ⟨place ++ ": unmatched \x60\x7b'", 1⟩
  | [] => pure ()
  match d.jumps.find? fun l => (d.script.labels.lookup l).isNone with
  | some l => throw ⟨"can't find label for jump to \x60" ++ l ++ "'", 4⟩
  | none => pure ()

end Reader

/-- The script that parts write, or what is wrong with it. -/
def read (extended isSandboxed : Bool) (parts : List (Origin × String)) : Except Fault Script :=
  let reader : Reader Unit := do
    for (origin, content) in parts do Reader.part origin content
    Reader.check
  match reader { extended, isSandboxed } with
  | .ok () d => .ok d.script
  | .error f _ => .error f

end Buildwright.Shell.Edit
