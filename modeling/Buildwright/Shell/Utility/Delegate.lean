-- SUMMARY: Programs that run other programs: with other variables, with arguments that are read, or for a time.
import Buildwright.Shell.Jobs
import Buildwright.Shell.Utility.Print

/-!
# Running other programs

Programs that run their arguments as a command. That the command is not there is reported, and has an
exit code of its own.
-/
namespace Buildwright.Shell.Utility

open Shell.Action

/-- The exit code for a command that cannot be run. -/
def refusal (e : OsError) : Nat :=
  if e == .notFound || e == .notADirectory then 127 else 126

/-- Runs a command, and reports behind a text that it cannot be run. -/
def delegate (c : Call) (what : String → String) (command : List String) : Action Nat := do
  match ← c.run command with
  | .ok status => return status
  | .error e => c.fail (what (command.headD "") ++ ": " ++ e.wording) (refusal e)

/-! ## Variables -/

/-- The variables that programs see, with a variable. -/
def withVariable (x value : String) (all : List (String × Variable)) : List (String × Variable) :=
  let v : Variable := ⟨some value, true, false⟩
  if all.any (·.1 == x) then all.map fun y => if y.1 == x then (x, v) else y else all ++ [(x, v)]

/-- The variables that programs see, as lines show them. -/
def shownVariables : Action (List String) := do
  return (← environment).bindings.filterMap fun (x, v) =>
    if v.exported then v.value.map fun value => x ++ "=" ++ value else none

/-- The words of a text: blanks separate them, quotes keep them together, and a backslash keeps a
    character. -/
def wordsOf : Nat → Option (List Char) → Option Char → List Char → List String
  | 0, word, _, _ | _, word, _, [] => word.toList.map fun cs => String.ofList cs.reverse
  | n + 1, word, quote, c :: cs =>
    let grown (d : Char) := some (d :: word.getD [])
    match quote with
    | some q =>
      if c == q then wordsOf n (some (word.getD [])) none cs
      else
        match c, cs with
        | '\x5c', d :: rest =>
          if d == q || d == '\x5c' then wordsOf n (grown d) quote rest else wordsOf n (grown c) quote cs
        | _, _ => wordsOf n (grown c) quote cs
    | none =>
      if c == '\'' || c == '\x22' then wordsOf n (some (word.getD [])) (some c) cs
      else if Text.isSpace c then
        match word with
        | some w => String.ofList w.reverse :: wordsOf n none none cs
        | none => wordsOf n none none cs
      else
        match c, cs with
        | '\x5c', d :: rest => wordsOf n (grown d) none rest
        | _, _ => wordsOf n (grown c) none cs

/-- Runs a command with other variables, or shows the variables. -/
def env : Utility := fun c => do
  let forms := [flag "i" ["ignore-environment"], valued "u" ["unset"], valued "C" ["chdir"],
    valued "S" ["split-string"], flag "0" ["null"], flag "v" ["debug"]]
  match Options.parse forms false c.arguments with
  | .error m => c.misused m.message 125
  | .ok o =>
    let split := (o.last? "S").elim [] fun s => wordsOf (s.length + 1) none none s.toList
    let all := split ++ o.operands
    let (clears, all) := if all.head? == some "-" then (true, all.drop 1) else (o.has "i", all)
    if clears then alter fun e => { e with bindings := [] }
    for x in o.all "u" do alter fun e => { e with bindings := e.bindings.filter (·.1 != x) }
    let assignments := all.takeWhile (·.toList.contains '=')
    for a in assignments do
      match Text.cut? ['='] a.toList with
      | some (x, value) => alter fun e =>
          { e with bindings := withVariable (String.ofList x) (String.ofList value) e.bindings }
      | none => pure ()
    match all.drop assignments.length with
    | [] =>
      let ending := if o.has "0" then "\x00" else "\n"
      say (String.join ((← shownVariables).map (· ++ ending)))
      return 0
    | command =>
      match o.last? "C" with
      | some p =>
        match (← disk).resolve (pathOf p) with
        | .ok (place, .directory _) => setDisk { (← disk) with workingDirectory := place }
        | .ok _ =>
          return ← c.fail ("cannot change directory to " ++ quotedName p ++ ": Not a directory") 125
        | .error e =>
          return ← c.fail ("cannot change directory to " ++ quotedName p ++ ": " ++ e.wording) 125
      | none => pure ()
      let status ← delegate c quoted command
      if status == 127 && (command.headD "").toList.any Text.isSpace then
        c.report "use -[v]S to pass options in shebang lines"
      return status

/-- Shows variables. -/
def printenv : Utility :=
  withOptions [flag "0" ["null"]] fun _ o => do
    let ending := if o.has "0" then "\x00" else "\n"
    match o.operands with
    | [] =>
      say (String.join ((← shownVariables).map (· ++ ending)))
      return 0
    | names => eachOf names fun x => do
        match ← valueOf? x with
        | some value =>
          say (value ++ ending)
          return 0
        | none => return 1

/-! ## Time and priority -/

/-- The number of a signal that an option names. -/
def signalOf? (s : String) : Option Nat :=
  match s with
  | "KILL" | "SIGKILL" | "9" => some 9
  | "TERM" | "SIGTERM" | "15" => some 15
  | "INT" | "SIGINT" | "2" => some 2
  | "HUP" | "SIGHUP" | "1" => some 1
  | "QUIT" | "SIGQUIT" | "3" => some 3
  | _ => Text.digits? s.toList

/-- Runs a command for a time. -/
def timeout : Utility := fun c => do
  let forms := [valued "k" ["kill-after"], valued "s" ["signal"], flag "f" ["foreground"],
    flag "p" ["preserve-status"], flag "v" ["verbose"]]
  match Options.parse forms false c.arguments with
  | .error m => c.misused m.message 125
  | .ok o =>
    match o.operands with
    | duration :: command@(_ :: _) =>
      match milliseconds? duration with
      | none => c.misused ("invalid time interval " ++ quoted duration) 125
      | some n =>
        let signal := ((o.last? "s").bind signalOf?).getD 15
        let runs := delegate c (fun name => "failed to run command " ++ quoted name) command
        if n == 0 then runs
        else
          match ← within n runs with
          | some status => return status
          | none =>
            if signal == 9 && !o.has "f" then throw (.killed 9)
            return if o.has "p" || signal == 9 then 128 + signal else 124
    | _ => c.hint 125

/-- Runs a command that goes on when the terminal is closed. -/
def nohup : Utility := fun c => do
  match (if c.arguments.head? == some "--" then c.arguments.drop 1 else c.arguments) with
  | [] => c.misused "missing operand" 125
  | command => delegate c (fun name => "failed to run command " ++ quoted name) command

/-- Runs a command with a priority, of which there is only one. -/
def nice : Utility := fun c => do
  match Options.parse [valued "n" ["adjustment"]] false c.arguments with
  | .error m => c.misused m.message 125
  | .ok o =>
    match o.operands with
    | [] =>
      say "0\n"
      return 0
    | command => delegate c quoted command

/-- Shows where programs are. -/
def which : Utility := fun c => do
  let all := c.arguments.head? == some "-a"
  let names := if all then c.arguments.drop 1 else c.arguments
  let directories := Text.pieces ':' ((← valueOf? "PATH").getD "")
  if names.isEmpty then return 1
  eachOf names fun name => do
    let d ← disk
    let candidates :=
      if name.toList.contains '/' then [name] else directories.map fun directory => below directory name
    let found := candidates.filter fun p =>
      match d.resolve (pathOf p) with
      | .ok (_, .file f) => f.executable
      | _ => false
    for p in (if all then found else found.take 1) do say (p ++ "\n")
    return if found.isEmpty then 1 else 0

/-! ## Arguments that are read -/

/-- Arguments that are read from a line, and whether the line goes on with the next one. -/
structure ReadLine where
  arguments : List String
  continued : Bool

/-- What is wrong with text that arguments are read from. -/
def unmatched (quote : String) : String :=
  "unmatched " ++ quote ++ " quote; by default quotes are special to xargs unless you use the -0 option"

/-- Arguments while they are read: those of the current line, the last first, the one that grows, the
    last character first, and whether the last character was a blank. -/
structure ArgumentDraft where
  lines : List ReadLine := []
  line : List String := []
  word : Option (List Char) := none
  blank : Bool := false

namespace ArgumentDraft

/-- The draft with another character in the argument that grows. -/
def add (d : ArgumentDraft) (c : Char) : ArgumentDraft :=
  { d with word := some (c :: d.word.getD []), blank := false }

/-- The draft in which the argument that grows has ended. -/
def endWord (d : ArgumentDraft) : ArgumentDraft :=
  match d.word with
  | some cs => { d with line := String.ofList cs.reverse :: d.line, word := none }
  | none => d

/-- The draft in which the line has ended. -/
def endLine (d : ArgumentDraft) : ArgumentDraft :=
  let blank := d.blank
  let d := d.endWord
  if d.line.isEmpty then { d with blank := false }
  else { d with lines := ⟨d.line.reverse, blank⟩ :: d.lines, line := [], blank := false }

end ArgumentDraft

/-- The lines of arguments that text consists of. Blanks separate arguments, unless `whole` holds; then
    only those in front of a line do not count. -/
def readArguments (whole : Bool) : Nat → ArgumentDraft → Option Char → List Char →
    Except String (List ReadLine)
  | 0, d, _, _ => .ok d.endLine.lines.reverse
  | _, d, none, [] => .ok d.endLine.lines.reverse
  | _, _, some q, [] => .error (unmatched (if q == '\'' then "single" else "double"))
  | n + 1, d, some q, c :: cs =>
    if c == '\n' then .error (unmatched (if q == '\'' then "single" else "double"))
    else if c == q then readArguments whole n { d with word := some (d.word.getD []) } none cs
    else readArguments whole n (d.add c) (some q) cs
  | n + 1, d, none, c :: cs =>
    if c == '\n' then readArguments whole n d.endLine none cs
    else if c == ' ' || c == '\t' then
      if whole then readArguments whole n (if d.word.isSome then d.add c else d) none cs
      else readArguments whole n { d.endWord with blank := true } none cs
    else if c == '\'' || c == '\x22' then
      readArguments whole n { d with word := some (d.word.getD []), blank := false } (some c) cs
    else
      match c, cs with
      | '\x5c', e :: rest => readArguments whole n (d.add e) none rest
      | _, _ => readArguments whole n (d.add c) none cs

/-- Lines of which those that go on have been put together, in groups of a number of lines. -/
def groupsOf (size : Nat) (lines : List ReadLine) : List (List String) :=
  let joined := lines.foldr (fun l acc =>
    if l.continued then
      match acc with
      | next :: rest => (l.arguments ++ next) :: rest
      | [] => [l.arguments]
    else l.arguments :: acc) []
  chunks joined.length joined
where
  /-- Lists joined in groups of `size`, at most `n` groups. -/
  chunks : Nat → List (List String) → List (List String)
    | 0, _ | _, [] => []
    | n + 1, ls => (ls.take size).flatten :: chunks n (ls.drop size)

/-- The greatest length of a command. -/
def longestCommand : Nat := 131072

/-- Commands while arguments are put into them: the last one first, and with it the arguments of the one
    that grows, the last one first, and its length. -/
structure Batching where
  done : List (List String) := []
  current : List String := []
  length : Nat := 0

namespace Batching

/-- The groups of arguments, the one that grows included. -/
def groups (g : Batching) : List (List String) :=
  (if g.current.isEmpty then g.done else g.current.reverse :: g.done).reverse

/-- One argument more: in the group that grows unless it is full, or else in a new one. Nothing if the
    argument is too long for any group. -/
def add? (count : Option Nat) (most : Nat) (g : Batching) (a : String) : Option Batching :=
  let more := a.length + 1
  if most < more then none
  else if most < g.length + more || count == some g.current.length then
    some ⟨g.current.reverse :: g.done, [a], more⟩
  else some ⟨g.done, a :: g.current, g.length + more⟩

end Batching

/-- Arguments in groups of at most a number, each of which is at most so long, or nothing if one of
    them is too long. -/
def batches? (count : Option Nat) (most : Nat) (arguments : List String) :
    Option (List (List String)) :=
  (arguments.foldlM (Batching.add? count most) {}).map Batching.groups

/-- The character that a text stands for that separates arguments. -/
def delimiter? (s : String) : Option Char :=
  match (Format.unescape ⟨true, false⟩ s).chars with
  | [c] => some c
  | _ => none

/-- The exit code so far and whether commands go on to be run. -/
structure Running where
  status : Nat := 0
  stopped : Bool := false

/-- Runs a command, and says how that goes on. -/
def runBatch (c : Call) (traces : Bool) (command : List String) (r : Running) : Action Running := do
  if r.stopped then return r
  if traces then complain (Text.joined " " command ++ "\n")
  let before ← environment
  connect 0 (← open_ .nowhere)
  let result ← c.run command
  alter fun e => { e with streams := before.streams }
  let name := command.headD ""
  match result with
  | .error e =>
    c.report (name ++ ": " ++ e.wording)
    return ⟨refusal e, true⟩
  | .ok 0 => return r
  | .ok 255 =>
    c.report (name ++ ": exited with status 255; aborting")
    return ⟨124, true⟩
  | .ok _ => return { r with status := 123 }

/-- Runs a command with arguments that are read. -/
def xargs : Utility :=
  withLeadingOptions
    [flag "0" ["null"], valued "a" ["arg-file"], valued "d" ["delimiter"], valued "E",
      ⟨"e", ["eof"], .maybe⟩, valued "I", ⟨"i", ["replace"], .maybe⟩, valued "L" ,
      ⟨"l", ["max-lines"], .maybe⟩, valued "n" ["max-args"], flag "o" ["open-tty"],
      valued "P" ["max-procs"], flag "p" ["interactive"], flag "r" ["no-run-if-empty"],
      valued "s" ["max-chars"], flag "t" ["verbose"], flag "x" ["exit"],
      valued "process-slot-var" ["process-slot-var"], flag "show-limits" ["show-limits"]] fun c o => do
    let badNumber := ["n", "L", "s", "P"].findSome? fun key => (o.last? key).bind fun s =>
      if (number? s).isNone then some (key, s) else none
    match badNumber with
    | some (key, s) =>
      return ← c.misused ("invalid number \x22" ++ s ++ "\x22 for -" ++ key ++ " option")
    | none => pure ()
    let replaced := ((o.last? "I").orElse fun _ => o.last? "i").map fun s => if s == "" then "\x7b\x7d" else s
    let input ←
      match o.last? "a" with
      | some p => read p
      | none => drainStream 0
    let text ←
      match input with
      | .ok b => pure (Text.bytewise b).toList
      | .error why => return ← c.fail ((o.last? "a").getD "" ++ ": " ++ why)
    let separator := if o.has "0" then some '\x00' else (o.last? "d").bind delimiter?
    let whole := replaced.isSome
    let found : Except String (List ReadLine) :=
      match separator with
      | some d => .ok ((piecesUpTo d text).1.map fun cs => ⟨[String.ofList cs], false⟩)
      | none => readArguments whole (text.length + 1) {} none text
    match found with
    | .error m => c.fail m
    | .ok lines =>
      let lines :=
        match (if separator.isSome then none else (o.last? "E").orElse fun _ => o.last? "e") with
        | some "" | none => lines
        | some mark => lines.foldr (fun l acc =>
            if l.arguments.contains mark then
              [{ l with arguments := l.arguments.takeWhile (· != mark), continued := false }]
            else l :: acc) []
      let command := if o.operands.isEmpty then ["echo"] else o.operands
      let traces := o.has "t"
      let used := (command.map (·.length + 1)).foldl (· + ·) 0
      let bound := (((o.last? "s").bind number?).getD longestCommand) - used
      if replaced.isSome && o.has "n" then
        c.report ("warning: options --max-args and --replace/-I/-i are mutually exclusive, ignoring " ++
          "previous --max-args value")
      let batches : Option (List (List String)) :=
        match replaced, (o.last? "L").orElse fun _ => o.last? "l" with
        | some mark, _ => some (lines.map fun l =>
            command.take 1 ++ (command.drop 1).map fun a => a.replace mark (Text.joined " " l.arguments))
        | none, some n => some ((groupsOf (max 1 ((number? n).getD 1)) lines).map (command ++ ·))
        | none, none =>
          (batches? ((o.last? "n").bind number?) bound (lines.flatMap (·.arguments))).map fun all =>
            all.map (command ++ ·)
      match batches with
      | none => c.fail "argument line too long"
      | some all =>
        let all := if all.isEmpty && !o.has "r" && replaced.isNone then [command] else all
        return (← all.foldlM (fun r b => runBatch c traces b r) {}).status

end Buildwright.Shell.Utility
