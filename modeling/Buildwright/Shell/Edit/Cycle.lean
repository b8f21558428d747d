-- SUMMARY: Running scripts that edit lines: reading a line, following the script, and writing what comes of it.
import Buildwright.Shell.Edit.Reader
import Buildwright.Shell.Utility.Lines

/-!
# Editing a text

In each cycle a line is read into the pattern space, the steps of the script are followed, and the
pattern space is written. What is to be appended follows then. Output is written in blocks.
-/
namespace Buildwright.Shell.Edit

open Shell.Action

/-! ## What is known while a script runs -/

/-- A text, and whether it ends with the end of a line. -/
structure Space where
  text : List Char := []
  ended : Bool := true

namespace Space

/-- A text with another one behind it, from which it has whether a line ends. -/
def append (separator : Char) (a b : Space) : Space :=
  ⟨a.text ++ separator :: b.text, b.ended⟩

end Space

/-- What the steps of a range wait for. -/
inductive Waiting where
  /-- For a line to begin with. -/
  | start
  /-- For nothing: the range begins at a line number, and has ended. -/
  | nothing
  /-- For the line with a number, behind which the range does not go. -/
  | line (n : Nat)
  /-- For a line with at least a number. -/
  | reaching (n : Nat)
  /-- For a line that the address of the end tells. -/
  | found

/-- What is written at the end of a cycle. -/
inductive Appendix where
  | text (s : String)
  | file (name : String)

/-- How lines are edited. -/
structure Plan where
  call : Call
  script : Script
  /-- Whether lines are shown only by commands. -/
  isQuiet : Bool
  /-- Whether every file is a text of its own. -/
  separates : Bool
  /-- Whether files are replaced, and how what they are kept as is called. -/
  inPlace : Option String
  /-- What lines end with. -/
  ending : Char
  /-- The width of lines that show all characters. -/
  width : Nat
  /-- Whether no more input is taken than is needed. -/
  isSparing : Bool

/-- What the steps of a script wait for at first. -/
def Plan.ranges (p : Plan) : Array Waiting :=
  p.script.steps.map fun s =>
    match s.selection.start with
    | some (.line 0) => .found
    | _ => .start

/-- The place where text goes to: the usual one, or that of a command. -/
abbrev Outlet := Option Target

/-- What changes while lines are edited. -/
structure Machine where
  space : Space := {}
  kept : Space := {}
  number : Nat := 0
  replaced : Bool := false
  ranges : Array Waiting := #[]
  /-- What is written at the end of the cycle, the last one first. -/
  appendices : List Appendix := []
  search : Option Search := none
  /-- The files that are still to be read. -/
  files : List String := []
  name : String := "-"
  channel : Option Nat := none
  /-- Whether a file could not be read. -/
  failed : Bool := false
  /-- The output that has not been written yet, the last one first, and its length. -/
  texts : List String := []
  length : Nat := 0
  /-- What is to replace the file at hand, the last one first. -/
  edited : List String := []
  /-- The outlets at which a line has no end yet. -/
  unfinished : List Outlet := []
  /-- The channels of files that are written and read. -/
  written : List (String × Nat) := []
  readers : List (String × Option Nat) := []

/-- A computation while lines are edited. -/
abbrev Editing := ExceptT Fault (StateT Machine Action)

namespace Editing

/-- Runs an action of the script in which lines are edited. -/
def act {α : Type} (m : Action α) : Editing α :=
  ExceptT.lift (StateT.lift m)

/-- Changes what is known. -/
def change (f : Machine → Machine) : Editing Unit :=
  modify f

/-! ## Output -/

/-- Writes what has not been written yet. -/
def flush : Editing Unit := do
  let m ← get
  if m.length != 0 then
    change fun m => { m with texts := [], length := 0 }
    act (say (String.join m.texts.reverse))

/-- Puts text where it belongs. -/
def put (p : Plan) (o : Outlet) (s : String) : Editing Unit := do
  match o, p.inPlace with
  | none, some _ => change fun m => { m with edited := s :: m.edited }
  | none, none | some .output, _ =>
    change fun m => { m with texts := s :: m.texts, length := m.length + s.length }
    if Utility.blockSize ≤ (← get).length then flush
  | some .errors, _ => act (complain s)
  | some (.file name), _ =>
    match (← get).written.lookup name with
    | some channel => act (emitTo channel (Text.bytesOf s))
    | none => pure ()

/-- Ends the line at an outlet that has no end yet. -/
def finishLine (p : Plan) (o : Outlet) : Editing Unit := do
  if (← get).unfinished.contains o then
    change fun m => { m with unfinished := m.unfinished.filter (· != o) }
    put p o (String.singleton p.ending)

/-- Writes a text as lines. -/
def writeText (p : Plan) (o : Outlet) (s : String) : Editing Unit := do
  finishLine p o
  put p o s

/-- Writes a text as lines, of which the last one has the end that all lines have. -/
def writeEnded (p : Plan) (s : String) : Editing Unit := do
  let cs := s.toList
  writeText p none (String.ofList (if cs.getLast? == some '\n' then cs.dropLast ++ [p.ending] else cs))

/-- Writes a line, of which the end may be missing. -/
def writeLine (p : Plan) (o : Outlet) (text : List Char) (ended : Bool) : Editing Unit := do
  finishLine p o
  put p o (String.ofList text ++ if ended then String.singleton p.ending else "")
  unless ended do change fun m => { m with unfinished := o :: m.unfinished }

/-- Writes the pattern space. -/
def writeSpace (p : Plan) (o : Outlet) : Editing Unit := do
  let s := (← get).space
  writeLine p o s.text s.ended

/-- Writes what is to be written at the end of a cycle. -/
def writeAppendices (p : Plan) : Editing Unit := do
  let all := (← get).appendices.reverse
  unless all.isEmpty do
    change fun m => { m with appendices := [] }
    for a in all do
      finishLine p none
      match a with
      | .text s => put p none s
      | .file name =>
        match ← act (Utility.read name) with
        | .ok b => put p none (Text.bytewise b)
        | .error _ => pure ()

/-! ## Input -/

/-- Reports something that ends the program. -/
def stop {α : Type} (message : String) (status : Nat) : Editing α :=
  throw ⟨message, status⟩

/-- The name of what a file is kept as, with its names in place of stars, or behind its own name. -/
def keptName (suffix name : String) : String :=
  let last := Utility.lastName name
  let new :=
    if suffix.toList.contains '*' then suffix.replace "*" last else last ++ suffix
  if new.toList.contains '/' || last == name then new
  else Utility.below (Utility.directoryOf name) new

/-- The disk with a new content of a file, which may be kept under another name as it was. -/
def withContent (d : Disk) (suffix name : String) (b : Bytes) : Disk :=
  let path := pathOf name
  match d.resolve path, d.locateName path with
  | .ok (_, .file f), .ok (.present place _) =>
    let new : Entry := .file ⟨b, d.now, f.executable⟩
    if suffix == "" then d.put place new
    else
      match d.rename path (pathOf (keptName suffix name)) with
      | .ok d => d.put place new
      | .error _ => d
  | _, _ => d

/-- Ends the file at hand: what has been edited replaces it, and what comes is a text of its own. -/
def leaveFile (p : Plan) : Editing Unit := do
  let m ← get
  change fun m => { m with channel := none }
  if p.separates then change fun m => { m with number := 0, ranges := p.ranges, readers := [], kept := {} }
  match p.inPlace, m.channel with
  | some suffix, some _ =>
    let new := Text.bytesOf (String.join m.edited.reverse)
    change fun m => { m with
      edited := []
      unfinished := m.unfinished.filter (· != none) }
    act (do setDisk (withContent (← disk) suffix m.name new))
  | _, _ => pure ()

/-- Opens a file; that there is none is reported. -/
def enterFile (p : Plan) (name : String) : Editing Unit := do
  change fun m => { m with name }
  if p.inPlace.isSome then
    match (← act disk).resolve (pathOf name) with
    | .ok (_, .directory _) => stop ("couldn't edit " ++ name ++ ": not a regular file") 4
    | _ => pure ()
  match ← act (Utility.source name) with
  | .ok channel =>
    match (← act get).channels[channel]? with
    | some .directory => stop ("read error on " ++ name ++ ": " ++ OsError.isADirectory.wording) 4
    | _ => change fun m => { m with channel := some channel }
  | .error why =>
    change fun m => { m with failed := true }
    act (p.call.report ("can't read " ++ name ++ ": " ++ why))

/-- The next line, if there is one, from at most `n` files. -/
def nextLine? (p : Plan) : Nat → Editing (Option Space)
  | 0 => return none
  | n + 1 => do
    let m ← get
    match m.channel, m.files with
    | some channel, _ =>
      match ← act (takePieceFrom p.ending.toNat.toUInt8 channel) with
      | some (b, ended) =>
        change fun m => { m with number := m.number + 1 }
        return some ⟨(Text.bytewise b).toList, ended⟩
      | none =>
        leaveFile p
        nextLine? p n
    | none, [] => return none
    | none, file :: files =>
      change fun m => { m with files }
      enterFile p file
      nextLine? p n

/-- The number of steps that suffice to find the next line. -/
def reach : Editing Nat := do
  return 2 * (← get).files.length + 3

/-- Reads the next line, if there is one; what is to be appended is written before. -/
def readLine? (p : Plan) : Editing (Option Space) := do
  writeAppendices p
  change fun m => { m with replaced := false }
  nextLine? p (← reach)

/-- Whether no line follows, in at most `n` files. -/
def isLastWithin (p : Plan) : Nat → Editing Bool
  | 0 => return true
  | n + 1 => do
    let m ← get
    match m.channel, m.files with
    | some channel, _ =>
      if ← act (hasMore channel) then return false
      if p.separates then return true
      change fun m => { m with channel := none }
      isLastWithin p n
    | none, [] => return true
    | none, file :: files =>
      change fun m => { m with files }
      enterFile p file
      isLastWithin p n

/-- Whether no line follows. -/
def isLast (p : Plan) : Editing Bool := do
  isLastWithin p (← reach)

/-! ## Selecting lines -/

/-- The expression that is meant; none means the one that was used last. -/
def searchFor (s : Option Search) : Editing Search := do
  match s with
  | some s =>
    change fun m => { m with search := some s }
    return s
  | none =>
    match (← get).search with
    | some s => return s
    | none => stop "-e expression #1, char 0: no previous regular expression" 1

/-- Whether an address tells the line at hand. -/
def fits (p : Plan) (a : Address) : Editing Bool := do
  let n := (← get).number
  match a with
  | .line k => return n == k
  | .every first step => return decide (first ≤ n) && (n - first) % step == 0
  | .last => isLast p
  | .found s => do
    let s ← searchFor s
    return s.occursIn (← get).space.text

/-- Sets what a step waits for. -/
def await (i : Nat) (w : Waiting) : Editing Unit :=
  change fun m => { m with ranges := m.ranges.setIfInBounds i w }

/-- Ends the range of a step. One that begins at a line number does not begin again. -/
def endRange (i : Nat) (start : Address) : Editing Unit :=
  match start with
  | .line _ => await i .nothing
  | _ => await i .start

/-- Begins the range of a step, unless it is a single line, and tells whether the line at hand belongs to
    it. -/
def beginRange (p : Plan) (i : Nat) (start : Address) (limit : Limit) : Editing Bool := do
  let n := (← get).number
  match limit with
  | .reached (.line k) =>
    if n < k then await i (.line k) else endRange i start
    match start with
    | .line first => return n ≤ k || n == first
    | _ => return true
  | .reached (.found _) => await i .found
  | .reached a => if ← fits p a then endRange i start else await i .found
  | .after k => if k == 0 then endRange i start else await i (.reaching (n + k))
  | .multiple k => if k == 0 then endRange i start else await i (.reaching (n + k - n % k))
  return true

/-- Whether the line at hand belongs to the range of a step. -/
def inRange (p : Plan) (i : Nat) (start : Address) (limit : Limit) : Editing Bool := do
  let m ← get
  let n := m.number
  match (m.ranges[i]?).getD .start with
  | .line k =>
    if k ≤ n then endRange i start
    return n ≤ k
  | .reaching k =>
    if k ≤ n then endRange i start
    return true
  | .found =>
    match limit with
    | .reached a => if ← fits p a then endRange i start
    | _ => endRange i start
    return true
  | .nothing => return false
  | .start =>
    let begins ←
      match start with
      | .line first => pure (decide (first ≤ n))
      | a => fits p a
    if begins then beginRange p i start limit else return false

/-- Whether a step selects the line at hand. -/
def selects (p : Plan) (i : Nat) (s : Selection) : Editing Bool := do
  let found ←
    match s.start, s.limit with
    | none, _ => pure true
    | some a, none => fits p a
    | some a, some limit => inRange p i a limit
  return found != s.negated

/-- Whether the range of a step goes on. -/
def goesOn (i : Nat) : Editing Bool := do
  match (← get).ranges[i]? with
  | some .start | some .nothing | none => return false
  | _ => return true

/-! ## Doing things -/

/-- A character as it is shown where all are to be visible. -/
def visible (c : Char) : List Char :=
  if c == '\x5c' then [c, c] else if Utility.isPrintable c then [c] else Utility.escapeOf c

/-- Lines of which each shows so many characters, all of them visible; `used` stand in the line at
    hand. -/
def listText (most : Option Nat) : Nat → List Char → String
  | _, [] => "$\n"
  | used, c :: cs =>
    let shown := visible c
    let breaks :=
      match most with
      | some k => decide (k < used + shown.length)
      | none => false
    (if breaks then "\x5c\n" else "") ++ String.ofList shown ++
      listText most ((if breaks then 0 else used) + shown.length) cs

/-- Runs a command and gives its output. -/
def outputOf (p : Plan) (command : String) : Editing String := do
  flush
  let (_, b) ← act (captured (p.call.run ["sh", "-c", command]))
  return Text.bytewise b

/-- Replaces the pattern space by the output of a command. -/
def runSpace (p : Plan) : Editing Unit := do
  let cs := (← outputOf p (String.ofList (← get).space.text)).toList
  let text := if cs.getLast? == some p.ending then cs.dropLast else cs
  change fun m => { m with space := { m.space with text } }

/-- Follows a substitution. -/
def substitute (p : Plan) (s : Substitution) : Editing Unit := do
  let search ← searchFor s.search
  match Edit.substitute s search (← get).space.text with
  | none => pure ()
  | some text =>
    change fun m => { m with replaced := true, space := { m.space with text } }
    if s.runs then runSpace p
    if s.prints then writeSpace p none
    match s.target with
    | some t => writeSpace p (some t)
    | none => pure ()

/-- The first line of the pattern space, and what follows its end. -/
def cutSpace (p : Plan) : Editing (List Char × Option (List Char)) := do
  let text := (← get).space.text
  let first := text.takeWhile (· != p.ending)
  return (first, if first.length < text.length then some (text.drop (first.length + 1)) else none)

/-- Has a line of a file written at the end of the cycle. -/
def appendLine (p : Plan) (name : String) : Editing Unit := do
  let channel ←
    match (← get).readers.lookup name with
    | some c => pure c
    | none =>
      let c ←
        match ← act (Utility.source name) with
        | .ok c => pure (some c)
        | .error _ => pure none
      change fun m => { m with readers := (name, c) :: m.readers }
      pure c
  match channel with
  | none => pure ()
  | some c =>
    match ← act (takePieceFrom p.ending.toNat.toUInt8 c) with
    | some (b, ended) =>
      let s := Text.bytewise b ++ if ended then String.singleton p.ending else ""
      change fun m => { m with appendices := .text s :: m.appendices }
    | none => pure ()

/-- How a cycle goes on after a step. -/
inductive Flow where
  | next
  | goTo (step : Nat)
  /-- The cycle ends as usual. -/
  | ended
  /-- The cycle ends, and the pattern space is not written. -/
  | dropped
  /-- A cycle begins with the pattern space as it is. -/
  | again
  | quit (status : Nat)

/-- Goes on at a label, or at the end of the script. -/
def jumpTo (p : Plan) (label : String) : Flow :=
  if label == "" then .ended else .goTo ((p.script.labels.lookup label).getD p.script.steps.size)

/-- Follows the instruction of a step. -/
def follow (p : Plan) (i : Nat) (instruction : Instruction) : Editing Flow := do
  match instruction with
  | .block _ | .nothing => return .next
  | .append s => change fun m => { m with appendices := .text s :: m.appendices }
  | .insert s => writeEnded p s
  | .change s =>
    unless ← goesOn i do writeEnded p s
    return .dropped
  | .jump l => return jumpTo p l
  | .jumpIfReplaced l =>
    if (← get).replaced then
      change fun m => { m with replaced := false }
      return jumpTo p l
  | .jumpUnlessReplaced l =>
    if !(← get).replaced then return jumpTo p l
    change fun m => { m with replaced := false }
  | .delete => return .dropped
  | .deleteLine =>
    match (← cutSpace p).2 with
    | none => return .dropped
    | some text =>
      change fun m => { m with space := { m.space with text } }
      return .again
  | .execute none => runSpace p
  | .execute (some command) => do
    let s ← outputOf p command
    writeText p none s
  | .fileName => writeEnded p ((← get).name ++ "\n")
  | .number => writeEnded p (toString (← get).number ++ "\n")
  | .get => change fun m => { m with space := m.kept }
  | .getAppending => change fun m => { m with space := m.space.append p.ending m.kept }
  | .hold => change fun m => { m with kept := m.space }
  | .holdAppending => change fun m => { m with kept := m.kept.append p.ending m.space }
  | .exchange => change fun m => { m with space := m.kept, kept := m.space }
  | .list width =>
    let width := width.getD p.width
    let shown := listText (if width == 0 then none else some (width - 1)) 0 (← get).space.text
    writeText p none (shown.map fun c => if c == '\n' then p.ending else c)
  | .next =>
    if ← isLast p then return .ended
    unless p.isQuiet do writeSpace p none
    match ← readLine? p with
    | some space => change fun m => { m with space }
    | none => return .dropped
  | .nextAppending =>
    if ← isLast p then return .ended
    match ← readLine? p with
    | some space => change fun m => { m with space := m.space.append p.ending space }
    | none => return .ended
  | .print => writeSpace p none
  | .printLine => writeLine p none (← cutSpace p).1 true
  | .quit status =>
    unless p.isQuiet do writeSpace p none
    writeAppendices p
    finishLine p none
    return .quit status
  | .quitSilently status => return .quit status
  | .readFile name => change fun m => { m with appendices := .file name :: m.appendices }
  | .readLine name => appendLine p name
  | .write t => writeSpace p (some t)
  | .writeLine t => writeLine p (some t) (← cutSpace p).1 true
  | .substitute s => substitute p s
  | .translate pairs =>
    change fun m => { m with
      space := { m.space with text := m.space.text.map fun c => (pairs.lookup c).getD c } }
  | .clear => change fun m => { m with space := { m.space with text := [] } }
  return .next

/-! ## Cycles -/

/-- Follows the steps from one of them on, at most `n`. -/
def steps (p : Plan) : Nat → Nat → Editing Flow
  | 0, _ => act (throw .endless)
  | n + 1, i => do
    match p.script.steps[i]? with
    | none => return .ended
    | some s =>
      if ← selects p i s.selection then
        match ← follow p i s.instruction with
        | .next => steps p n (i + 1)
        | .goTo j => steps p n j
        | f => return f
      else
        match s.instruction with
        | .block past => steps p n past
        | _ => steps p n (i + 1)

/-- The number of steps that a cycle may have. -/
def mostSteps : Nat := 10000000

/-- Runs cycles, at most `n`, and gives the exit code; `reads` tells whether the next one begins with a
    new line. -/
def cycles (p : Plan) : Nat → Bool → Editing Nat
  | 0, _ => act (throw .endless)
  | n + 1, reads => do
    let ready ←
      if reads then
        match ← readLine? p with
        | some space =>
          change fun m => { m with space }
          pure true
        | none => pure false
      else pure true
    if !ready then return 0
    match ← steps p mostSteps 0 with
    | .quit status => return status
    | .dropped =>
      writeAppendices p
      cycles p n true
    | .again =>
      writeAppendices p
      cycles p n false
    | _ =>
      unless p.isQuiet do writeSpace p none
      writeAppendices p
      cycles p n true

/-- Opens the files to which a script writes. -/
def openFiles (script : Script) : Editing Unit := do
  for s in script.steps do
    let name : Option String :=
      match s.instruction with
      | .write (.file name) | .writeLine (.file name) => some name
      | .substitute { target := some (.file name), .. } => some name
      | _ => none
    match name with
    | none => pure ()
    | some name =>
      if ((← get).written.lookup name).isNone then
        match ← act (openToWrite OsError.notFound.wording .emptied name) with
        | .ok channel => change fun m => { m with written := (name, channel) :: m.written }
        | .error why => stop ("couldn't open file " ++ name ++ ": " ++ why) 4

end Editing

/-- The number of cycles that a script may have. -/
def mostCycles : Nat := 10000000

/-- The files that a script puts in front of all lines, the last one first. -/
def frontFiles (script : Script) : List Appendix :=
  script.steps.toList.reverse.filterMap fun s =>
    match s.selection.start, s.selection.limit, s.instruction with
    | some (.line 0), none, .readFile name => some (.file name)
    | _, _, _ => none

/-- Edits files, and gives the exit code. -/
def run (p : Plan) (files : List String) : Action Nat := do
  let m : Machine := { files, ranges := p.ranges, appendices := frontFiles p.script }
  let work : Editing Nat := do
    Editing.openFiles p.script
    let status ← Editing.cycles p mostCycles true
    match (← get).channel with
    | some channel => unless p.isSparing do Editing.act (Utility.releaseInput channel)
    | none => pure ()
    Editing.leaveFile p
    return status
  let (result, m) ← work.run.run m
  let status ←
    match result with
    | .ok status => pure (if status == 0 && m.failed then 2 else status)
    | .error f => p.call.fail f.message f.status
  let _ ← Editing.flush.run.run m
  return status

end Buildwright.Shell.Edit
