-- SUMMARY: The state of a program on records: its variables, the record at hand, and where it reads and writes.
import Buildwright.Shell.Records.Layout
import Buildwright.Shell.Records.Matching
import Buildwright.Shell.Records.Table
import Buildwright.Shell.Records.Token
import Buildwright.Shell.Utility.Basic

/-!
# The state of a program on records

The record is put together from its fields when it is asked for, and taken apart when it changes. Output is
kept back until a command is run, a file is closed, or the program ends. The output for a command is kept
until the command is closed, and only then is the command run.
-/
namespace Buildwright.Shell.Records

open Shell.Utility

/-! ## Variables -/

/-- What a variable holds. -/
inductive Slot where
  | value (v : Value)
  /-- The table with a number. -/
  | table (id : Nat)
  /-- Nothing so far; as a table, it is the one with a number. -/
  | undecided (id : Nat)
  deriving Inhabited

/-! ## Streams -/

/-- Where records come from: what has been taken already, and a channel. -/
structure Supply where
  pending : List Char := []
  channel : Option Nat

/-- What is done with a stream. -/
inductive Flow where
  /-- Reading; the exit code is that of the command. -/
  | reading (supply : Supply) (status : Nat)
  /-- Writing to a channel; what is kept back stands with the last part first. -/
  | writing (channel : Nat) (kept : List String)
  /-- Writing to a command. -/
  | feeding (kept : List String)

/-- A file or a command that is read or written. -/
structure Stream where
  name : String
  isCommand : Bool
  flow : Flow

namespace Stream

/-- Whether a stream is read. -/
def isRead (s : Stream) : Bool :=
  match s.flow with
  | .reading _ _ => true
  | _ => false

end Stream

/-! ## The state -/

/-- What changes while a program runs. -/
structure Machine where
  globals : Std.HashMap String Slot := {}
  frame : Array Slot := #[]
  /-- The functions that are being run. -/
  depth : Nat := 0
  tables : Array Table := #[]
  record : Value := .input ""
  /-- Whether the record has to be put together from its fields. -/
  isStale : Bool := false
  fields : Array Value := #[]
  /-- The output that is kept back, the last part first, and its length. -/
  output : List String := []
  outputLength : Nat := 0
  /-- The streams, the one that has been used last first. -/
  streams : List Stream := []
  /-- The rules of which the last record has not been found yet. -/
  openRules : List Nat := []
  /-- The number of the argument that is read next. -/
  argument : Nat := 1
  /-- Whether a file has been read. -/
  hasRead : Bool := false
  supply : Option Supply := none
  isOver : Bool := false
  chance : Nat := 1
  seed : Value := .number 0
  status : Nat := 0

/-- The ways in which a program leaves what it does. -/
inductive Leave where
  | loop
  | round
  | record
  | file
  | exit
  /-- Out of a function, with a value. -/
  | back (v : Value)
  /-- Out of the program, after a mistake. -/
  | mistake (message : String)

/-- A computation of a program on records. -/
abbrev Work := ExceptT Leave (StateT Machine Action)

namespace Work

/-- Runs an action of the script in which the program runs. -/
def act {α : Type} (m : Action α) : Work α :=
  ExceptT.lift (StateT.lift m)

/-- Changes what is known. -/
def change (f : Machine → Machine) : Work Unit :=
  modify f

/-! ## Values of variables -/

/-- The value of a global variable. -/
def scalar (x : String) : Work Value := do
  match (← get).globals[x]? with
  | some (.value v) => return v
  | _ => return .unset

/-- Gives a global variable a value. -/
def setScalar (x : String) (v : Value) : Work Unit :=
  change fun m => { m with globals := m.globals.insert x (.value v) }

/-- How numbers are written in texts. -/
def written : Work (Float → String) := do
  match ← scalar "CONVFMT" with
  | .text s | .input s => return Layout.number s
  | _ => return Layout.number Layout.usualFormat

/-- A value as a text. -/
def asText (v : Value) : Work String := do
  match v with
  | .number x => return (← written) x
  | .text s | .input s => return s
  | .unset => return ""

/-- A value as it is printed. -/
def shown (v : Value) : Work String := do
  match v with
  | .number x => return Layout.number (← asText (← scalar "OFMT")) x
  | _ => asText v

/-- The text of a global variable. -/
def setting (x : String) : Work String := do
  asText (← scalar x)

/-- Ends the program with a mistake, after which it is said where the program was. -/
def wrong {α : Type} (message : String) : Work α := do
  let name ← setting "FILENAME"
  let place := "\n\tFILENAME=\x22" ++ name ++ "\x22 FNR=" ++ (← setting "FNR") ++ " NR=" ++
    (← setting "NR")
  throw (.mistake ("run time error: " ++ message ++ place))

/-- A regular expression, or a mistake. -/
def right {α : Type} (r : Except String α) : Work α :=
  match r with
  | .ok a => return a
  | .error message => wrong message

/-! ## Tables -/

/-- Adds a table and gives its number. -/
def newTable : Work Nat :=
  modifyGet fun m => (m.tables.size, { m with tables := m.tables.push {} })

/-- Changes a table. -/
def changeTable (id : Nat) (f : Table → Table) : Work Unit :=
  change fun m => { m with tables := m.tables.modify id f }

/-- What a variable holds. -/
def slotOf (v : Variable) : Work (Option Slot) := do
  match v with
  | .global x => return (← get).globals[x]?
  | .parameter n => return (← get).frame[n]?

/-- Changes what a variable holds. -/
def setSlot (v : Variable) (s : Slot) : Work Unit :=
  match v with
  | .global x => change fun m => { m with globals := m.globals.insert x s }
  | .parameter n => change fun m => { m with frame := m.frame.setIfInBounds n s }

/-- The number of the table that a variable holds. -/
def tableOf (v : Variable) : Work Nat := do
  match ← slotOf v with
  | some (.table id) => return id
  | some (.undecided id) =>
    setSlot v (.table id)
    return id
  | _ =>
    let id ← newTable
    setSlot v (.table id)
    return id

/-- What a function gets for a variable. A table is not copied, and what holds nothing yet may become one
    in the function. -/
def lend (v : Variable) : Work Slot := do
  let undecided : Work Slot := do
    let id ← newTable
    setSlot v (.undecided id)
    return .undecided id
  match ← slotOf v with
  | some (.value .unset) | none => undecided
  | some s => return s

/-- The table with a number. -/
def tableAt (id : Nat) : Work Table := do
  return ((← get).tables[id]?).getD {}

/-! ## Fields -/

/-- The greatest number of fields. -/
def mostFields : Nat := 4000000

/-- Makes a value the record, and takes it apart. -/
def setRecord (v : Value) : Work Unit := do
  let separator ← right (Separator.ofText (← setting "FS"))
  let fields := (separator.split (← asText v).toList).map Value.input
  change fun m => { m with record := v, isStale := false, fields := fields.toArray }
  setScalar "NF" (.ofNat fields.length)

/-- The record. A single field is the record as it is, and several ones are a text together. -/
def record : Work Value := do
  let m ← get
  if !m.isStale then return m.record
  else
    let written ← written
    let v ←
      match m.fields.toList with
      | [v] => pure v
      | vs => pure (Value.text (Text.joined (← setting "OFS") (vs.map (·.toText written))))
    change fun m => { m with record := v, isStale := false }
    return v

/-- The record as a text. -/
def recordText : Work String := do
  asText (← record)

/-- Makes the number of fields a certain one. -/
def resize (n : Nat) : Work Unit := do
  if mostFields < n then wrong "program limit exceeded: maximum number of fields size=32767"
  change fun m => { m with
    isStale := true
    fields := (m.fields.extract 0 n) ++ Array.replicate (n - m.fields.size) (Value.text "") }

/-- Makes the number of fields what a value says. -/
def setCount (v : Value) : Work Unit := do
  let n := truncated v.toNumber
  if n < 0 then wrong "negative value assigned to NF"
  resize n.toNat

/-- The field with a number. -/
def fieldAt (n : Nat) : Work Value := do
  if n == 0 then record
  else return ((← get).fields[n - 1]?).getD (.text "")

/-- Changes the field with a number. -/
def setField (n : Nat) (v : Value) : Work Unit := do
  if n == 0 then setRecord v
  else
    if (← get).fields.size < n then
      resize n
      setScalar "NF" (.ofNat n)
    change fun m => { m with isStale := true, fields := m.fields.setIfInBounds (n - 1) v }

/-- The number that a value is for a field. -/
def fieldNumber (v : Value) : Work Nat := do
  let n := truncated v.toNumber
  if n < 0 then wrong ("negative field index $" ++ toString n)
  return n.toNat

/-! ## Single variables -/

/-- The value of a variable. -/
def read (v : Variable) : Work Value := do
  match ← slotOf v with
  | some (.value a) => return a
  | _ => return .unset

/-- Gives a variable a value. -/
def write (v : Variable) (a : Value) : Work Unit := do
  setSlot v (.value a)
  if v == .global "NF" then setCount a

/-! ## Output -/

/-- Writes the output that has been kept back. -/
def flushOutput : Work Unit := do
  let m ← get
  if m.outputLength != 0 then
    change fun m => { m with output := [], outputLength := 0 }
    act (Action.say (String.join m.output.reverse))

/-- Writes to the output. -/
def say (s : String) : Work Unit := do
  change fun m => { m with output := s :: m.output, outputLength := m.outputLength + s.utf8ByteSize }
  if blockSize ≤ (← get).outputLength then flushOutput

/-- Writes what has been kept back for a file. -/
def flushStream (s : Stream) : Work Stream := do
  match s.flow with
  | .writing channel kept =>
    act (Action.emitTo channel (Text.bytesOf (String.join kept.reverse)))
    return { s with flow := .writing channel [] }
  | _ => return s

/-- Writes all that has been kept back, except for commands. -/
def flush : Work Unit := do
  flushOutput
  let streams ← (← get).streams.mapM flushStream
  change fun m => { m with streams }

/-! ## Commands -/

/-- Takes the block of the input that is being read, as far as commands do not see it any more. -/
def hold : Work Unit := do
  let input ← act (Action.channelOf? 0)
  match (← get).supply with
  | some ⟨pending, some channel⟩ =>
    if input == some channel then
      let s ← act get
      let (b, place) := Action.readable s ((s.channels[channel]?).getD .nowhere)
      let next := min b.size (untilBlock place)
      let taken ← act (Action.takeFrom channel (next - place))
      let more := (Text.bytewise taken).toList
      change fun m => { m with supply := some ⟨pending ++ more, some channel⟩ }
  | _ => pure ()

/-- Runs a command by a shell, which is called in a certain way. -/
def shell (call : Call) (name command : String) : Work Nat := do
  flush
  hold
  match ← act (call.run [name, "-c", command]) with
  | .ok status => return status
  | .error _ => return 127

/-- The path of the shell that runs commands. -/
def shellPath : String := "/bin/sh"

/-- Runs a command with an input. -/
def feed (call : Call) (command input : String) : Work Nat := do
  let before := (← act Action.environment).streams
  let channel ← act (Action.open_ (.pipe (Text.bytesOf input) 0 false none))
  act (Action.connect 0 channel)
  let status ← act (call.run [shellPath, "-c", command])
  act (Action.alter fun e => { e with streams := before })
  return status.toOption.getD 127

/-- Ends a stream and gives its exit code. -/
def finishStream (call : Call) (s : Stream) : Work Nat := do
  match s.flow with
  | .reading _ status => return status
  | .writing _ _ =>
    let _ ← flushStream s
    return 0
  | .feeding kept =>
    hold
    feed call s.name (String.join kept.reverse)

/-- Ends the streams with a name. -/
def close (call : Call) (name : String) : Work Value := do
  let (mine, others) := (← get).streams.partition (·.name == name)
  change fun m => { m with streams := others }
  let statuses ← mine.mapM (finishStream call)
  return match statuses.getLast? with
    | some status => .ofNat status
    | none => .number (-1)

/-- Ends all streams. Those for commands come first. -/
def closeAll (call : Call) : Work Unit := do
  let streams := (← get).streams
  change fun m => { m with streams := [] }
  for s in streams do
    let _ ← finishStream call s
  flushOutput

/-! ## Writing to streams -/

/-- Takes a stream out of the streams. -/
def takeStream? (p : Stream → Bool) : Work (Option Stream) := do
  let m ← get
  match m.streams.find? p with
  | some s =>
    let i := (m.streams.findIdx? p).getD 0
    change fun m => { m with streams := m.streams.eraseIdx i }
    return some s
  | none => return none

/-- Puts a stream in front of the streams. -/
def putStream (s : Stream) : Work Unit :=
  change fun m => { m with streams := s :: m.streams }

/-- Ends the program since a file cannot be opened. -/
def cannotOpen {α : Type} (name purpose why : String) : Work α :=
  throw (.mistake ("cannot open \x22" ++ name ++ "\x22" ++ purpose ++ " (" ++ why ++ ")"))

/-- Writes to a file. -/
def sayToFile (name text : String) (o : Opening) : Work Unit := do
  if name == "/dev/stdout" then say text
  else if name == "/dev/stderr" then act (Action.complain text)
  else
    let s ←
      match ← takeStream? fun s => s.name == name && !s.isCommand && !s.isRead with
      | some s => pure s
      | none =>
        match ← act (openToWrite OsError.notFound.wording o name) with
        | .ok channel => pure ⟨name, false, .writing channel []⟩
        | .error why => cannotOpen name " for output" why
    match s.flow with
    | .writing channel kept => putStream { s with flow := .writing channel (text :: kept) }
    | _ => putStream s

/-- Writes to a command. -/
def sayToCommand (name text : String) : Work Unit := do
  match ← takeStream? fun s => s.name == name && s.isCommand && !s.isRead with
  | some s =>
    match s.flow with
    | .feeding kept => putStream { s with flow := .feeding (text :: kept) }
    | _ => putStream s
  | none =>
    flush
    putStream ⟨name, true, .feeding [text]⟩

/-! ## Reading -/

/-- Takes all that is left of a supply. -/
def drained (s : Supply) : Work (List Char) := do
  match s.channel with
  | some channel => return s.pending ++ (Text.bytewise (← act (Action.takeAllFrom channel))).toList
  | none => return s.pending

/-- Takes a record from a supply; the supply after it is given, too. -/
def takeRecord (s : Supply) : Work (Option String × Supply) := do
  let ending ← right (Ending.ofText (← setting "RS"))
  match ending, s.channel with
  | .char c, some channel =>
    let here := s.pending.takeWhile (· != c)
    if here.length < s.pending.length then
      return (some (String.ofList here), ⟨s.pending.drop (here.length + 1), some channel⟩)
    else
      match ← act (Action.takePieceFrom (UInt8.ofNat c.toNat) channel) with
      | some (b, _) => return (some (String.ofList here ++ Text.bytewise b), ⟨[], some channel⟩)
      | none =>
        if here.isEmpty then return (none, ⟨[], some channel⟩)
        else return (some (String.ofList here), ⟨[], some channel⟩)
  | _, _ =>
    match ending.take (← drained s) with
    | some (r, rest) => return (some r, ⟨rest, none⟩)
    | none => return (none, ⟨[], none⟩)

/-- Takes a record from a file or a command; `none` says that it cannot be read. -/
def recordFrom (call : Call) (name : String) (isCommand : Bool) : Work (Option (Option String)) := do
  let found ←
    match ← takeStream? fun s => s.name == name && s.isCommand == isCommand && s.isRead with
    | some s => pure (some s)
    | none =>
      if isCommand then
        flush
        hold
        let (status, b) ← act (Action.captured (call.run [shellPath, "-c", name]))
        let channel ← act (Action.open_ (.pipe b 0 false none))
        pure (some ⟨name, true, .reading ⟨[], some channel⟩ (status.toOption.getD 127)⟩)
      else
        match ← act (source name) with
        | .ok channel =>
          match (← act get).channels[channel]? with
          | some .directory => pure none
          | _ => pure (some ⟨name, false, .reading ⟨[], some channel⟩ 0⟩)
        | .error _ => pure none
  match found with
  | some ⟨_, _, .reading supply status⟩ =>
    let (r, supply) ← takeRecord supply
    putStream ⟨name, isCommand, .reading supply status⟩
    return some r
  | _ => return none

/-! ## The input -/

/-- A text that gives a variable a value, as it can stand among arguments. -/
def assignment? (s : String) : Option (String × String) :=
  let cs := s.toList
  let x := cs.takeWhile Token.continuesName
  match x, cs.drop x.length with
  | c :: _, '=' :: value => if Token.beginsName c then some (String.ofList x, Token.unescaped value) else none
  | _, _ => none

/-- Gives a variable a value that has been read. -/
def assign (x value : String) : Work Unit :=
  write (.global x) (.input value)

/-- The argument with a number, if it is there. -/
def argumentAt (n : Nat) : Work (Option String) := do
  let t ← tableAt (← tableOf (.global "ARGV"))
  let k := Key.number (Int.ofNat n)
  if t.has k then return some (← asText (t.value k)) else return none

/-- Begins to read a file; `-` is the standard input. -/
def enter (name : String) : Work Unit := do
  setScalar "FILENAME" (.input name)
  setScalar "FNR" (.number 0)
  match ← act (source name) with
  | .ok channel =>
    match (← act get).channels[channel]? with
    | some .directory => throw (.mistake ("read error (" ++ OsError.isADirectory.wording ++ ")"))
    | _ => change fun m => { m with supply := some ⟨[], some channel⟩, hasRead := true }
  | .error why => cannotOpen name "" why

/-- Goes on with the next file, of at most `n` arguments, and tells whether there is one. Arguments that
    give variables values are followed. -/
def nextSource : Nat → Work Bool
  | 0 => return false
  | n + 1 => do
    let i := (← get).argument
    if Float.ofNat i < (← scalar "ARGC").toNumber then
      change fun m => { m with argument := i + 1 }
      match ← argumentAt i with
      | none => nextSource n
      | some a =>
        if a == "" then nextSource n
        else
          match assignment? a with
          | some (x, value) =>
            assign x value
            nextSource n
          | none =>
            enter a
            return true
    else if (← get).hasRead then return false
    else
      enter "-"
      return true

/-- The number of arguments that are looked at. -/
def mostArguments : Nat := 100000

/-- Takes the next record of the input, from at most `n` files. -/
def nextRecordWithin : Nat → Work (Option String)
  | 0 => return none
  | n + 1 => do
    let m ← get
    if m.isOver then return none
    match m.supply with
    | none =>
      if ← nextSource mostArguments then nextRecordWithin n
      else
        change fun m => { m with isOver := true }
        return none
    | some supply =>
      let (r, supply) ← takeRecord supply
      match r with
      | some r =>
        change fun m => { m with supply := some supply }
        return some r
      | none =>
        change fun m => { m with supply := none }
        nextRecordWithin n

/-- Takes the next record of the input and counts it. -/
def nextRecord : Work (Option String) := do
  match ← nextRecordWithin mostArguments with
  | some r =>
    for x in ["NR", "FNR"] do setScalar x (.number ((← scalar x).toNumber + 1))
    return some r
  | none => return none

end Work

end Buildwright.Shell.Records
