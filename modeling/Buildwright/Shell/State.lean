-- SUMMARY: What a running script knows and changes: its variables and options, its streams, the disk, and the time that has passed.
import Buildwright.Disk.Scan
import Buildwright.Disk.Write
import Buildwright.Shell.Command
import Buildwright.Text.Utf8
import Buildwright.Text.Number

/-!
# The state of a script

The `Environment` of a script is what a command in parentheses may change without effect on what follows:
variables, options, the working directory, and the channels that the numbers of streams stand for. The
`State` adds what all commands share: the disk, the channels themselves, and the time.

All texts are bytewise, except for the names on the disk.
-/
namespace Buildwright.Shell

/-! ## Channels -/

/-- Where bytes come from and go to. -/
inductive Channel where
  /-- Takes everything and gives nothing. -/
  | nowhere
  /-- Gives zeros without end. -/
  | zeros
  /-- A directory, from which nothing can be read. -/
  | directory
  /-- The file at a place, from an offset on. -/
  | file (place : Location) (offset : Nat) (appending : Bool)
  /-- Gives the bytes that have been written to it, of which the first have been taken. `ended` tells
      whether more has been asked for than there was, and a `limit` bounds what it holds. -/
  | pipe (content : Bytes) (taken : Nat) (ended : Bool) (limit : Option Nat)
  deriving Inhabited

/-! ## Environments -/

/-- A variable. -/
structure Variable where
  value : Option String
  exported : Bool := false
  constant : Bool := false

/-- What a script can change without effect on the script that runs it. -/
structure Environment where
  /-- What the script calls itself. -/
  name : String
  arguments : List String
  bindings : List (String × Variable)
  /-- The variables of the callers of functions, which come back when the functions end. -/
  hidden : List (List (String × Option Variable)) := []
  functions : List (String × Command) := []
  aliases : List (String × String) := []
  /-- The letters of the options that are set. -/
  options : List Char := []
  /-- What is done on signals, by their names. -/
  traps : List (String × String) := []
  /-- The exit code of the last command. -/
  status : Nat := 0
  /-- The exit code of the last command whose output stands for a word. -/
  outputStatus : Nat := 0
  /-- Whether the failure of the command that is run is asked for. -/
  asked : Bool := false
  /-- The number of loops around the command that is run. -/
  loops : Nat := 0
  /-- The number of functions around the command that is run. -/
  calls : Nat := 0
  /-- The numbers of streams with the numbers of their channels. -/
  streams : List (Nat × Nat)
  /-- The program of the shell that is run, as messages name it. -/
  program : String := ""
  /-- The line of the command that is run. -/
  line : Nat := 1
  /-- The number of the last background command. -/
  lastJob : Option Nat := none
  /-- The programs that have been run, with their paths. -/
  located : List (String × String) := []
  /-- The number of the argument at which options are read, and the place in it. -/
  optionIndex : Nat := 1
  optionPlace : Nat := 0
  /-- The bits of modes that new files do not get. -/
  mask : Nat := 18
  /-- What the working directory is called. -/
  directory : String := "/"
  /-- The exit code before the action of a trap that is run. -/
  trapped : Option Nat := none

/-- The start of a command: its environment, where it starts and when. -/
structure Start where
  command : Command
  environment : Environment
  directory : Location
  elapsed : Nat

/-- A command that runs beside the script: the numbers of its process and of its place among the jobs of the
    script, and its exit code once it has ended. Until then, `late` holds its start. -/
structure Job where
  number : Nat
  index : Nat := 1
  status : Nat
  late : Option Start
  /-- Whether the script itself has started it, and not a part of it that has ended. -/
  own : Bool := true
  /-- The signal that has ended it, and whether the script has told of that. -/
  signal : Option Nat := none
  isTold : Bool := false
  /-- Whether the script has waited for its end. -/
  isAwaited : Bool := false
  /-- The number of its processes. -/
  width : Nat := 1

/-- The number of commands that a script without a limit on its time may run. -/
def mostCommands : Nat := 100000000

/-- The number of commands that may be run in some milliseconds. -/
def commandsIn (milliseconds : Nat) : Nat :=
  min (2000 * milliseconds) 1000000

/-- The state of a running script. -/
structure State where
  disk : Disk
  channels : Array Channel
  environment : Environment
  jobs : List Job := []
  /-- The milliseconds that have passed. -/
  elapsed : Nat := 0
  /-- The milliseconds after which the script is stopped. -/
  deadline : Option Nat := none
  /-- The number of the next process. -/
  nextProcess : Nat := 1001
  /-- The number of commands that may still be run. -/
  budget : Nat := mostCommands

/-- The ways in which a script leaves the commands that it is in. -/
inductive Jump where
  /-- Out of the script. -/
  | exit
  /-- Out of the script, after a mistake that the shell has reported. -/
  | mistake
  /-- Out of a function or a sourced script. -/
  | back
  /-- Out of a number of loops. -/
  | leave (loops : Nat)
  /-- Out of a number of loops, of which the last goes on with its next round. -/
  | next (loops : Nat)
  /-- Out of a process, since nothing reads what it writes. -/
  | unread
  /-- Out of a process that a signal ends. -/
  | killed (signal : Nat)
  /-- Out of everything, at the end of the time. -/
  | late
  /-- Out of everything, after too many steps. -/
  | endless

/-- A computation of a running script. -/
abbrev Action := EStateM Jump State

namespace Action

/-! ## The environment -/

/-- What the script knows of itself. -/
def environment : Action Environment := do
  return (← get).environment

/-- Changes the environment. -/
def alter (f : Environment → Environment) : Action Unit :=
  modify fun s => { s with environment := f s.environment }

/-- Sets the exit code. -/
def finish (status : Nat) : Action Unit :=
  alter fun e => { e with status }

/-- Whether an option is set. -/
def isSet (letter : Char) : Action Bool := do
  return (← environment).options.contains letter

/-! ## The disk -/

/-- Runs a computation on the disk. -/
def onDisk {α : Type} (m : DiskM α) : Action (Except IoError α) := fun s =>
  match m s.disk with
  | .ok a d => .ok (.ok a) { s with disk := d }
  | .error e d => .ok (.error e) { s with disk := d }

/-- The disk. -/
def disk : Action Disk := do
  return (← get).disk

/-- Replaces the disk. -/
def setDisk (d : Disk) : Action Unit :=
  modify fun s => { s with disk := d }

/-- A path that a text names. -/
def pathOf (s : String) : Path := ⟨Text.ofBytewise s⟩

/-- The content of the file at a place, or nothing if there is none. -/
def contentAt (d : Disk) (place : Location) : Bytes :=
  match d.find? place with
  | some (.file f) => f.content
  | _ => ByteArray.empty

/-! ## Channels -/

/-- The number of the channel of a stream. -/
def channelOf? (stream : Nat) : Action (Option Nat) := do
  return (← environment).streams.lookup stream

/-- Adds a channel and gives its number. -/
def open_ (c : Channel) : Action Nat := do
  let s ← get
  set { s with channels := s.channels.push c }
  return s.channels.size

/-- The streams with a stream that goes to a channel. -/
def withStream (stream channel : Nat) (streams : List (Nat × Nat)) : List (Nat × Nat) :=
  (stream, channel) :: streams.filter (·.1 != stream)

/-- Makes a stream go to a channel. -/
def connect (stream channel : Nat) : Action Unit :=
  alter fun e => { e with streams := withStream stream channel e.streams }

/-- Closes a stream. -/
def close (stream : Nat) : Action Unit :=
  alter fun e => { e with streams := e.streams.filter (·.1 != stream) }

/-- The file with bytes written at an offset. -/
def overlay (content : Bytes) (offset : Nat) (b : Bytes) : Bytes :=
  if content.size ≤ offset then
    content ++ ⟨Array.replicate (offset - content.size) 0⟩ ++ b
  else content.extract 0 offset ++ b ++ content.extract (offset + b.size) content.size

/-- The number of bytes for which a channel has room, if that is bounded. -/
def room? (s : State) (channel : Nat) : Option Nat :=
  match s.channels[channel]? with
  | some (.pipe content _ _ (some limit)) => some (limit - content.size)
  | _ => none

/-- Adds bytes to what a pipe holds. -/
def addToPipe (b : Bytes) : Channel → Channel
  | .pipe content taken ended limit => .pipe (content ++ b) taken ended limit
  | c => c

/-- Puts bytes into a channel, whether or not it has room. -/
def put (channel : Nat) (b : Bytes) : Action Unit :=
  modify fun s =>
    match s.channels[channel]? with
    | some (.file place offset appending) =>
      match s.disk.find? place with
      | some (.file f) =>
        let start := if appending then f.content.size else offset
        let content := if start = f.content.size then f.content ++ b else overlay f.content start b
        { s with
          disk := s.disk.put place (.file { f with content, modified := s.disk.now })
          channels := s.channels.modify channel fun _ => .file place (start + b.size) appending }
      | _ => s
    | _ => { s with channels := s.channels.modify channel (addToPipe b) }

/-- Writes bytes to a channel. What a channel has no room for is not read by anybody. -/
def emitTo (channel : Nat) (b : Bytes) : Action Unit := do
  match room? (← get) channel with
  | some n =>
    if n < b.size then
      put channel (b.extract 0 n)
      throw .unread
    else put channel b
  | none => put channel b

/-- Writes bytes to a stream. -/
def emit (stream : Nat) (b : Bytes) : Action Unit := do
  match ← channelOf? stream with
  | some n => if b.size != 0 then emitTo n b
  | none => pure ()

/-- Writes a text to the output. -/
def say (s : String) : Action Unit :=
  emit 1 (Text.bytesOf s)

/-- Writes a text to the error stream. -/
def complain (s : String) : Action Unit :=
  emit 2 (Text.bytesOf s)

/-! ## Input -/

/-- What can be read from a channel: the bytes, and from where on. -/
def readable (s : State) : Channel → Bytes × Nat
  | .pipe content taken _ _ => (content, taken)
  | .file place offset _ => (contentAt s.disk place, offset)
  | .nowhere | .zeros | .directory => (ByteArray.empty, 0)

/-- Moves the place from which a channel is read; `ended` tells whether more was asked for. -/
def moveTo (channel place : Nat) (ended : Bool) : Action Unit :=
  modify fun s => { s with
    channels := s.channels.modify channel fun c =>
      match c with
      | .pipe content _ before limit => .pipe content place (before || ended) limit
      | .file at' _ appending => .file at' place appending
      | c => c }

/-- Takes all that is left of a channel. -/
def takeAllFrom (channel : Nat) : Action Bytes := do
  let s ← get
  let (b, place) := readable s ((s.channels[channel]?).getD .nowhere)
  moveTo channel b.size true
  return b.extract place b.size

/-- Takes at most a number of bytes from a channel. -/
def takeFrom (channel count : Nat) : Action Bytes := do
  let s ← get
  match (s.channels[channel]?).getD .nowhere with
  | .zeros => return ⟨Array.replicate count 0⟩
  | c =>
    let (b, place) := readable s c
    let stop := min b.size (place + count)
    moveTo channel stop (decide (b.size < place + count))
    return b.extract place stop

/-- The place of a byte in bytes from a place on, of which at most `n` follow. -/
def findByte (b : Bytes) (x : UInt8) : Nat → Nat → Option Nat
  | 0, _ => none
  | n + 1, i => if b.get! i == x then some i else findByte b x n (i + 1)

/-- Takes what stands in front of the next of certain bytes from a channel, and whether there is one;
    nothing if nothing is left. -/
def takePieceFrom (ending : UInt8) (channel : Nat) : Action (Option (Bytes × Bool)) := do
  let s ← get
  let (b, place) := readable s ((s.channels[channel]?).getD .nowhere)
  if b.size ≤ place then
    moveTo channel b.size true
    return none
  else
    match findByte b ending (b.size - place) place with
    | some i =>
      moveTo channel (i + 1) false
      return some (b.extract place i, true)
    | none =>
      moveTo channel b.size true
      return some (b.extract place b.size, false)

/-- Takes a line from a channel, without its end, and whether it has one; nothing if nothing is left. -/
def takeLineFrom (channel : Nat) : Action (Option (Bytes × Bool)) :=
  takePieceFrom 10 channel

/-- Whether there is more to be taken from a channel. -/
def hasMore (channel : Nat) : Action Bool := do
  let s ← get
  let (b, place) := readable s ((s.channels[channel]?).getD .nowhere)
  if place < b.size then return true
  moveTo channel place true
  return false

/-- Takes all that is left of the standard input. -/
def takeInput : Action Bytes := do
  match ← channelOf? 0 with
  | some n => takeAllFrom n
  | none => return ByteArray.empty

/-! ## Captured output -/

/-- The bytes that a channel holds. -/
def contentOf (channel : Nat) : Action Bytes := do
  let s ← get
  return (readable s ((s.channels[channel]?).getD .nowhere)).1

/-- Runs a computation with its output going to a channel of its own, and gives what it writes. -/
def captured {α : Type} (m : Action α) : Action (α × Bytes) := do
  let n ← open_ (.pipe ByteArray.empty 0 false none)
  let before := (← environment).streams
  connect 1 n
  let release : Action Bytes := do
    let b ← contentOf n
    modify fun s => { s with
      channels := if s.channels.size = n + 1 then s.channels.pop else s.channels
      environment := { s.environment with streams := before } }
    return b
  let a ← tryCatch m fun j => do
    let _ ← release
    throw j
  return (a, ← release)

/-! ## Messages of the shell -/

/-- Writes a message of the shell itself to the error stream. -/
def warn (message : String) : Action Unit := do
  let e ← environment
  let program := if e.program = "" then "" else e.program ++ ": "
  complain (e.name ++ ": " ++ toString e.line ++ ": " ++ program ++ message ++ "\n")

/-- Reports a mistake that ends the script. -/
def mistake {α : Type} (message : String) : Action α := do
  warn message
  finish 2
  throw .mistake

/-! ## Variables -/

/-- A variable, if there is one. -/
def binding? (x : String) : Action (Option Variable) := do
  return (← environment).bindings.lookup x

/-- The value of a variable, if it has one. -/
def valueOf? (x : String) : Action (Option String) := do
  return (← binding? x).bind (·.value)

/-- Puts a variable in place. -/
def setVariable (x : String) (v : Variable) : Action Unit :=
  alter fun e => { e with bindings := (x, v) :: e.bindings.filter (·.1 != x) }

/-- Removes a variable. -/
def dropVariable (x : String) : Action Unit :=
  alter fun e => { e with bindings := e.bindings.filter (·.1 != x) }

/-- Reports a text that is no number. -/
def noNumber {α : Type} (s : String) : Action α :=
  mistake ("Illegal number: " ++ s)

/-- The greatest number of what can be counted. -/
def greatestCount : Nat := 2147483647

/-- The number that a text is; that it is none is a mistake. -/
def number (s : String) : Action Nat := do
  match Text.integer? s with
  | some n => if n < 0 || greatestCount < n then noNumber s else return n.toNat
  | none => noNumber s

/-- Follows a change of the variable that says where options are read. -/
def followOptionIndex (x value : String) : Action Unit := do
  if x == "OPTIND" then
    let n ← number value
    alter fun e => { e with optionIndex := if n = 0 then 1 else n, optionPlace := 0 }

/-- Gives a variable a value; a constant must not get one. -/
def assign (x value : String) : Action Unit := do
  let e ← environment
  match e.bindings.lookup x with
  | some v =>
    if v.constant then mistake (x ++ ": is read only")
    setVariable x { v with value := some value, exported := v.exported || e.options.contains 'a' }
  | none => setVariable x ⟨some value, e.options.contains 'a', false⟩
  followOptionIndex x value
  if x == "PATH" then alter fun e => { e with located := [] }

/-- The characters at which values are split unless a script says others. -/
def usualSeparators : List Char := [' ', '\t', '\n']

/-- The characters at which values are split. -/
def separators : Action (List Char) := do
  return ((← valueOf? "IFS").map String.toList).getD usualSeparators

end Action
end Buildwright.Shell
