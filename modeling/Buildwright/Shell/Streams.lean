-- SUMMARY: Where streams go: opening files for them, and redirections.
import Buildwright.Shell.Expansion
import Buildwright.Text.Number

/-!
# Streams

A redirection opens a file for a stream, joins the stream with another, or closes it. A file that cannot
be opened is a mistake, which ends no more than the command.
-/
namespace Buildwright.Shell

open Shell.Action

/-! ## Opening files -/

/-- Why a file cannot be opened, as the shell says it. -/
def openingFault (missing : String) : IoError → String
  | .system .notFound | .system .notADirectory => missing
  | .system e => e.wording
  | e => e.message

/-- What a path of the system stands for that is no file. -/
inductive Device where
  | channel (c : Channel)
  /-- What a stream goes to already. -/
  | stream (n : Nat)
  | terminal

/-- The device at a path. -/
def device? (p : String) : Option Device :=
  match p with
  | "/dev/null" => some (.channel .nowhere)
  | "/dev/zero" => some (.channel .zeros)
  | "/dev/tty" => some .terminal
  | "/dev/stdin" => some (.stream 0)
  | "/dev/stdout" => some (.stream 1)
  | "/dev/stderr" => some (.stream 2)
  | _ =>
    match Text.after? "/dev/fd/" p with
    | some digits => (Text.digits? digits.toList).map .stream
    | none => none

/-- The channel of a device. -/
def openDevice : Device → Action (Except String Nat)
  | .channel c => do return .ok (← open_ c)
  | .stream n => do
    match ← channelOf? n with
    | some channel => return .ok channel
    | none => return .error OsError.notFound.wording
  | .terminal => return .error "No such device or address"

/-- Opens a file to read from it. -/
def openToRead (missing p : String) : Action (Except String Nat) := do
  match device? p with
  | some d => openDevice d
  | none =>
    match (← disk).resolve (pathOf p) with
    | .ok (place, .file _) => return .ok (← open_ (.file place 0 false))
    | .ok _ => return .ok (← open_ .directory)
    | .error e => return .error (openingFault missing e)

/-- How a file is opened to write to it. -/
inductive Opening where
  /-- What is in the file is lost. -/
  | emptied
  | kept
  | appending
  /-- A file that is there must not be opened. -/
  | fresh
  deriving DecidableEq

/-- Opens a file to write to it. -/
def openToWrite (missing : String) (o : Opening) (p : String) : Action (Except String Nat) := do
  match device? p with
  | some d => openDevice d
  | none =>
    let path := pathOf p
    let opened : Action (Except String Nat) := do
      match (← disk).resolve path with
      | .ok (place, _) => return .ok (← open_ (.file place 0 (o == .appending)))
      | .error e => return .error (openingFault missing e)
    let emptied : Action (Except String Nat) := do
      match ← onDisk (Disk.change (·.write path ByteArray.empty)) with
      | .ok () => opened
      | .error e => return .error (openingFault missing e)
    match (← disk).resolve path with
    | .ok (_, .file _) =>
      match o with
      | .fresh => return .error OsError.alreadyExists.wording
      | .emptied => emptied
      | .kept | .appending => opened
    | _ => emptied

/-! ## Redirections -/

/-- A redirection with the text of its target. -/
structure Route where
  stream : Nat
  kind : Redirect
  target : String

/-- Makes a stream go to what has been opened, or reports why it has not. -/
def connectTo (stream : Nat) (verb target : String) (opened : Except String Nat) : Action Unit := do
  match opened with
  | .ok channel => connect stream channel
  | .error why => mistake ("cannot " ++ verb ++ " " ++ target ++ ": " ++ why)

/-- Makes a stream go where another one goes. -/
def join (stream : Nat) (target : String) : Action Unit := do
  match target.toList with
  | ['-'] => close stream
  | _ =>
    let other := (Text.digits? target.toList).getD 0
    match ← channelOf? other with
    | some channel => connect stream channel
    | none => mistake (target ++ ": Bad file descriptor")

/-- Follows a redirection. -/
def Route.apply (r : Route) : Action Unit := do
  let create (o : Opening) : Action Unit := do
    connectTo r.stream "create" r.target (← openToWrite "Directory nonexistent" o r.target)
  match r.kind with
  | .read => connectTo r.stream "open" r.target (← openToRead "No such file" r.target)
  | .write => create (if ← isSet 'C' then .fresh else .emptied)
  | .overwrite => create .emptied
  | .append => create .appending
  | .readWrite => create .kept
  | .likeInput | .likeOutput => join r.stream r.target
  | .document => do
    connect r.stream (← open_ (.pipe (Text.bytesOf r.target) 0 false none))

/-- A redirection with its target expanded. -/
def routeOf (outputOf : Command → Action Bytes) (r : Redirection) : Action Route := do
  let target ← textOf outputOf r.target
  match r.kind with
  | .likeInput | .likeOutput =>
    unless target == "-" || (target.length == 1 && target.toList.all Char.isDigit) do
      mistake "Syntax error: Bad fd number"
  | _ => pure ()
  return ⟨r.stream, r.kind, target⟩

/-- Runs a computation up to a mistake, and tells whether there is none. -/
def isFree (m : Action Unit) : Action Bool :=
  tryCatch (do m; return true) fun j =>
    match j with
    | .mistake => return false
    | j => throw j

/-- Runs a computation whose redirections do not last. -/
def withStreams {α : Type} (m : Action α) : Action α := do
  let before := (← environment).streams
  let restore : Action Unit := alter fun e => { e with streams := before }
  let a ← tryCatch m fun j => do
    restore
    throw j
  restore
  return a

end Buildwright.Shell
