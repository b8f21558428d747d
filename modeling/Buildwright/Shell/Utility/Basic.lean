-- SUMMARY: Programs of the system as functions: how they are called, what they read, how they complain, and how messages show texts and names.
import Buildwright.Shell.Streams

/-!
# Utilities

A utility is a program with arguments that reads the standard input and the disk, writes to its streams
and to the disk, and gives an exit code. Some utilities run other programs.

In a message, a text stands in quotes, and what could be taken for their end or cannot be printed is
escaped. A name is written so that a shell reads it as that name: in quotes always, or only if it needs
them.
-/
namespace Buildwright.Shell.Utility

/-! ## Escapes -/

/-- The letters that stand behind a backslash for control characters. -/
def controlLetters : List (Char × Char) :=
  [('\x07', 'a'), ('\x08', 'b'), ('\x0c', 'f'), ('\n', 'n'), ('\r', 'r'), ('\t', 't'), ('\x0b', 'v')]

/-- Whether a character of one byte can be printed. -/
def isPrintable (c : Char) : Bool := ' ' ≤ c && c ≤ '~'

/-- A character that cannot be printed as an escape: a letter, or three octal digits. -/
def escapeOf (c : Char) : List Char :=
  match controlLetters.lookup c with
  | some letter => ['\x5c', letter]
  | none =>
    let digit (n : Nat) : Char := Char.ofNat (48 + n % 8)
    ['\x5c', digit (c.toNat / 64), digit (c.toNat / 8), digit c.toNat]

/-! ## Texts -/

/-- A text between quotes, as it is. -/
def inQuotes (s : String) : String := "'" ++ s ++ "'"

/-- A text in quotes, with escapes. -/
def quoted (s : String) : String :=
  inQuotes (String.ofList (s.toList.flatMap fun c =>
    if c == '\x27' || c == '\x5c' then ['\x5c', c] else if isPrintable c then [c] else escapeOf c))

/-! ## Names -/

/-- Whether a character means the same between single and between double quotes. -/
def isPlainInQuotes (c : Char) : Bool :=
  c.isAlphanum || [' ', '%', '+', ',', '-', '.', '/', ':', ']', '_', '\x27'].contains c

/-- Characters between single quotes; `escapes` says whether those before them are escapes, which stand
    between quotes of their own. -/
def inSingleQuotes : Bool → List Char → List Char
  | _, [] => []
  | escapes, c :: cs =>
    if c == '\x27' then '\x27' :: '\x5c' :: '\x27' :: '\x27' :: inSingleQuotes false cs
    else if isPrintable c then (if escapes then ['\x27', '\x27'] else []) ++ c :: inSingleQuotes false cs
    else (if escapes then [] else ['\x27', '$', '\x27']) ++ escapeOf c ++ inSingleQuotes true cs

/-- A name in quotes, as a shell reads it. -/
def quotedName (s : String) : String :=
  if s.toList.contains '\x27' && s.toList.all isPlainInQuotes then "\x22" ++ s ++ "\x22"
  else inQuotes (String.ofList (inSingleQuotes false s.toList))

/-- Whether a shell, or the reader of a message, could take a character for something else. -/
def needsQuotes (c : Char) : Bool :=
  !isPrintable c ||
    [' ', '!', '\x22', '$', '&', '\x27', '(', ')', '*', ':', ';', '<', '=', '>', '?', '[', '\x5c', '^', '\x60',
      '|'].contains c

/-- A name, in quotes if it needs them. -/
def shownName (s : String) : String :=
  let isSpecial :=
    s.toList.any needsQuotes || ["", "\x7b", "\x7d"].contains s || s.toList.head? == some '#' ||
      s.toList.head? == some '~'
  if isSpecial then quotedName s else s

end Buildwright.Shell.Utility

namespace Buildwright.Shell

/-- How a program is called: by which name, with which arguments, and how it runs other programs, which
    may not be there. -/
structure Call where
  name : String
  arguments : List String
  run : List String → Action (Except OsError Nat)

/-- A program; the result is its exit code. -/
abbrev Utility := Call → Action Nat

namespace Call

open Shell.Action

/-- Reports something on the error stream. -/
def report (c : Call) (message : String) : Action Unit :=
  complain (c.name ++ ": " ++ message ++ "\n")

/-- Reports something and fails. -/
def fail (c : Call) (message : String) (status : Nat := 1) : Action Nat := do
  c.report message
  return status

/-- Says where help is to be found, and fails. -/
def hint (c : Call) (status : Nat) : Action Nat := do
  complain ("Try '" ++ c.name ++ " --help' for more information.\n")
  return status

/-- Reports a wrong use and fails. -/
def misused (c : Call) (message : String) (status : Nat := 1) : Action Nat := do
  c.report message
  c.hint status

end Call

namespace Utility

open Shell.Action

/-! ## Paths and reports -/

/-- The wording of a failure in the messages of utilities. -/
def wording : IoError → String
  | .system e => e.wording
  | e => e.message

/-- The last name of a path. -/
def lastName (p : String) : String :=
  let cs := (p.toList.reverse.dropWhile (· == '/'))
  if cs.isEmpty && p != "" then "/"
  else String.ofList (cs.takeWhile (· != '/')).reverse

/-- The path of the directory of a path. -/
def directoryOf (p : String) : String :=
  let cs := (p.toList.reverse.dropWhile (· == '/')).dropWhile (· != '/')
  match cs with
  | [] => if p.toList.head? == some '/' then "/" else "."
  | _ =>
    let cs := cs.dropWhile (· == '/')
    if cs.isEmpty then "/" else String.ofList cs.reverse

/-- A path below a directory. -/
def below (directory name : String) : String :=
  if Text.endsWith "/" directory then directory ++ name else directory ++ "/" ++ name

/-- Does something for each of some values and gives the greatest exit code. -/
def eachOf {α : Type} (values : List α) (f : α → Action Nat) : Action Nat :=
  values.foldlM (fun status a => return max status (← f a)) 0

/-! ## Reading -/

/-- The number of zeros that stand for a source of zeros without end. -/
def manyZeros : Nat := 262144

/-- What is left of a channel, or why it cannot be read. -/
def drain (channel : Nat) : Action (Except String Bytes) := do
  match (← get).channels[channel]? with
  | some .directory => return .error OsError.isADirectory.wording
  | some .zeros => return .ok ⟨Array.replicate manyZeros 0⟩
  | _ => return .ok (← takeAllFrom channel)

/-- What is left of a stream, or why it cannot be read. -/
def drainStream (n : Nat) : Action (Except String Bytes) := do
  match ← channelOf? n with
  | some channel => drain channel
  | none => return .error "Bad file descriptor"

/-- The channel to read a file from, or why it cannot be opened; `-` is the standard input. -/
def source (p : String) : Action (Except String Nat) := do
  if p == "-" then
    match ← channelOf? 0 with
    | some channel => return .ok channel
    | none => return .error "Bad file descriptor"
  match device? p with
  | some d => openDevice d
  | none =>
    match (← disk).resolve (pathOf p) with
    | .ok (place, .file _) => return .ok (← open_ (.file place 0 false))
    | .ok _ => return .ok (← open_ .directory)
    | .error e => return .error (wording e)

/-- The content of a file, or why it cannot be read; `-` is the standard input. -/
def read (p : String) : Action (Except String Bytes) := do
  match ← source p with
  | .ok channel => drain channel
  | .error why => return .error why

/-- The content of a file; that it cannot be read is reported. -/
def content? (c : Call) (p : String) : Action (Option Bytes) := do
  match ← read p with
  | .ok b => return some b
  | .error why =>
    c.report (shownName p ++ ": " ++ why)
    return none

/-- The contents of files one after the other, or the standard input if none is named, and an exit
    code. -/
def contents (c : Call) (files : List String) (failed : Nat := 1) : Action (Bytes × Nat) := do
  let files := if files.isEmpty then ["-"] else files
  files.foldlM (fun (b, status) p => do
    match ← content? c p with
    | some new => return (b ++ new, status)
    | none => return (b, failed)) (ByteArray.empty, 0)

/-- The number of bytes that programs read and write at once. -/
def blockSize : Nat := 4096

/-- The number of bytes up to the end of a block. -/
def untilBlock (n : Nat) : Nat := (n + blockSize - 1) / blockSize * blockSize

/-- Moves the standard input of a program that stops to where it has been read, as far as that can be
    known. -/
def releaseInput (channel : Nat) : Action Unit := do
  match (← get).channels[channel]? with
  | some (.pipe content taken _ _) => moveTo channel (min content.size (untilBlock taken)) false
  | _ => pure ()

/-- Asks whether something is to be done, and reads a line with the answer: one that begins with a `y`
    agrees. -/
def agrees (c : Call) (question : String) : Action Bool := do
  complain (c.name ++ ": " ++ question ++ "? ")
  match ← channelOf? 0 with
  | none => return false
  | some channel =>
    match ← takeLineFrom channel with
    | some (reply, _) => return reply[0]?.any fun b => b == 0x79 || b == 0x59
    | none => return false

/-! ## Lines -/

/-- The pieces of characters that end with a certain one, the last of which may lack it, and whether it
    has it. -/
def piecesUpTo (ending : Char) (cs : List Char) : List (List Char) × Bool :=
  let (current, done) := cs.foldr (fun c (acc : List Char × List (List Char)) =>
    if c == ending then ([], acc.1 :: acc.2) else (c :: acc.1, acc.2)) ([], [])
  match (current :: done).reverse with
  | [] :: rest => (rest.reverse, true)
  | all => (all.reverse, all == [])

/-- The lines of bytes without their ends, and whether the last one has an end. -/
def linesOf (b : Bytes) : List String × Bool :=
  let (pieces, ended) := piecesUpTo '\n' (Text.bytewise b).toList
  (pieces.map String.ofList, ended)

/-- Lines with their ends. -/
def ended (lines : List String) : String :=
  String.join (lines.map (· ++ "\n"))

/-- Writes lines, each with its end. -/
def sayLines (lines : List String) : Action Unit :=
  say (ended lines)

/-- Writes lines with their ends, except for that of the last one if `ended` does not hold. -/
def sayLinesAs (lines : List String) (ended : Bool) : Action Unit := do
  say (Text.joined "\n" lines)
  if ended && !lines.isEmpty then say "\n"

/-! ## Writing -/

/-- Runs a computation on the disk and reports its failure behind `what`. -/
def attempt (c : Call) (what : String) (m : DiskM Unit) : Action Nat := do
  match ← onDisk m with
  | .ok () => return 0
  | .error e => c.fail (what ++ ": " ++ wording e)

/-- Writes a file, and reports its failure, behind `what`. -/
def save (c : Call) (p : String) (o : Opening) (b : Bytes) (what : String := "") : Action Nat := do
  let opened ←
    match device? p with
    | some d => openDevice d
    | none =>
      match (← disk).resolve (pathOf p), o with
      | .ok (place, .file _), .appending => pure (.ok (← open_ (.file place 0 true)))
      | _, _ =>
        match ← onDisk (Disk.change (·.write (pathOf p) ByteArray.empty)) with
        | .error e => pure (.error (wording e))
        | .ok () =>
          match (← disk).resolve (pathOf p) with
          | .ok (place, _) => pure (.ok (← open_ (.file place 0 false)))
          | .error e => pure (.error (wording e))
  match opened with
  | .ok channel =>
    emitTo channel b
    return 0
  | .error why => c.fail (what ++ shownName p ++ ": " ++ why)

end Utility
end Buildwright.Shell
