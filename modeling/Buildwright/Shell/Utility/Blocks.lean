-- SUMMARY: Programs that copy files block by block and that cut them into several files.
import Buildwright.Shell.Utility.Files

/-!
# Blocks

Bytes are copied in blocks of a size, from a place in one file to a place in another one, and may change on
their way. Files are cut into pieces of as many lines or bytes, or into as many pieces.
-/
namespace Buildwright.Shell.Utility

open Shell.Action

/-! ## Sizes -/

/-- The pieces of at most `n` elements of a list, of which there are at most as many as the fuel says. -/
def slicesOf {α : Type} (n : Nat) : Nat → List α → List (List α)
  | 0, _ | _, [] => []
  | fuel + 1, as => as.take n :: slicesOf n fuel (as.drop n)

/-- A product of numbers with units. -/
def productOf? (s : String) : Option Nat :=
  (Text.pieces 'x' s).foldlM (fun n factor => do
    let factor ← if factor.toList.getLast? == some 'w' then
        (Text.digits? factor.toList.dropLast).map (2 * ·)
      else sizeOf? factor
    return n * factor) 1

/-- A quotient, rounded to the nearest number. -/
def nearestQuotient (n d : Nat) : Nat := (2 * n + d) / (2 * d)

/-- A number of bytes in the largest unit that it reaches. Small numbers have a decimal. -/
def roundedSize (base : Nat) (n : Nat) : List String → String
  | [] => toString n
  | [name] => toString n ++ " " ++ name
  | name :: next :: names =>
    if n < base then toString n ++ " " ++ name
    else scaled base n base (next :: names)
where
  /-- The number in the first of some units, which has as many bytes, or in a later one. -/
  scaled (base n unit : Nat) : List String → String
    | [] => toString n
    | name :: names =>
      let tenths := nearestQuotient (10 * n) unit
      let whole := nearestQuotient n unit
      if tenths < 100 then toString (tenths / 10) ++ "." ++ toString (tenths % 10) ++ " " ++ name
      else if whole < base || names.isEmpty then toString whole ++ " " ++ name
      else scaled base n (unit * base) names

/-- How many bytes have been copied. -/
def copiedText (n : Nat) : String :=
  let decimal := roundedSize 1000 n ["B", "kB", "MB", "GB", "TB"]
  let binary := roundedSize 1024 n ["B", "KiB", "MiB", "GiB", "TiB"]
  toString n ++ (if n == 1 then " byte" else " bytes") ++
    (if n < 1000 then ""
    else if n < 1024 then " (" ++ decimal ++ ")"
    else " (" ++ decimal ++ ", " ++ binary ++ ")") ++ " copied"

/-! ## Copies -/

/-- How blocks are copied: between which files, in which blocks, from which and to which block on and how
    many, what is changed, which numbers count bytes, and what is reported. -/
structure BlockCopy where
  input : Option String := none
  output : Option String := none
  inputSize : Nat := 512
  outputSize : Nat := 512
  skipped : Nat := 0
  sought : Nat := 0
  count : Option Nat := none
  changes : List String := []
  countsBytes : List String := []
  status : String := "all"

namespace BlockCopy

/-- The names of changes. -/
def changeNames : List String :=
  ["notrunc", "ucase", "lcase", "swab", "sync", "noerror", "fsync", "fdatasync", "nocreat", "excl"]

/-- What an argument says about copying, or what is wrong with it and whether help would be of use. -/
def give (g : BlockCopy) (argument : String) : Except (String × Bool) BlockCopy := do
  let cs := argument.toList
  let key := String.ofList (cs.takeWhile (· != '='))
  let value := String.ofList ((cs.dropWhile (· != '=')).drop 1)
  let number (least : Nat) : Except (String × Bool) Nat :=
    match productOf? value with
    | some n => if least ≤ n then .ok n else .error ("invalid number: " ++ quoted value, false)
    | none => .error ("invalid number: " ++ quoted value, false)
  let unknown : Except (String × Bool) BlockCopy := .error ("unrecognized operand " ++ quoted argument, true)
  if !cs.contains '=' then unknown
  else
    match key with
    | "if" => return { g with input := some value }
    | "of" => return { g with output := some value }
    | "bs" =>
      let n ← number 1
      return { g with inputSize := n, outputSize := n }
    | "ibs" => return { g with inputSize := ← number 1 }
    | "obs" => return { g with outputSize := ← number 1 }
    | "skip" | "iseek" => return { g with skipped := ← number 0 }
    | "seek" | "oseek" => return { g with sought := ← number 0 }
    | "count" => return { g with count := some (← number 0) }
    | "status" =>
      if ["none", "noxfer", "progress"].contains value then return { g with status := value }
      else .error ("invalid status level: " ++ quoted value, true)
    | "conv" =>
      let names := Text.pieces ',' value
      match names.find? fun n => !changeNames.contains n with
      | some bad => .error ("invalid conversion: " ++ quoted bad, true)
      | none => return { g with changes := g.changes ++ names }
    | "iflag" | "oflag" => return { g with countsBytes := g.countsBytes ++ Text.pieces ',' value }
    | _ => unknown

/-- A number of blocks in bytes, unless it counts bytes itself. -/
def inBytes (g : BlockCopy) (name : String) (size n : Nat) : Nat :=
  if g.countsBytes.contains name then n else size * n

/-- The bytes of pairs in the other order. -/
def swapPairs : List UInt8 → List UInt8
  | x :: y :: rest => y :: x :: swapPairs rest
  | rest => rest

/-- Changes what has been read. -/
def change (g : BlockCopy) (b : Bytes) : Bytes :=
  let cased (f : Char → Char) (b : Bytes) : Bytes := Text.bytesOf ((Text.bytewise b).map f)
  let b :=
    if g.changes.contains "sync" && b.size % g.inputSize != 0 then
      b ++ ⟨Array.replicate (g.inputSize - b.size % g.inputSize) 0⟩
    else b
  let b := if g.changes.contains "ucase" then cased Char.toUpper b else b
  let b := if g.changes.contains "lcase" then cased Char.toLower b else b
  if g.changes.contains "swab" then ⟨(swapPairs b.toList).toArray⟩ else b

/-- How many blocks of a size there are, full ones and one that is not. -/
def records (size n : Nat) : String :=
  toString (n / size) ++ "+" ++ (if n % size == 0 then "0" else "1")

/-- Writes what has been read to where it belongs. -/
def deliver (g : BlockCopy) (c : Call) (b : Bytes) : Action Nat := do
  match g.output with
  | none =>
    emit 1 b
    return 0
  | some p =>
    let place := g.inBytes "seek_bytes" g.outputSize g.sought
    let before := ((← disk).read (pathOf p)).toOption.getD ByteArray.empty
    let start := before.extract 0 place ++ ⟨Array.replicate (place - before.size) 0⟩
    let rest :=
      if g.changes.contains "notrunc" then before.extract (place + b.size) before.size else ByteArray.empty
    match device? p with
    | some _ => save c p .emptied b
    | none => attempt c ("failed to open " ++ quotedName p) (Disk.change (·.write (pathOf p) (start ++ b ++ rest)))

/-- Copies blocks. -/
def run (g : BlockCopy) (c : Call) : Action Nat := do
  match ← source (g.input.getD "-") with
  | .error why => c.fail ("failed to open " ++ quotedName (g.input.getD "standard input") ++ ": " ++ why)
  | .ok channel =>
    discard <| takeFrom channel (g.inBytes "skip_bytes" g.inputSize g.skipped)
    let read ←
      match g.count with
      | some n => takeFrom channel (g.inBytes "count_bytes" g.inputSize n)
      | none =>
        match ← drain channel with
        | .ok b => pure b
        | .error _ => pure ByteArray.empty
    let written := g.change read
    let status ← g.deliver c written
    if status == 0 then
      let report := records g.inputSize read.size ++ " records in\n" ++
        records g.outputSize written.size ++ " records out\n"
      unless g.status == "none" do complain report
      unless g.status == "none" || g.status == "noxfer" do
        complain (copiedText written.size ++ ", 0 s, Infinity B/s\n")
    return status

end BlockCopy

/-- Copies a file block by block. -/
def dd : Utility := fun c => do
  match c.arguments.foldlM BlockCopy.give {} with
  | .ok g => g.run c
  | .error (message, helps) => if helps then c.misused message else c.fail message

/-! ## Pieces -/

/-- How bytes are cut: into pieces of as many lines or bytes, of whole lines with at most as many bytes, or
    into as many pieces of equal size, of whole lines, or of lines in turn. -/
inductive Cutting where
  | lines (n : Nat)
  | bytes (n : Nat)
  | wholeLines (n : Nat)
  | equally (n : Nat)
  | equallyByLines (n : Nat)
  | inTurn (n : Nat)

namespace Cutting

/-- The lines of bytes with their ends. -/
def linesWithEnds (ending : Char) (cs : List Char) : List (List Char) :=
  let (pieces, ended) := piecesUpTo ending cs
  pieces.zipIdx.map fun (l, i) => if ended || i + 1 != pieces.length then l ++ [ending] else l

/-- The piece that a byte lies in when as many bytes are cut into `n` pieces. The first pieces are longer. -/
def pieceOf (size n i : Nat) : Nat :=
  let longer := size % n
  let length := size / n
  if i < longer * (length + 1) then i / (length + 1) else longer + (i - longer * (length + 1)) / length

/-- Whole lines in pieces of at most `n` bytes; a line that is longer is cut. The fuel bounds their
    number. -/
def packed (n : Nat) : Nat → List Char → List (List Char) → List (List Char)
  | 0, current, _ => [current]
  | _, current, [] => if current.isEmpty then [] else [current]
  | fuel + 1, current, l :: rest =>
    if current.length + l.length ≤ n then packed n fuel (current ++ l) rest
    else if current.isEmpty then l.take n :: packed n fuel [] (l.drop n :: rest)
    else current :: packed n fuel [] (l :: rest)

/-- The pieces of a text. -/
def pieces (ending : Char) (cs : List Char) : Cutting → List (List Char)
  | lines n =>
    let all := linesWithEnds ending cs
    (slicesOf n (all.length + 1) all).map List.flatten
  | bytes n => slicesOf n (cs.length + 1) cs
  | wholeLines n => packed n (2 * cs.length + 2) [] (linesWithEnds ending cs)
  | equally n =>
    let ends := cs.zipIdx.map fun (c, i) => (c, pieceOf cs.length n i)
    (List.range n).map fun k => (ends.filter (·.2 == k)).map (·.1)
  | equallyByLines n =>
    let (placed, _) := (linesWithEnds ending cs).foldl
      (fun (acc : List (List Char × Nat) × Nat) l => ((l, pieceOf cs.length n acc.2) :: acc.1, acc.2 + l.length))
      ([], 0)
    (List.range n).map fun k => ((placed.reverse.filter (·.2 == k)).map (·.1)).flatten
  | inTurn n =>
    let all := (linesWithEnds ending cs).zipIdx
    (List.range n).map fun k => ((all.filter (·.2 % n == k)).map (·.1)).flatten

end Cutting

/-- The digits of a number in as many places. -/
def digitsIn (alphabet : List Char) : Nat → Nat → List Char
  | 0, _ => []
  | places + 1, n =>
    digitsIn alphabet places (n / alphabet.length) ++ [(alphabet[n % alphabet.length]?).getD '?']

/-- The end of the name of a piece. Without a length of its own it grows, and its last first digit is kept to
    tell that it has. -/
def pieceEnding (alphabet : List Char) (length : Option Nat) (n : Nat) : Option (List Char) :=
  match length with
  | some places => if n < Nat.pow alphabet.length places then some (digitsIn alphabet places n) else none
  | none => grown 8 2 n
where
  /-- The digits in as many places or more. -/
  grown : Nat → Nat → Nat → Option (List Char)
    | 0, _, _ => none
    | fuel + 1, places, n =>
      let count := (alphabet.length - 1) * Nat.pow alphabet.length (places - 1)
      if n < count then some (digitsIn alphabet places n)
      else (grown fuel (places + 1) (n - count)).map ((alphabet.getLast?).toList ++ ·)

/-- How a file is cut, and which piece alone is written. -/
def cuttingOf (o : Options) : Except (String × Bool) (Cutting × Option Nat) := do
  let positive (what s : String) (n? : Option Nat) : Except (String × Bool) Nat :=
    match n? with
    | some (n + 1) => .ok (n + 1)
    | _ => .error ("invalid number of " ++ what ++ ": " ++ quoted s, false)
  match o.given.filter fun g => ["l", "b", "C", "n"].contains g.1 with
  | [] => return (.lines 1000, none)
  | [("l", s)] => return (.lines (← positive "lines" s (sizeOf? s)), none)
  | [("b", s)] => return (.bytes (← positive "bytes" s (sizeOf? s)), none)
  | [("C", s)] => return (.wholeLines (← positive "bytes" s (sizeOf? s)), none)
  | [(_, s)] =>
    let (make, parts) : (Nat → Cutting) × List String :=
      match Text.pieces '/' s with
      | "l" :: parts => (.equallyByLines, parts)
      | "r" :: parts => (.inTurn, parts)
      | parts => (.equally, parts)
    match parts with
    | [n] => return (make (← positive "chunks" s (number? n)), none)
    | [k, n] =>
      let n ← positive "chunks" s (number? n)
      let k ← positive "chunks" s (number? k)
      if k ≤ n then return (make n, some (k - 1)) else .error ("invalid chunk number: " ++ quoted s, false)
    | _ => .error ("invalid number of chunks: " ++ quoted s, false)
  | _ => .error ("cannot split in more than one way", true)

/-- Cuts a file into pieces and writes each to a file of its own. -/
def splitFile (c : Call) (o : Options) : Action Nat := do
  let length ←
    match (o.last? "a").map fun s => (s, number? s) with
    | none => pure none
    | some (_, some n) => pure (if n == 0 then none else some n)
    | some (s, none) => return ← c.fail ("invalid suffix length: " ++ quoted s)
  let ending ←
    match (o.last? "t").map fun s => (s, s.toList) with
    | none => pure '\n'
    | some (_, [ch]) => pure ch
    | some (_, ['\x5c', '0']) => pure '\x00'
    | some (_, []) => return ← c.fail "empty record separator"
    | some (s, _) => return ← c.fail ("multi-character separator " ++ quoted s)
  match cuttingOf o with
  | .error (message, helps) => if helps then c.misused message else c.fail message
  | .ok (cutting, only) =>
    match o.operands with
    | _ :: _ :: extra :: _ => c.misused ("extra operand " ++ quoted extra)
    | files =>
      let file := files.headD "-"
      let stem := (files.drop 1).headD "x"
      match ← read file with
      | .error why => c.fail ("cannot open " ++ quotedName file ++ " for reading: " ++ why)
      | .ok b =>
        let pieces := cutting.pieces ending (Text.bytewise b).toList
        match only with
        | some k =>
          emit 1 (Text.bytesOf (String.ofList ((pieces[k]?).getD [])))
          return 0
        | none =>
          let pieces := if o.has "e" then pieces.filter (!·.isEmpty) else pieces
          let alphabet := if o.has "d" then "0123456789".toList
            else if o.has "x" then "0123456789abcdef".toList
            else "abcdefghijklmnopqrstuvwxyz".toList
          let first := ((o.lastOf? ["d", "x"]).bind fun key => (o.last? key).bind number?).getD 0
          pieces.zipIdx.foldlM (fun status (piece, i) => do
            if status != 0 then return status
            match pieceEnding alphabet length (first + i) with
            | none => c.fail "output file suffixes exhausted"
            | some digits =>
              let name := stem ++ String.ofList digits ++ (o.last? "additional").getD ""
              if o.has "verbose" then say ("creating file " ++ quotedName name ++ "\n")
              save c name .emptied (Text.bytesOf (String.ofList piece))) 0

/-- The arguments with a number behind a dash as a number of lines. -/
def withLineNumber : List String → List String
  | [] => []
  | a :: rest =>
    match a.toList with
    | '-' :: d :: ds => if (d :: ds).all Char.isDigit then "-l" :: String.ofList (d :: ds) :: rest
      else a :: withLineNumber rest
    | _ => a :: withLineNumber rest

/-- Cuts a file into several ones. -/
def split : Utility := fun c =>
  withOptions
    [valued "a" ["suffix-length"], valued "additional" ["additional-suffix"], valued "b" ["bytes"],
      valued "C" ["line-bytes"], flag "d", ⟨"d", ["numeric-suffixes"], .maybe⟩, flag "x",
      ⟨"x", ["hex-suffixes"], .maybe⟩, flag "e" ["elide-empty-files"], valued "l" ["lines"],
      valued "n" ["number"], valued "t" ["separator"], flag "u" ["unbuffered"], flag "verbose" ["verbose"]]
    splitFile 1 { c with arguments := withLineNumber c.arguments }

end Buildwright.Shell.Utility
