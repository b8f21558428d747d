-- SUMMARY: A program that writes the bytes of files as numbers and as characters, block by block.
import Buildwright.Shell.Utility.Files
import Buildwright.Shell.Utility.Listing

/-!
# Dumps

A dump shows the bytes of files in blocks. Each block has a line for every form of its fields, and the first
of these lines begins with the address of the block. The fields of all forms fill the same width.
-/
namespace Buildwright.Shell.Utility

open Shell.Action

/-! ## Fields -/

/-- A form of fields: how many bytes a field has and how many characters it takes, how its value is written,
    and whether the characters of the block stand in the margin. -/
structure FieldForm where
  size : Nat
  width : Nat
  text : Nat → String
  hasMargin : Bool := false

namespace FieldForm

/-- The digits of a number, filled up with zeros. -/
def digits (radix width n : Nat) : String :=
  let ds := Nat.toDigits radix n
  String.ofList (List.replicate (width - ds.length) '0' ++ ds)

/-- The number of values that some bytes have. -/
def valueCount (size : Nat) : Nat := Nat.pow 256 size

/-- Octal and hexadecimal numbers. -/
def octal (size : Nat) : FieldForm :=
  let width := (8 * size + 2) / 3
  { size, width, text := digits 8 width }
@[inherit_doc octal] def hexadecimal (size : Nat) : FieldForm :=
  { size, width := 2 * size, text := digits 16 (2 * size) }

/-- Decimal numbers. -/
def unsigned (size : Nat) : FieldForm :=
  { size, width := (toString (valueCount size - 1)).length, text := toString }

/-- Decimal numbers with a sign, which are negative in their upper half. -/
def signed (size : Nat) : FieldForm :=
  let half := valueCount size / 2
  { size, width := (toString half).length + 1
    text := fun n => toString (if n < half then (n : Int) else (n : Int) - valueCount size) }

/-- Characters, with escapes for some of those that cannot be seen and octal numbers for the others. -/
def characters : FieldForm where
  size := 1
  width := 3
  text n :=
    match n with
    | 0 => "\x5c0" | 7 => "\x5ca" | 8 => "\x5cb" | 9 => "\x5ct" | 10 => "\x5cn" | 11 => "\x5cv"
    | 12 => "\x5cf" | 13 => "\x5cr"
    | _ => if 32 ≤ n && n < 127 then String.singleton (Char.ofNat n) else digits 8 3 n

/-- The names of the characters that cannot be seen, and of the blank. -/
def controlNames : List String :=
  ["nul", "soh", "stx", "etx", "eot", "enq", "ack", "bel", "bs", "ht", "nl", "vt", "ff", "cr", "so", "si",
    "dle", "dc1", "dc2", "dc3", "dc4", "nak", "syn", "etb", "can", "em", "sub", "esc", "fs", "gs", "rs",
    "us", "sp"]

/-- Characters of seven bits with their names. -/
def names : FieldForm where
  size := 1
  width := 3
  text n :=
    let n := n % 128
    if n == 127 then "del" else (controlNames[n]?).getD (String.singleton (Char.ofNat n))

/-- The forms that a letter of an option stands for. -/
def ofLetter : String → Option FieldForm
  | "a" => some names
  | "b" => some (octal 1)
  | "c" => some characters
  | "d" => some (unsigned 2)
  | "D" => some (unsigned 4)
  | "h" | "x" => some (hexadecimal 2)
  | "H" | "X" => some (hexadecimal 4)
  | "i" => some (signed 4)
  | "I" | "l" | "L" => some (signed 8)
  | "o" | "B" => some (octal 2)
  | "O" => some (octal 4)
  | "s" => some (signed 2)
  | _ => none

/-- A size that follows the letter of a number, and what follows the size. -/
def leadingSize (cs : List Char) : Nat × List Char :=
  match cs with
  | 'C' :: rest => (1, rest)
  | 'S' :: rest => (2, rest)
  | 'I' :: rest => (4, rest)
  | 'L' :: rest => (8, rest)
  | _ => (Text.leadingDigits? 10 cs).getD (4, cs)

/-- The forms that a text names. -/
def ofText (whole : String) : Nat → List Char → Except String (List FieldForm)
  | 0, _ | _, [] => .ok []
  | n + 1, c :: cs => do
    let sized (make : Nat → FieldForm) : Except String (FieldForm × List Char) :=
      let (size, rest) := leadingSize cs
      if [1, 2, 4, 8].contains size then .ok (make size, rest)
      else .error ("invalid type string " ++ quoted whole ++ ";\nthis system doesn't provide a " ++
        toString size ++ "-byte integral type")
    let (form, rest) ←
      match c with
      | 'a' => .ok (names, cs)
      | 'c' => .ok (characters, cs)
      | 'd' => sized signed
      | 'o' => sized octal
      | 'u' => sized unsigned
      | 'x' => sized hexadecimal
      | _ => .error ("invalid character " ++ quoted (String.singleton c) ++ " in type string " ++ quoted whole)
    let (form, rest) :=
      match rest with
      | 'z' :: rest => ({ form with hasMargin := true }, rest)
      | _ => (form, rest)
    return form :: (← ofText whole n rest)

end FieldForm

/-! ## Blocks -/

/-- How a dump is laid out: the forms of its fields, the bytes of a block, whether the first byte of a field
    counts most, how addresses are written, and whether equal blocks are all shown. -/
structure DumpLayout where
  forms : List FieldForm
  size : Nat
  isBigEndian : Bool
  address : Nat → String
  showsAll : Bool

namespace DumpLayout

/-- The number of characters that the fields of a block take. -/
def width (l : DumpLayout) : Nat :=
  l.forms.foldl (fun n f => max n ((f.width + 1) * (l.size / f.size))) 0

/-- The value of the bytes of a field. -/
def value (l : DumpLayout) (bs : List UInt8) : Nat :=
  (if l.isBigEndian then bs else bs.reverse).foldl (fun (n : Nat) (x : UInt8) => 256 * n + x.toNat) 0

/-- The fields of a block in a form. The blanks that fill up the width are spread over the fields. -/
def fields (l : DumpLayout) (f : FieldForm) (bs : List UInt8) : String :=
  let count := l.size / f.size
  let used := (bs.length + f.size - 1) / f.size
  let blanks := l.width - count * f.width
  let blanksFrom (k : Nat) : Nat := blanks * (count - k) / count
  let shown := (List.range used).map fun k =>
    let field := (bs.drop (k * f.size)).take f.size
    let field := field ++ List.replicate (f.size - field.length) 0
    padLeft (blanksFrom k - blanksFrom (k + 1) + f.width) (f.text (l.value field))
  let margin :=
    if f.hasMargin then
      let missing := count - used
      String.ofList (List.replicate (missing * f.width + blanksFrom used) ' ' ++ "  >".toList ++
        bs.map (fun x => if 32 ≤ x.toNat && x.toNat < 127 then Char.ofNat x.toNat else '.') ++ ['<'])
    else ""
  String.join shown ++ margin ++ "\n"

/-- The lines of a block that begins at an address. -/
def block (l : DumpLayout) (start : Nat) (bs : List UInt8) : String :=
  let address := l.address start
  let indent := String.ofList (List.replicate address.length ' ')
  String.join (l.forms.zipIdx.map fun (f, i) => (if i == 0 then address else indent) ++ l.fields f bs)

/-- The lines of at most `n` blocks, of which the first begins at an address, behind a block. Blocks that are
    equal to the one in front of them are shown by a mark. -/
def blocks (l : DumpLayout) : Nat → Nat → Option (List UInt8) → Bool → List UInt8 → List String
  | 0, _, _, _, _ | _, _, _, _, [] => []
  | n + 1, start, before, isMarked, bs =>
    let now := bs.take l.size
    let rest := bs.drop l.size
    if !l.showsAll && now.length == l.size && before == some now then
      (if isMarked then [] else ["*\n"]) ++ blocks l n (start + l.size) before true rest
    else l.block start now :: blocks l n (start + now.length) (some now) false rest

end DumpLayout

/-! ## The program -/

/-- A number of bytes, of which the first digit may tell its radix, with a unit. -/
def byteCount? (s : String) : Option Nat := do
  let (n, rest) ← Text.leadingNatural? s.toList
  let factor ← sizeOf? ("1" ++ String.ofList rest)
  return n * factor

/-- How an address is written, for the letter of a radix. -/
def addressOf : Option String → Except String (Nat → String)
  | none => .ok (FieldForm.digits 8 7)
  | some s =>
    match s.toList with
    | 'o' :: _ => .ok (FieldForm.digits 8 7)
    | 'd' :: _ => .ok (FieldForm.digits 10 7)
    | 'x' :: _ => .ok (FieldForm.digits 16 6)
    | 'n' :: _ => .ok fun _ => ""
    | cs => .error ("invalid output address radix " ++ quoted (String.ofList (cs.take 1)) ++
        "; it must be one character from [doxn]")

/-- The forms that options ask for. -/
def formsOf (o : Options) : Except String (List FieldForm) := do
  let forms ← o.given.mapM fun (key, value) =>
    if key == "t" then FieldForm.ofText value (value.length + 1) value.toList
    else .ok (FieldForm.ofLetter key).toList
  return if forms.flatten.isEmpty then [.octal 2] else forms.flatten

/-- What a number that an option has must be. -/
def countOption (o : Options) (key : String) : Except String (Option Nat) :=
  match o.last? key with
  | none => .ok none
  | some s =>
    match byteCount? s with
    | some n => .ok (some n)
    | none => .error ("invalid -" ++ key ++ " argument " ++ quoted s)

/-- The options of a dump. -/
def dumpForms : List Form :=
  [valued "A" ["address-radix"], valued "j" ["skip-bytes"], valued "N" ["read-bytes"],
    valued "t" ["format"], flag "v" ["output-duplicates"], ⟨"w", ["width"], .maybe⟩,
    valued "endian" ["endian"], flag "traditional" ["traditional"]] ++
  ["a", "b", "c", "d", "D", "h", "H", "i", "I", "l", "L", "o", "B", "O", "s", "x", "X"].map (flag ·)

/-- The least number that is a multiple of the sizes of all forms. -/
def blockUnit (forms : List FieldForm) : Nat :=
  forms.foldl (fun n f => Nat.lcm n f.size) 1

/-- Writes a dump of files. -/
def dump (c : Call) (o : Options) : Action Nat := do
  let prepared : Except String ((Nat → String) × Option Nat × Option Nat × List FieldForm) := do
    let address ← addressOf (o.last? "A")
    let skipped ← countOption o "j"
    let limit ← countOption o "N"
    return (address, skipped, limit, ← formsOf o)
  match prepared with
  | .error why => c.fail why
  | .ok (address, skipped, limit, forms) =>
    let unit := blockUnit forms
    let size ←
      match o.last? "w" with
      | none => pure (16 / unit * unit)
      | some w =>
        let wanted := if w == "" then 32 else (byteCount? w).getD 0
        if wanted == 0 || wanted % unit != 0 then
          c.report ("warning: invalid width " ++ toString wanted ++ "; using " ++ toString unit ++ " instead")
          pure unit
        else pure wanted
    let layout : DumpLayout :=
      { forms, size, address, isBigEndian := o.last? "endian" == some "big", showsAll := o.has "v" }
    let (b, status) ← contents c o.operands
    let start := skipped.getD 0
    if status != 0 && b.isEmpty then return status
    else if start > b.size then c.fail "cannot skip past end of combined input"
    else
      let stop := min b.size (start + limit.getD b.size)
      let bs := (b.extract start stop).toList
      say (String.join (layout.blocks (bs.length + 1) start none false bs))
      let last := address (start + bs.length)
      if last != "" then say (last ++ "\n")
      return status

/-- Writes the bytes of files as numbers and characters. -/
def od : Utility := withOptions dumpForms dump

end Buildwright.Shell.Utility
