-- SUMMARY: Decoding bytes as UTF-8, strictly or with replacement characters, and texts with one character for each byte.

/-!
# Bytes and UTF-8

`decode?` accepts valid UTF-8 only. `decodeLossy` accepts every sequence of bytes: each maximal
part of it that begins a character but does not finish one becomes one replacement character, and
so does each byte that cannot begin a character.

Programs that know nothing of encodings take a text for its bytes. A bytewise text has one character
for each byte, so that such a program works on texts and still sees single bytes.
-/
namespace Buildwright

/-- The contents of files and of output streams. -/
abbrev Bytes := ByteArray

/-- Bytes are equal when they are the same bytes in the same order. -/
instance Bytes.decidableEq : DecidableEq Bytes := fun a b =>
  decidable_of_iff (a.data = b.data) ⟨ByteArray.ext, congrArg ByteArray.data⟩

namespace Text

/-- The UTF-8 bytes of a text. -/
def encode (s : String) : Bytes :=
  s.toUTF8

/-- The text with the given UTF-8 bytes, if they are valid. -/
def decode? (bytes : Bytes) : Option String :=
  String.fromUTF8? bytes

/-- The character that stands for bytes that are not UTF-8. -/
def replacement : Char :=
  Char.ofNat 0xFFFD

/-- A character of which some bytes have been read: the code point so far, the number of bytes
    still owed, and the range in which the next of them lies. -/
structure Unfinished where
  code : Nat
  owed : Nat
  low : Nat
  high : Nat

/-- What a byte means between characters. -/
inductive Lead where
  /-- The byte is a character. -/
  | whole (c : Char)
  /-- The byte begins a character. -/
  | opens (u : Unfinished)
  /-- No character begins with the byte. -/
  | invalid

/-- What the byte `b` means between characters. -/
def lead (b : Nat) : Lead :=
  if b < 0x80 then .whole (Char.ofNat b)
  else if 0xC2 ≤ b ∧ b ≤ 0xDF then .opens ⟨b - 0xC0, 1, 0x80, 0xBF⟩
  else if b = 0xE0 then .opens ⟨0, 2, 0xA0, 0xBF⟩
  else if b = 0xED then .opens ⟨0xD, 2, 0x80, 0x9F⟩
  else if 0xE1 ≤ b ∧ b ≤ 0xEF then .opens ⟨b - 0xE0, 2, 0x80, 0xBF⟩
  else if b = 0xF0 then .opens ⟨0, 3, 0x90, 0xBF⟩
  else if 0xF1 ≤ b ∧ b ≤ 0xF3 then .opens ⟨b - 0xF0, 3, 0x80, 0xBF⟩
  else if b = 0xF4 then .opens ⟨4, 3, 0x80, 0x8F⟩
  else .invalid

/-- The characters that a byte gives between characters, and the character that it begins. -/
def Lead.effect : Lead → List Char × Option Unfinished
  | .whole c => ([c], none)
  | .opens u => ([], some u)
  | .invalid => ([replacement], none)

/-- One byte: the characters that it gives, and the character that is then unfinished. -/
def decodeByte (unfinished : Option Unfinished) (b : Nat) : List Char × Option Unfinished :=
  match unfinished with
  | none => (lead b).effect
  | some u =>
    if u.low ≤ b ∧ b ≤ u.high then
      let code := u.code * 64 + (b - 0x80)
      if u.owed = 1 then ([Char.ofNat code], none)
      else ([], some ⟨code, u.owed - 1, 0x80, 0xBF⟩)
    else
      let (given, next) := (lead b).effect
      (replacement :: given, next)

/-- The characters of bytes, after the beginning of an unfinished character. -/
def decodeFrom (unfinished : Option Unfinished) : List UInt8 → List Char
  | [] => if unfinished.isSome then [replacement] else []
  | b :: bs =>
    let (given, next) := decodeByte unfinished b.toNat
    given ++ decodeFrom next bs

/-- The text with the given UTF-8 bytes, with a replacement character for each maximal part of
    them that is not valid. -/
def decodeLossy (bytes : Bytes) : String :=
  String.ofList (decodeFrom none bytes.toList)

/-! ## Bytewise texts -/

/-- The bytewise text of bytes. -/
def bytewise (b : Bytes) : String :=
  String.ofList (b.toList.map fun x => Char.ofNat x.toNat)

/-- The bytes of a bytewise text. -/
def bytesOf (s : String) : Bytes :=
  s.foldl (fun b c => b.push (UInt8.ofNat c.toNat)) (ByteArray.emptyWithCapacity s.length)

/-- Whether all characters of a text are of one byte. -/
def isAscii (s : String) : Bool :=
  s.utf8ByteSize == s.length

/-- A text, bytewise. -/
def toBytewise (s : String) : String :=
  if isAscii s then s else bytewise (encode s)

/-- The text that a bytewise text is the encoding of. -/
def ofBytewise (s : String) : String :=
  if isAscii s then s else decodeLossy (bytesOf s)

end Text
end Buildwright
