-- SUMMARY: Bytes written with the characters of an alphabet of 64 or 32.
import Buildwright.Text.Utf8

/-!
# Bytes in an alphabet

The bits of bytes are cut into digits of six or five bits, each of which has a character. The last group of
characters is filled up.
-/
namespace Buildwright.Text

/-- An alphabet: its characters, the bits of one, and the characters of a group. -/
structure Alphabet where
  chars : List Char
  bits : Nat
  group : Nat

namespace Alphabet

/-- The letters and digits. -/
def letters : List Char := "ABCDEFGHIJKLMNOPQRSTUVWXYZ".toList

/-- The alphabet of 64 characters. -/
def base64 : Alphabet :=
  ⟨letters ++ letters.map Char.toLower ++ "0123456789+/".toList, 6, 4⟩

/-- The alphabet of 32 characters. -/
def base32 : Alphabet := ⟨letters ++ "234567".toList, 5, 8⟩

/-- The character that fills up a group. -/
def filler : Char := '='

/-- The bytes that a group stands for. -/
def bytesOfGroup (a : Alphabet) : Nat := a.bits * a.group / 8

/-- The character of a digit. -/
def charOf (a : Alphabet) (n : Nat) : Char := (a.chars[n]?).getD filler

/-- The characters for at most the bytes of a group. -/
def encodeGroup (a : Alphabet) (bs : List UInt8) : List Char :=
  let size := a.bytesOfGroup
  let padded := bs ++ List.replicate (size - bs.length) (0 : UInt8)
  let value := padded.foldl (fun (n : Nat) (x : UInt8) => 256 * n + x.toNat) 0
  let used := (8 * bs.length + a.bits - 1) / a.bits
  let digit (i : Nat) : Char := a.charOf (value / Nat.pow 2 (a.bits * (a.group - 1 - i)) % Nat.pow 2 a.bits)
  (List.range used).map digit ++ List.replicate (a.group - used) filler

/-- The characters for bytes in at most `n` groups. -/
def encodeFrom (a : Alphabet) : Nat → List UInt8 → List Char
  | 0, _ | _, [] => []
  | n + 1, bs => a.encodeGroup (bs.take a.bytesOfGroup) ++ encodeFrom a n (bs.drop a.bytesOfGroup)

/-- The characters for bytes. -/
def encode (a : Alphabet) (b : Bytes) : String :=
  String.ofList (a.encodeFrom (b.size + 1) b.toList)

/-- The bytes of a group, and whether the group is right. -/
def decodeGroup (a : Alphabet) (cs : List Char) : List UInt8 × Bool :=
  let digits := (cs.takeWhile a.chars.contains).filterMap fun c => a.chars.idxOf? c
  let rest := cs.drop digits.length
  let count := a.bits * digits.length / 8
  let value := digits.foldl (fun (n d : Nat) => Nat.pow 2 a.bits * n + d) 0 *
    Nat.pow 2 (a.bits * (a.group - digits.length))
  let bytes := (List.range a.bytesOfGroup).map fun i =>
    UInt8.ofNat (value / Nat.pow 256 (a.bytesOfGroup - 1 - i) % 256)
  let needed := (8 * count + a.bits - 1) / a.bits
  let isRight := cs.length == a.group && rest.all (· == filler) && count != 0 && needed == digits.length
  (bytes.take count, isRight)

/-- The bytes of characters in at most `n` groups, and whether all is right; what follows a wrong group does
    not count. -/
def decodeFrom (a : Alphabet) : Nat → List Char → List UInt8 × Bool
  | 0, _ | _, [] => ([], true)
  | n + 1, cs =>
    let (bytes, isRight) := a.decodeGroup (cs.take a.group)
    if isRight then
      let (more, isRight) := decodeFrom a n (cs.drop a.group)
      (bytes ++ more, isRight)
    else (bytes, false)

/-- The bytes of characters, and whether all is right. -/
def decode (a : Alphabet) (cs : List Char) : List UInt8 × Bool :=
  a.decodeFrom (cs.length + 1) cs

end Alphabet

end Buildwright.Text
