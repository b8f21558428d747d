-- SUMMARY: Digests of bytes: checksums, MD5, the SHA family and BLAKE2b.
import Buildwright.Text.Utf8

/-!
# Digests

What shows whether bytes have changed: sums over all of them, and digests that are taken from them block by
block.
-/

/-!
## Blocks of words

A digest is taken from bytes block by block. The last block is filled up with a mark, zeros, and the length
of the bytes.
-/
namespace Buildwright.Shell.Digest

/-- The last bytes of a number, the least significant first. -/
def littleBytes : Nat → Nat → List UInt8
  | 0, _ => []
  | count + 1, n => UInt8.ofNat (n % 256) :: littleBytes count (n / 256)

/-- The last bytes of a number, the most significant first. -/
def bigBytes (count n : Nat) : List UInt8 := (littleBytes count n).reverse

/-- Bytes from a list. -/
def ofList (bs : List UInt8) : Bytes := ⟨bs.toArray⟩

/-- Bytes filled up to whole blocks; their length in bits stands in the last bytes. -/
def padded (block lengthSize : Nat) (bytesOf : Nat → Nat → List UInt8) (b : Bytes) : Bytes :=
  let used := (b.size + 1 + lengthSize) % block
  let zeros := (block - used) % block
  b ++ ofList (0x80 :: List.replicate zeros 0 ++ bytesOf lengthSize (8 * b.size))

/-- The word of a number of bytes at a place, the most significant byte first. -/
def bigWord (b : Bytes) (size place : Nat) : UInt64 :=
  size.fold (fun i _ w => (w <<< 8) ||| (b.get! (place + i)).toUInt64) 0

/-- The word of a number of bytes at a place, the least significant byte first. -/
def littleWord (b : Bytes) (size place : Nat) : UInt64 :=
  size.fold (fun i _ w => (w <<< 8) ||| (b.get! (place + (size - 1 - i))).toUInt64) 0

/-- The word at a place, or zero. -/
def at_ (ws : Array UInt64) (i : Nat) : UInt64 := (ws[i]?).getD 0

/-! ### Words of fewer bits -/

/-- The last bits of a word. -/
def lastBits (bits : Nat) (w : UInt64) : UInt64 :=
  if bits == 32 then w &&& 0xffffffff else w

/-- A word turned to the right. -/
def turned (bits : Nat) (w : UInt64) (n : Nat) : UInt64 :=
  lastBits bits ((w >>> UInt64.ofNat n) ||| (w <<< UInt64.ofNat (bits - n)))

/-- A word turned to the left. -/
def turnedLeft (bits : Nat) (w : UInt64) (n : Nat) : UInt64 := turned bits w (bits - n)

/-- The bits that a word of some bits does not have. -/
def inverted (bits : Nat) (w : UInt64) : UInt64 := lastBits bits (w ^^^ 0xffffffffffffffff)

/-- The sum of two words. -/
def plus (bits : Nat) (a b : UInt64) : UInt64 := lastBits bits (a + b)

/-! ### Digests -/

/-- The words after all blocks, from the first ones on. -/
def overBlocks (block : Nat) (b : Bytes) (first : Array UInt64)
    (step : Array UInt64 → Nat → Array UInt64) : Array UInt64 :=
  (b.size / block).fold (fun i _ ws => step ws (block * i)) first

/-- The sums of the words before and after a block. -/
def added (bits : Nat) (before after : Array UInt64) : Array UInt64 :=
  before.zipWith (plus bits) after

/-- The digits of bytes in base sixteen. -/
def hex (b : List UInt8) : String :=
  String.join (b.map fun x => String.ofList ((Nat.toDigits 16 (256 + x.toNat)).drop 1))

end Buildwright.Shell.Digest

/-!
## Checksums

A remainder of polynomials over the bytes and their number, and two sums of 16 bits.
-/
namespace Buildwright.Shell.Digest.Checksum

/-- The polynomial that divides. -/
def polynomial : UInt32 := 0x04c11db7

/-- A remainder after one more bit. -/
def afterBit (r : UInt32) : UInt32 :=
  if r &&& 0x80000000 != 0 then (r <<< 1) ^^^ polynomial else r <<< 1

/-- A remainder after one more byte. -/
def afterByte (r : UInt32) (x : UInt8) : UInt32 :=
  Nat.fold 8 (fun _ _ r => afterBit r) (r ^^^ (x.toUInt32 <<< 24))

/-- The bytes of a number, the least significant first and without zeros behind the most significant. -/
def lengthBytes : Nat → Nat → List UInt8
  | 0, _ | _, 0 => []
  | count + 1, n => UInt8.ofNat (n % 256) :: lengthBytes count (n / 256)

/-- The remainder of bytes and their number. -/
def remainder (b : Bytes) : Nat :=
  let r := b.foldl afterByte 0
  ((lengthBytes 16 b.size).foldl afterByte r ^^^ 0xffffffff).toNat

/-- The sum of bytes that is turned to the right before each of them. -/
def turning (b : Bytes) : Nat :=
  (b.foldl (fun (s : UInt16) x => ((s >>> 1) ||| (s <<< 15)) + x.toUInt16) 0).toNat

/-- The sum of bytes, of which what exceeds 16 bits is added. -/
def folding (b : Bytes) : Nat :=
  let s := b.foldl (fun s x => s + x.toNat) 0
  let r := s % 65536 + s % 4294967296 / 65536
  r % 65536 + r / 65536

end Buildwright.Shell.Digest.Checksum

/-!
## MD5

Four words of 32 bits go through sixty-four steps for each block of 64 bytes.
-/
namespace Buildwright.Shell.Digest.Md5

/-- The words that the steps add: the first 32 bits of the sines of one to sixty-four. -/
def additions : Array UInt64 :=
  #[0xd76aa478, 0xe8c7b756, 0x242070db, 0xc1bdceee, 0xf57c0faf, 0x4787c62a,
    0xa8304613, 0xfd469501, 0x698098d8, 0x8b44f7af, 0xffff5bb1, 0x895cd7be,
    0x6b901122, 0xfd987193, 0xa679438e, 0x49b40821, 0xf61e2562, 0xc040b340,
    0x265e5a51, 0xe9b6c7aa, 0xd62f105d, 0x02441453, 0xd8a1e681, 0xe7d3fbc8,
    0x21e1cde6, 0xc33707d6, 0xf4d50d87, 0x455a14ed, 0xa9e3e905, 0xfcefa3f8,
    0x676f02d9, 0x8d2a4c8a, 0xfffa3942, 0x8771f681, 0x6d9d6122, 0xfde5380c,
    0xa4beea44, 0x4bdecfa9, 0xf6bb4b60, 0xbebfbc70, 0x289b7ec6, 0xeaa127fa,
    0xd4ef3085, 0x04881d05, 0xd9d4d039, 0xe6db99e5, 0x1fa27cf8, 0xc4ac5665,
    0xf4292244, 0x432aff97, 0xab9423a7, 0xfc93a039, 0x655b59c3, 0x8f0ccc92,
    0xffeff47d, 0x85845dd1, 0x6fa87e4f, 0xfe2ce6e0, 0xa3014314, 0x4e0811a1,
    0xf7537e82, 0xbd3af235, 0x2ad7d2bb, 0xeb86d391]

/-- How far the steps of the four rounds turn. -/
def turns : Array Nat := #[7, 12, 17, 22, 5, 9, 14, 20, 4, 11, 16, 23, 6, 10, 15, 21]

/-- The words at the beginning. -/
def first : Array UInt64 := #[0x67452301, 0xefcdab89, 0x98badcfe, 0x10325476]

/-- A step with the block at a place. -/
def step (b : Bytes) (place i : Nat) (ws : Array UInt64) : Array UInt64 :=
  let (a, x, y, z) := (at_ ws 0, at_ ws 1, at_ ws 2, at_ ws 3)
  let (mixed, word) : UInt64 × Nat :=
    match i / 16 with
    | 0 => ((x &&& y) ||| (inverted 32 x &&& z), i)
    | 1 => ((z &&& x) ||| (inverted 32 z &&& y), (5 * i + 1) % 16)
    | 2 => (x ^^^ y ^^^ z, (3 * i + 5) % 16)
    | _ => (y ^^^ (x ||| inverted 32 z), 7 * i % 16)
  let sum := lastBits 32 (a + mixed + at_ additions i + littleWord b 4 (place + 4 * word))
  let turn := (turns[4 * (i / 16) + i % 4]?).getD 0
  #[z, plus 32 x (turnedLeft 32 sum turn), x, y]

/-- The digest of bytes. -/
def digest (b : Bytes) : List UInt8 :=
  let b := padded 64 8 littleBytes b
  let ws := overBlocks 64 b first fun ws place =>
    added 32 ws (Nat.fold 64 (fun i _ ws => step b place i ws) ws)
  ws.toList.flatMap fun w => littleBytes 4 w.toNat

end Buildwright.Shell.Digest.Md5

/-!
## Secure hashes

The first one has five words of 32 bits. The later ones have eight words of 32 or 64 bits, and their
constants are the first bits of the fractions of roots of primes.
-/
namespace Buildwright.Shell.Digest.Sha

/-! ### The first one -/

/-- The words at the beginning. -/
def firstOfOne : Array UInt64 := #[0x67452301, 0xefcdab89, 0x98badcfe, 0x10325476, 0xc3d2e1f0]

/-- The words of a block, and those that follow from them. -/
def scheduleOfOne (b : Bytes) (place : Nat) : Array UInt64 :=
  Nat.fold 80 (fun i _ ws =>
    ws.push (if i < 16 then bigWord b 4 (place + 4 * i)
      else
        let w := at_ ws (i - 3) ^^^ at_ ws (i - 8) ^^^ at_ ws (i - 14) ^^^ at_ ws (i - 16)
        turnedLeft 32 w 1)) #[]

/-- A step with a word. -/
def stepOfOne (i : Nat) (word : UInt64) (ws : Array UInt64) : Array UInt64 :=
  let (a, x, y, z, e) := (at_ ws 0, at_ ws 1, at_ ws 2, at_ ws 3, at_ ws 4)
  let (mixed, constant) : UInt64 × UInt64 :=
    match i / 20 with
    | 0 => ((x &&& y) ||| (inverted 32 x &&& z), 0x5a827999)
    | 1 => (x ^^^ y ^^^ z, 0x6ed9eba1)
    | 2 => ((x &&& y) ||| (x &&& z) ||| (y &&& z), 0x8f1bbcdc)
    | _ => (x ^^^ y ^^^ z, 0xca62c1d6)
  #[lastBits 32 (turnedLeft 32 a 5 + mixed + e + constant + word), a, turnedLeft 32 x 30, y, z]

/-- The digest of bytes in 160 bits. -/
def digestOfOne (b : Bytes) : List UInt8 :=
  let b := padded 64 8 bigBytes b
  let ws := overBlocks 64 b firstOfOne fun ws place =>
    let words := scheduleOfOne b place
    added 32 ws (Nat.fold 80 (fun i _ ws => stepOfOne i (at_ words i) ws) ws)
  ws.toList.flatMap fun w => bigBytes 4 w.toNat

/-! ### Constants -/

/-- The first eighty primes. -/
def primes : List Nat :=
  ((List.range 410).filter fun n => 2 ≤ n && (List.range n).all fun d => d < 2 || n % d != 0).take 80

/-- The greatest number of at most `bits` bits of which a power is at most a number. -/
def root (power n : Nat) (bits : Nat) : Nat :=
  (List.range bits).reverse.foldl (fun r i =>
    let r' := r + Nat.pow 2 i
    if Nat.pow r' power ≤ n then r' else r) 0

/-- The first 64 bits of the fraction of a root of a number. -/
def rootBits (power n : Nat) : UInt64 :=
  UInt64.ofNat (root power (n * Nat.pow 2 (64 * power)) 72)

/-- The first 64 bits of the fractions of the roots of the first eighty primes. -/
def squareRoots : Array UInt64 := (primes.map (rootBits 2)).toArray
@[inherit_doc squareRoots] def cubeRoots : Array UInt64 := (primes.map (rootBits 3)).toArray

/-! ### The later ones -/

/-- A digest of the family: the bits of its words, the steps for a block, how far words are turned, the
    words at the beginning, and the number of its bytes. In the second and the fourth turn, the last one
    shifts. -/
structure Member where
  bits : Nat
  steps : Nat
  sumTurns : List Nat × List Nat
  wordTurns : (List Nat × Nat) × (List Nat × Nat)
  first : Array UInt64
  size : Nat

namespace Member

/-- The shape of the members with words of 32 bits. -/
def short (first : Array UInt64) (size : Nat) : Member :=
  ⟨32, 64, ([2, 13, 22], [6, 11, 25]), (([7, 18], 3), ([17, 19], 10)), first, size⟩

/-- The shape of the members with words of 64 bits. -/
def long (first : Array UInt64) (size : Nat) : Member :=
  ⟨64, 80, ([28, 34, 39], [14, 18, 41]), (([1, 8], 7), ([19, 61], 6)), first, size⟩

/-- The member with a number of bits. -/
def sha224 : Member := short ((squareRoots.extract 8 16).map fun w => w &&& 0xffffffff) 28
@[inherit_doc sha224] def sha256 : Member := short ((squareRoots.extract 0 8).map fun w => w >>> (32 : UInt64)) 32
@[inherit_doc sha224] def sha384 : Member := long (squareRoots.extract 8 16) 48
@[inherit_doc sha224] def sha512 : Member := long (squareRoots.extract 0 8) 64

/-- The number that a step adds. -/
def constant (m : Member) (i : Nat) : UInt64 :=
  let w := at_ cubeRoots i
  if m.bits == 32 then w >>> (32 : UInt64) else w

/-- A word turned in several ways, put together. -/
def mixed (m : Member) (turns : List Nat) (w : UInt64) : UInt64 :=
  turns.foldl (fun x n => x ^^^ turned m.bits w n) 0

/-- A word turned in several ways and shifted, put together. -/
def spread (m : Member) (turns : List Nat × Nat) (w : UInt64) : UInt64 :=
  m.mixed turns.1 w ^^^ (w >>> UInt64.ofNat turns.2)

/-- The words of a block, and those that follow from them. -/
def schedule (m : Member) (b : Bytes) (place : Nat) : Array UInt64 :=
  let size := m.bits / 8
  m.steps.fold (fun i _ ws =>
    ws.push (if i < 16 then bigWord b size (place + size * i)
      else
        lastBits m.bits (m.spread m.wordTurns.2 (at_ ws (i - 2)) + at_ ws (i - 7) +
          m.spread m.wordTurns.1 (at_ ws (i - 15)) + at_ ws (i - 16)))) #[]

/-- A step with a word. -/
def step (m : Member) (i : Nat) (word : UInt64) (ws : Array UInt64) : Array UInt64 :=
  let (a, b, c, d) := (at_ ws 0, at_ ws 1, at_ ws 2, at_ ws 3)
  let (e, f, g, h) := (at_ ws 4, at_ ws 5, at_ ws 6, at_ ws 7)
  let choice := (e &&& f) ^^^ (inverted m.bits e &&& g)
  let most := (a &&& b) ^^^ (a &&& c) ^^^ (b &&& c)
  let one := lastBits m.bits (h + m.mixed m.sumTurns.2 e + choice + m.constant i + word)
  let two := m.mixed m.sumTurns.1 a + most
  #[plus m.bits one two, a, b, c, plus m.bits d one, e, f, g]

/-- The digest of bytes. -/
def digest (m : Member) (b : Bytes) : List UInt8 :=
  let size := m.bits / 8
  let b := padded (16 * size) (2 * size) bigBytes b
  let ws := overBlocks (16 * size) b m.first fun ws place =>
    let words := m.schedule b place
    added m.bits ws (m.steps.fold (fun i _ ws => m.step i (at_ words i) ws) ws)
  (ws.toList.flatMap fun w => bigBytes size w.toNat).take m.size

end Member

end Buildwright.Shell.Digest.Sha

/-!
## BLAKE2b

Eight words of 64 bits go through twelve rounds for each block of 128 bytes. The last block is filled up
with zeros and marked.
-/
namespace Buildwright.Shell.Digest.Blake

/-- The words that the work of a block begins with beside those so far. -/
def constants : Array UInt64 := Sha.squareRoots.extract 0 8

/-- The orders of the words of a block in ten rounds. -/
def orders : Array (Array Nat) :=
  #[#[0, 1, 2, 3, 4, 5, 6, 7, 8, 9, 10, 11, 12, 13, 14, 15],
    #[14, 10, 4, 8, 9, 15, 13, 6, 1, 12, 0, 2, 11, 7, 5, 3],
    #[11, 8, 12, 0, 5, 2, 15, 13, 10, 14, 3, 6, 7, 1, 9, 4],
    #[7, 9, 3, 1, 13, 12, 11, 14, 2, 6, 5, 10, 4, 0, 15, 8],
    #[9, 0, 5, 7, 2, 4, 10, 15, 14, 1, 11, 12, 6, 8, 3, 13],
    #[2, 12, 6, 10, 0, 11, 8, 3, 4, 13, 7, 5, 15, 14, 1, 9],
    #[12, 5, 1, 15, 14, 13, 4, 10, 0, 7, 6, 3, 9, 2, 8, 11],
    #[13, 11, 7, 14, 12, 1, 3, 9, 5, 0, 15, 4, 8, 6, 2, 10],
    #[6, 15, 14, 9, 11, 3, 0, 8, 12, 2, 13, 7, 1, 4, 10, 5],
    #[10, 2, 8, 4, 7, 6, 1, 5, 15, 11, 9, 14, 3, 12, 13, 0]]

/-- The words that the mixes of a round work on: the columns, and then the diagonals. -/
def lanes : List (Nat × Nat × Nat × Nat) :=
  [(0, 4, 8, 12), (1, 5, 9, 13), (2, 6, 10, 14), (3, 7, 11, 15), (0, 5, 10, 15), (1, 6, 11, 12),
    (2, 7, 8, 13), (3, 4, 9, 14)]

/-- Mixes two words of a block into four words. -/
def mix (vs : Array UInt64) (lane : Nat × Nat × Nat × Nat) (x y : UInt64) : Array UInt64 :=
  let (i, j, k, l) := lane
  let a := at_ vs i + at_ vs j + x
  let d := turned 64 (at_ vs l ^^^ a) 32
  let c := at_ vs k + d
  let b := turned 64 (at_ vs j ^^^ c) 24
  let a := a + b + y
  let d := turned 64 (d ^^^ a) 16
  let c := c + d
  let b := turned 64 (b ^^^ c) 63
  (((vs.setIfInBounds i a).setIfInBounds j b).setIfInBounds k c).setIfInBounds l d

/-- A round. -/
def round (words : Array UInt64) (n : Nat) (vs : Array UInt64) : Array UInt64 :=
  let order := (orders[n % 10]?).getD #[]
  lanes.zipIdx.foldl (fun vs (lane, i) =>
    let word (j : Nat) := at_ words ((order[j]?).getD 0)
    mix vs lane (word (2 * i)) (word (2 * i + 1))) vs

/-- The words after a block at a place; `total` bytes have been read then. -/
def compress (b : Bytes) (place total : Nat) (isLast : Bool) (ws : Array UInt64) : Array UInt64 :=
  let words := Array.ofFn fun i : Fin 16 => littleWord b 8 (place + 8 * i.val)
  let mark : UInt64 := if isLast then 0xffffffffffffffff else 0
  let vs := ws ++ constants
  let vs := vs.modify 12 (· ^^^ UInt64.ofNat total)
  let vs := vs.modify 14 (· ^^^ mark)
  let vs := Nat.fold 12 (fun n _ vs => round words n vs) vs
  Array.ofFn fun i : Fin 8 => at_ ws i.val ^^^ at_ vs i.val ^^^ at_ vs (i.val + 8)

/-- The digest of bytes in a number of bytes. -/
def digest (size : Nat) (b : Bytes) : List UInt8 :=
  let blocks := max 1 ((b.size + 127) / 128)
  let filled := b ++ ofList (List.replicate (128 * blocks - b.size) 0)
  let first := constants.modify 0 (· ^^^ (0x01010000 ^^^ UInt64.ofNat size))
  let ws := blocks.fold (fun i _ ws =>
    compress filled (128 * i) (min b.size (128 * (i + 1))) (i + 1 == blocks) ws) first
  (ws.toList.flatMap fun w => littleBytes 8 w.toNat).take size

end Buildwright.Shell.Digest.Blake
