-- SUMMARY: Binary floating-point numbers of 64 bits: the one nearest to a decimal, and the shortest decimal that reads back.

/-!
# Binary numbers of 64 bits

A finite number is a mantissa below `2^53` times a power of two. `ofDecimal` rounds a decimal to the
nearest number, and `text` writes a number as the decimal with the fewest digits that rounds to it.
All arithmetic is exact.
-/
namespace Buildwright

/-- A floating-point number; a finite one has the magnitude `mantissa * 2 ^ exponent`. -/
inductive Binary64 where
  | finite (negative : Bool) (mantissa : Nat) (exponent : Int)
  | infinite (negative : Bool)
  | nan
  deriving DecidableEq, Repr

namespace Binary64

/-- The number of bits of a mantissa. -/
def precision : Nat := 53

/-- The least exponent. -/
def leastExponent : Int := -1074

/-- The greatest exponent. -/
def greatestExponent : Int := 971

/-- Zero with a sign. -/
def zero (negative : Bool) : Binary64 :=
  finite negative 0 leastExponent

/-- A power of two. -/
def twoTo (n : Nat) : Nat :=
  Nat.pow 2 n

/-- A power of ten. -/
def tenTo (n : Nat) : Nat :=
  Nat.pow 10 n

/-- A number as a multiple of the least one above zero. What is infinite lies beyond all finite numbers. -/
def scaled : Binary64 → Int
  | finite negative m q =>
    let magnitude := m * twoTo (q - leastExponent).toNat
    if negative then -Int.ofNat magnitude else magnitude
  | infinite negative =>
    let magnitude := twoTo (precision + (greatestExponent - leastExponent).toNat)
    if negative then -Int.ofNat magnitude else magnitude
  | nan => 0

/-! ## From decimals -/

/-- The quotient of two numbers as a whole number, rounded to the nearest and to the even one of two
    that are equally near. -/
def roundedQuotient (num den : Nat) : Nat :=
  let below := num / den
  let rest := 2 * (num % den)
  if rest < den then below
  else if den < rest then below + 1
  else below + below % 2

/-- The fraction `num / den` divided by a power of two. -/
def scaleDown (num den : Nat) (q : Int) : Nat × Nat :=
  (num * twoTo (-q).toNat, den * twoTo q.toNat)

/-- The number nearest to the fraction `num / den`, which is not zero. -/
def nearest (negative : Bool) (num den : Nat) : Binary64 :=
  let guess := max ((num.log2 : Int) - den.log2 - precision) leastExponent
  let (n, d) := scaleDown num den guess
  let q := if n / d < twoTo precision then guess else guess + 1
  let (n, d) := scaleDown num den q
  let m := roundedQuotient n d
  let (m, q) := if m = twoTo precision then (twoTo (precision - 1), q + 1) else (m, q)
  if greatestExponent < q then infinite negative
  else if m = 0 then zero negative
  else finite negative m q

/-- The number nearest to `digits * 10 ^ exponent`, with a sign. Decimals that are far too large or
    too small are recognised by their exponents. -/
def ofDecimal (negative : Bool) (digits : Nat) (exponent : Int) : Binary64 :=
  if digits = 0 ∨ exponent + digits.log2 < -400 then zero negative
  else if 400 < exponent then infinite negative
  else nearest negative (digits * tenTo exponent.toNat) (tenTo (-exponent).toNat)

/-- The number nearest to `digits * 2 ^ exponent`, with a sign. -/
def ofBinary (negative : Bool) (digits : Nat) (exponent : Int) : Binary64 :=
  if digits = 0 ∨ exponent + digits.log2 < -1200 then zero negative
  else if 1200 < exponent then infinite negative
  else nearest negative (digits * twoTo exponent.toNat) (twoTo (-exponent).toNat)

/-! ## To decimals -/

/-- Whether `a * 10 ^ t ≤ b * 2 ^ e`. -/
def decimalAtMost (a : Nat) (t : Int) (b : Nat) (e : Int) : Bool :=
  a * tenTo t.toNat * twoTo (-e).toNat ≤ b * twoTo e.toNat * tenTo (-t).toNat

/-- Whether `b * 2 ^ e ≤ a * 10 ^ t`. -/
def binaryAtMost (b : Nat) (e : Int) (a : Nat) (t : Int) : Bool :=
  b * twoTo e.toNat * tenTo (-t).toNat ≤ a * tenTo t.toNat * twoTo (-e).toNat

/-- Whether `a * 10 ^ t` rounds to `m * 2 ^ q`: it lies between the middles to the neighbours, and at
    most on one of them if `m` is even. -/
def roundsTo (m : Nat) (q : Int) (a : Nat) (t : Int) : Bool :=
  let low := if m = twoTo (precision - 1) ∧ leastExponent < q then 4 * m - 1 else 4 * m - 2
  let high := 4 * m + 2
  if m % 2 = 0 then binaryAtMost low (q - 2) a t && decimalAtMost a t high (q - 2)
  else !decimalAtMost a t low (q - 2) && !binaryAtMost high (q - 2) a t

/-- The multiple of `10 ^ t` that rounds to `m * 2 ^ q` and is nearest to it, if there is one. -/
def onGrid? (m : Nat) (q t : Int) : Option Nat :=
  let below := m * twoTo q.toNat * tenTo (-t).toNat / (tenTo t.toNat * twoTo (-q).toNat)
  match roundsTo m q below t, roundsTo m q (below + 1) t with
  | true, true => if decimalAtMost (2 * below + 1) t (2 * m) q then some (below + 1) else some below
  | true, false => some below
  | false, true => some (below + 1)
  | false, false => none

/-- The places of the last digit of a decimal, coarsest first. -/
def places : List Int :=
  (List.range 660).map fun n => 310 - Int.ofNat n

/-- The decimal with the fewest digits that rounds to `m * 2 ^ q`: its digits and the place of the
    last. -/
def shortest (m : Nat) (q : Int) : Nat × Int :=
  if m = 0 then (0, 0)
  else (places.findSome? fun t => (onGrid? m q t).map (·, t)).getD (0, 0)

/-- The decimal `a * 10 ^ t` in positional notation, with at least one digit on either side of the
    point. -/
def positional (a : Nat) (t : Int) : String :=
  let digits := (toString a).toList
  if 0 ≤ t then String.ofList (digits ++ List.replicate t.toNat '0') ++ ".0"
  else
    let places := (-t).toNat
    let padded := List.replicate (places + 1 - digits.length) '0' ++ digits
    String.ofList (padded.take (padded.length - places)) ++ "." ++
      String.ofList (padded.drop (padded.length - places))

/-- A number in positional notation, with the fewest digits that read back. -/
def text : Binary64 → String
  | finite negative m q =>
    (if negative then "-" else "") ++ positional (shortest m q).1 (shortest m q).2
  | infinite negative => if negative then "-inf" else "inf"
  | nan => "NaN"

end Binary64
end Buildwright
