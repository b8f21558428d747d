-- SUMMARY: Decimals with a given number of digits, for binary floating-point numbers.
import Buildwright.Binary64
import Buildwright.Text.Number

/-!
# Decimals of binary numbers

A number is written with a given number of places behind the point, or with a given number of digits and
an exponent. Both are rounded from the exact value, a half to the even neighbour.
-/
namespace Buildwright.Text

open Binary64

/-! ## Machine numbers -/

/-- The parts of a machine number. -/
def ofFloat (x : Float) : Binary64 :=
  let bits := x.toBits.toNat
  let negative := bits / twoTo 63 == 1
  let field := bits / twoTo 52 % 2048
  let fraction := bits % twoTo 52
  if field == 2047 then if fraction == 0 then .infinite negative else .nan
  else if field == 0 then .finite negative fraction leastExponent
  else .finite negative (fraction + twoTo 52) (field - 1075)

/-- The machine number with given parts. -/
def toFloat : Binary64 → Float
  | .nan => 0.0 / 0.0
  | .infinite negative => if negative then -1.0 / 0.0 else 1.0 / 0.0
  | .finite negative m q =>
    let size := Float.scaleB (Float.ofNat m) q
    if negative then -size else size

/-! ## Digits -/

/-- The value `m * 2 ^ q` times `10 ^ p`, as a fraction. -/
def scaledFraction (m : Nat) (q p : Int) : Nat × Nat :=
  (m * twoTo q.toNat * tenTo p.toNat, twoTo (-q).toNat * tenTo (-p).toNat)

/-- The value `m * 2 ^ q` times `10 ^ p`, rounded. -/
def scaled (m : Nat) (q p : Int) : Nat :=
  let (num, den) := scaledFraction m q p
  roundedQuotient num den

/-- The number of decimal digits of a number. -/
def digitCount (n : Nat) : Nat := (toString n).length

/-- The place of the first digit of `m * 2 ^ q`, which is not zero: it lies between `10 ^ k` and
    `10 ^ (k + 1)`. -/
def leadingPlace (m : Nat) (q : Int) : Int :=
  let (num, den) := scaledFraction m q 0
  let guess : Int := digitCount num - digitCount den
  let (num, den) := scaledFraction m q (-guess)
  if den ≤ num then guess else guess - 1

/-- The first `n` digits of `m * 2 ^ q` and the place of the first of them. -/
def leading (m : Nat) (q : Int) (n : Nat) : Nat × Int :=
  if m == 0 then (0, 0)
  else
    let k := leadingPlace m q
    let digits := scaled m q (n - 1 - k)
    if digits == tenTo n then (digits / 10, k + 1) else (digits, k)

/-- A number with a point in front of its last `places` digits, of which `pointed` shows one in any
    case. -/
def withPoint (places : Nat) (pointed : Bool) (n : Nat) : List Char :=
  let digits := (toString n).toList
  let padded := List.replicate (places + 1 - digits.length) '0' ++ digits
  let whole := padded.take (padded.length - places)
  if places == 0 then whole ++ if pointed then ['.'] else []
  else whole ++ '.' :: padded.drop (padded.length - places)

/-- The size `m * 2 ^ q` with places behind the point. -/
def fixed (places : Nat) (pointed : Bool) (m : Nat) (q : Int) : List Char :=
  withPoint places pointed (scaled m q places)

/-- An exponent behind its letter, with at least two digits. -/
def exponentText (k : Int) : List Char :=
  let digits := (toString k.natAbs).toList
  'e' :: (if k < 0 then '-' else '+') :: (List.replicate (2 - digits.length) '0' ++ digits)

/-- The size `m * 2 ^ q` with one digit in front of the point, places behind it, and an exponent. -/
def scientific (places : Nat) (pointed : Bool) (m : Nat) (q : Int) : List Char :=
  let (digits, k) := leading m q (places + 1)
  withPoint places pointed digits ++ exponentText k

/-- The digits of a decimal without the zeros at the end of its fraction. -/
def withoutTrailingZeros (cs : List Char) : List Char :=
  if cs.contains '.' then
    let kept := cs.reverse.dropWhile (· == '0')
    (if kept.head? == some '.' then kept.drop 1 else kept).reverse
  else cs

/-- The size `m * 2 ^ q` with a number of digits, in the shorter of the two forms. -/
def general (precision : Nat) (pointed : Bool) (m : Nat) (q : Int) : List Char :=
  let precision := max precision 1
  let k := (leading m q precision).2
  let trim (cs : List Char) := if pointed then cs else withoutTrailingZeros cs
  if k < -4 || (precision : Int) ≤ k then
    let cs := scientific (precision - 1) pointed m q
    trim (cs.takeWhile (· != 'e')) ++ cs.dropWhile (· != 'e')
  else trim (fixed ((precision : Int) - 1 - k).toNat pointed m q)

/-! ## Reading -/

/-- The number that a text begins with, without blanks and sign in front, and what follows it. -/
def leadingDecimal? (cs : List Char) : Option (Nat × Int × List Char) :=
  let whole := cs.takeWhile Char.isDigit
  let rest := cs.drop whole.length
  let (fraction, rest) :=
    match rest with
    | '.' :: more => (more.takeWhile Char.isDigit, more.dropWhile Char.isDigit)
    | _ => ([], rest)
  if whole.isEmpty && fraction.isEmpty then none
  else
    let (exponent, rest) :=
      match rest with
      | 'e' :: more | 'E' :: more =>
        match leadingInteger? (leadingDigits? 10) (if more.head? == some ' ' then [] else more) with
        | some (e, after) => (e, after)
        | none => (0, rest)
      | _ => (0, rest)
    some (valueOfDigits 10 (whole ++ fraction), exponent - fraction.length, rest)

/-- The number behind `0x` that a text begins with, and what follows it; a power of two may stand behind
    it. -/
def leadingHexadecimal? (negative : Bool) (cs : List Char) : Option (Binary64 × List Char) :=
  let whole := cs.takeWhile (isDigitOf 16)
  let rest := cs.drop whole.length
  let (fraction, rest) :=
    match rest with
    | '.' :: more => more.span (isDigitOf 16)
    | _ => ([], rest)
  if whole.isEmpty && fraction.isEmpty then none
  else
    let (exponent, rest) :=
      match rest with
      | 'p' :: more | 'P' :: more =>
        match leadingInteger? (leadingDigits? 10) (if more.head?.any isSpace then [] else more) with
        | some (e, after) => (e, after)
        | none => (0, rest)
      | _ => (0, rest)
    some (ofBinary negative (valueOfDigits 16 (whole ++ fraction)) (exponent - 4 * fraction.length), rest)

/-- The rest of a text behind a word, whatever the case of its letters. -/
def behindWord? (word : String) (cs : List Char) : Option (List Char) :=
  if (cs.take word.length).map Char.toLower == word.toList then some (cs.drop word.length) else none

/-- The number without a sign that a text begins with, and what follows it: a decimal, a number of base
    sixteen, or the word for what has no digits. -/
def leadingSize? (negative : Bool) (cs : List Char) : Option (Binary64 × List Char) :=
  match behindWord? "0x" cs >>= leadingHexadecimal? negative, behindWord? "inf" cs, behindWord? "nan" cs with
  | some found, _, _ => some found
  | none, some rest, _ => some (.infinite negative, (behindWord? "inity" rest).getD rest)
  | none, none, some rest =>
    let inner := (rest.drop 1).takeWhile fun c => c.isAlphanum || c == '_'
    let isNamed := rest.head? == some '(' && (rest.drop (inner.length + 1)).head? == some ')'
    some (.nan, if isNamed then rest.drop (inner.length + 2) else rest)
  | none, none, none => (leadingDecimal? cs).map fun (n, e, rest) => (ofDecimal negative n e, rest)

/-- The number that a text begins with, and what follows it. -/
def leadingBinary? (cs : List Char) : Option (Binary64 × List Char) :=
  match cs.dropWhile isSpace with
  | '-' :: rest => leadingSize? true rest
  | '+' :: rest => leadingSize? false rest
  | rest => leadingSize? false rest

/-- The number that a text begins with, as a machine number, and what follows it. -/
def leadingFloat? (cs : List Char) : Option (Float × List Char) :=
  (leadingBinary? cs).map fun (x, rest) => (toFloat x, rest)

end Buildwright.Text
