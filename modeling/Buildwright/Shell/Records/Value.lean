-- SUMMARY: Values of programs on records: numbers, texts, and texts from the input that may be numbers.
import Buildwright.Shell.Records.Program
import Buildwright.Text.Decimal

/-!
# Values of programs on records

A value is a number or a text. A text that has been read counts as a number in comparisons if it looks like
one, and a variable that has not been given a value counts as both zero and the empty text.
-/
namespace Buildwright.Shell.Records

/-- A value. -/
inductive Value where
  | unset
  | number (x : Float)
  | text (s : String)
  /-- A text that has been read. -/
  | input (s : String)
  deriving Inhabited

/-! ## Numbers -/

/-- The whole number that is nearest to a number on the side of zero. -/
def truncated (x : Float) : Int :=
  match Text.ofFloat x with
  | .finite negative m q =>
    let size := m * Binary64.twoTo q.toNat / Binary64.twoTo (-q).toNat
    if negative then -Int.ofNat size else Int.ofNat size
  | _ => 0

/-- The whole number of a word of 32 bits that another one leaves. -/
def wrapped (n : Int) : Int := n.bmod 4294967296

/-- The whole number that a number is in a word of 32 bits. What is too large for a word of 64 bits counts as
    the number of them that is farthest from zero. -/
def wordOf (x : Float) : Int :=
  if 9.3e18 < x then wrapped 9223372036854775807
  else if x < -9.3e18 then wrapped (-9223372036854775807)
  else wrapped (max (-9223372036854775807) (min 9223372036854775807 (truncated x)))

/-- Whether a number is whole. -/
def isWhole (x : Float) : Bool := x == x.floor && x - x == 0

/-- A number without its fraction. -/
def withoutFraction (x : Float) : Float := if x < 0 then x.ceil else x.floor

/-- No number. -/
def noNumber : Float := 0.0 / 0.0

/-- What is left of a number when a multiple of another one is taken away; it has the sign of the first. -/
def modulo (x y : Float) : Float :=
  match Text.ofFloat x, Text.ofFloat y with
  | .finite negative m p, .finite _ n q =>
    if n == 0 then noNumber
    else
      let least := min p q
      let rest := m * Binary64.twoTo (p - least).toNat % (n * Binary64.twoTo (q - least).toNat)
      if rest == 0 then Text.toFloat (.zero negative)
      else
        Text.toFloat
          (.nearest negative (rest * Binary64.twoTo least.toNat) (Binary64.twoTo (-least).toNat))
  | .finite _ _ _, .infinite _ => x
  | _, _ => noNumber

/-- The value of an operator. -/
def Arithmetic.apply (op : Arithmetic) (x y : Float) : Float :=
  match op with
  | .add => x + y
  | .subtract => x - y
  | .multiply => x * y
  | .divide => x / y
  | .remainder => modulo x y
  | .power => x.pow y

/-! ## Numbers in texts -/

/-- The number that a text begins with, or zero. -/
def numberIn (s : String) : Float :=
  ((Text.leadingFloat? s.toList).map (·.1)).getD 0

/-- The number that a text is, apart from blanks around it. It begins with a digit, a sign or a point, and
    ends with a digit or a point. -/
def wholeNumber? (s : String) : Option Float :=
  let cs := s.toList.dropWhile Text.isSpace
  let cs := (cs.reverse.dropWhile Text.isSpace).reverse
  match cs.head?, cs.getLast? with
  | some a, some b =>
    if (a.isDigit || a == '+' || a == '-' || a == '.') && (b.isDigit || b == '.') then
      match Text.leadingFloat? cs with
      | some (x, []) => some x
      | _ => none
    else none
  | _, _ => none

/-! ## Values -/

namespace Value

/-- A value as a number. -/
def toNumber : Value → Float
  | unset => 0
  | number x => x
  | text s | input s => numberIn s

/-- A value as a text, of which numbers are written in a certain way. -/
def toText (written : Float → String) : Value → String
  | unset => ""
  | number x => written x
  | text s | input s => s

/-- The number that a value counts as in comparisons. -/
def number? : Value → Option Float
  | unset => some 0
  | number x => some x
  | text _ => none
  | input s => wholeNumber? s

/-- Whether a value holds as a condition. -/
def holds : Value → Bool
  | unset => false
  | number x => x != 0
  | text s => s != ""
  | input s =>
    match wholeNumber? s with
    | some x => x != 0
    | none => s != ""

/-- One or zero. -/
def ofBool (b : Bool) : Value := number (if b then 1 else 0)

/-- A whole number. -/
def ofNat (n : Nat) : Value := number (Float.ofNat n)

end Value

/-- Whether two values compare in a certain way: as numbers if both count as numbers, and otherwise as
    texts. -/
def Comparison.decides (op : Comparison) (written : Float → String) (a b : Value) : Bool :=
  match a.number?, b.number? with
  | some x, some y =>
    match op with
    | .less => x < y
    | .atMost => x ≤ y
    | .equal => x == y
    | .unequal => x != y
    | .atLeast => y ≤ x
    | .greater => y < x
  | _, _ =>
    let s := a.toText written
    let t := b.toText written
    match op with
    | .less => s < t
    | .atMost => !decide (t < s)
    | .equal => s == t
    | .unequal => s != t
    | .atLeast => !decide (s < t)
    | .greater => t < s

end Buildwright.Shell.Records
