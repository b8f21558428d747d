-- SUMMARY: Reading numbers: unsigned ones, and the whole number that a text begins with.

/-!
# Numbers

An unsigned number is one or more decimal digits, which a single plus sign may precede.
-/
namespace Buildwright.Text

/-- The value of decimal digits that follow digits of the value `n`. -/
def digitsFrom? (n : Nat) : List Char → Option Nat
  | [] => some n
  | c :: cs => if c.isDigit then digitsFrom? (n * 10 + (c.toNat - '0'.toNat)) cs else none

/-- The value of a sequence of at least one decimal digit. -/
def digits? : List Char → Option Nat
  | [] => none
  | cs => digitsFrom? 0 cs

/-- The value of an unsigned number, if it is below `bound`. -/
def unsigned? (bound : Nat) (s : List Char) : Option Nat :=
  let digits :=
    match s with
    | '+' :: rest => rest
    | _ => s
  (digits? digits).filter (· < bound)

/-!
## Whole numbers at the beginning of texts

Blanks and a sign may stand in front of the digits. Where the base is open, `0x` announces sixteen and
another leading zero eight.
-/

/-- Whether a character is blank in front of numbers. -/
def isSpace (c : Char) : Bool :=
  c == ' ' || ('\t' ≤ c && c ≤ '\r')

/-- The value of a digit of any base. -/
def digitValue? (c : Char) : Option Nat :=
  if c.isDigit then some (c.toNat - '0'.toNat)
  else if 'a' ≤ c && c ≤ 'z' then some (c.toNat - 'a'.toNat + 10)
  else if 'A' ≤ c && c ≤ 'Z' then some (c.toNat - 'A'.toNat + 10)
  else none

/-- Whether a character is a digit of a base. -/
def isDigitOf (base : Nat) (c : Char) : Bool :=
  match digitValue? c with
  | some n => n < base
  | none => false

/-- The value of digits of a base. -/
def valueOfDigits (base : Nat) (cs : List Char) : Nat :=
  cs.foldl (fun n c => n * base + (digitValue? c).getD 0) 0

/-- The digits that a text begins with, as a number, and what follows them. -/
def leadingDigits? (base : Nat) (cs : List Char) : Option (Nat × List Char) :=
  match cs.takeWhile (isDigitOf base) with
  | [] => none
  | ds => some (valueOfDigits base ds, cs.drop ds.length)

/-- The number without a sign that a text begins with, in a base that it shows itself. -/
def leadingNatural? (cs : List Char) : Option (Nat × List Char) :=
  match cs with
  | '0' :: 'x' :: rest | '0' :: 'X' :: rest =>
    match leadingDigits? 16 rest with
    | some found => some found
    | none => some (0, cs.drop 1)
  | '0' :: _ => leadingDigits? 8 cs
  | _ => leadingDigits? 10 cs

/-- The whole number that a text begins with, and what follows it; `natural?` reads the digits. -/
def leadingInteger? (natural? : List Char → Option (Nat × List Char)) (cs : List Char) :
    Option (Int × List Char) :=
  let (negative, digits) :=
    match cs.dropWhile isSpace with
    | '-' :: rest => (true, rest)
    | '+' :: rest => (false, rest)
    | rest => (false, rest)
  (natural? digits).map fun (n, rest) => (if negative then -(n : Int) else n, rest)

/-- The least and the greatest number of 64 bits. -/
def leastInteger : Int := Int64.minValue.toInt
@[inherit_doc leastInteger] def greatestInteger : Int := Int64.maxValue.toInt

/-- Whether a number has 64 bits. -/
def fitsInteger (n : Int) : Bool :=
  leastInteger ≤ n && n ≤ greatestInteger

/-- The number of 64 bits that is nearest to a number. -/
def clampInteger (n : Int) : Int :=
  max leastInteger (min greatestInteger n)

/-- The number that a text is, with blanks around it. -/
def integer? (s : String) : Option Int :=
  match leadingInteger? (leadingDigits? 10) s.toList with
  | some (n, rest) => if rest.all isSpace then some n else none
  | none => none

end Buildwright.Text
