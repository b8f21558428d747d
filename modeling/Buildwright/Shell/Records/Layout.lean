-- SUMMARY: Formatted output of programs on records.
import Buildwright.Shell.Format
import Buildwright.Shell.Records.Value

/-!
# Formatted output of programs on records

A format stands for a text, with conversions for values. Other than in scripts, there has to be a value for
each conversion.
-/
namespace Buildwright.Shell.Records

/-- What is wrong with a format. -/
inductive LayoutFault where
  /-- There is no value for a conversion. -/
  | tooFew
  /-- A conversion, of which the number is given, that there is not. -/
  | improper (n : Nat)

namespace Layout

/-- How numbers that are not whole are written unless a program says otherwise. -/
def usualFormat : String := "%.6g"

/-- The values that can be written as whole numbers without a sign. -/
def mostUnsigned : Nat := UInt64.size - 1

/-- A number as the whole number that is written for it. What is too small for a word with a sign counts as
    the least one but one, and what is too large as the greatest one of a word without a sign. -/
def wholeOf (x : Float) : Int :=
  if x != x then Text.leastInteger
  else if 2.0e19 < x then mostUnsigned
  else if x < -2.0e19 then Text.leastInteger + 1
  else
    let n := truncated x
    if n < Text.leastInteger then Text.leastInteger + 1 else min n mostUnsigned

/-- A number as the word without a sign that is written for it. -/
def bitsOf (x : Float) : Nat :=
  let word : Nat := UInt64.size
  if x != x then word / 2
  else if 2.0e19 < x then mostUnsigned
  else if x < -2.0e19 then 1
  else
    let n := max (-(mostUnsigned : Int)) (min (mostUnsigned : Int) (truncated x))
    if n < Text.leastInteger && n != -(mostUnsigned : Int) then word / 2 else (n % (word : Int)).toNat

/-- The whole number that the last bits of a word are; `bits` tells how many they are. -/
def ending (bits : Option Nat) (n : Int) : Int :=
  match bits with
  | some b => n.bmod (Binary64.twoTo b)
  | none => n

/-- The character that a value stands for. -/
def character (v : Value) : Char :=
  let ofNumber (x : Float) : Char := Char.ofNat (wordOf x % 256).toNat
  match v with
  | .number x => ofNumber x
  | .unset => '\x00'
  | .text s => s.toList.headD '\x00'
  | .input s =>
    match wholeNumber? s with
    | some x => ofNumber x
    | none => s.toList.headD '\x00'

/-- The bits of whole numbers that the letters in front of the letter of a conversion ask for. -/
def bitsFor (modifiers : List Char) : Option Nat :=
  if modifiers.count 'h' == 1 then some 16
  else if modifiers.contains 'h' then some 8
  else if modifiers.contains 'l' then some 64
  else none

/-- A value as a conversion writes it; `bits` tells how many bits whole numbers have if that is said, as it is
    for nothing else. -/
def convert? (written : Float → String) (k : Format.Conversion) (bits : Option Nat) (v : Value) :
    Option String :=
  let x := v.toNumber
  match k.letter with
  | 'd' => some (k.signed (ending bits (wholeOf x)))
  | 'i' => some (k.signed (ending bits (min Text.greatestInteger (wholeOf x))))
  | 'u' | 'o' | 'x' | 'X' => some (k.unsigned (bitsOf x % Binary64.twoTo (bits.getD 64)))
  | 's' => if bits.isNone then some (k.text (v.toText written)) else none
  | 'c' => if bits.isNone then some (String.ofList (k.pad [character v])) else none
  | 'e' | 'E' | 'f' | 'F' | 'g' | 'G' => if bits.isNone then some (k.float (Text.ofFloat x)) else none
  | _ => none

/-- A width or a precision, what follows it, and the values that are left. -/
def size (cs : List Char) (values : List Value) : Option (Option Int × List Char × List Value) :=
  match cs, values with
  | '*' :: rest, v :: values => some (some (wordOf v.toNumber), rest, values)
  | '*' :: _, [] => none
  | _, _ =>
    match Text.leadingDigits? 10 cs with
    | some (n, rest) => some (some n, rest, values)
    | none => some (none, cs, values)

/-- The output of a format, of which at most `n` characters are left, and what ends it too early. The
    conversions so far are counted. -/
def write (written : Float → String) : Nat → Nat → List Char → List Value →
    List String × Option LayoutFault
  | 0, _, _, _ | _, _, [], _ => ([], none)
  | n + 1, count, '%' :: '%' :: cs, values =>
    let (done, fault) := write written n count cs values
    ("%" :: done, fault)
  | n + 1, count, '%' :: cs, values =>
    if values.isEmpty then ([], some .tooFew)
    else
      let improper := ([], some (LayoutFault.improper (count + 1)))
      let flags := cs.takeWhile ['-', '+', ' ', '0', '#'].contains
      match size (cs.drop flags.length) values with
      | none => ([], some .tooFew)
      | some (width, rest, values) =>
        let precision : Option (Option Int × List Char × List Value) :=
          match rest with
          | '.' :: more => (size more values).map fun (p, rest, values) => (some (p.getD 0), rest, values)
          | _ => some (none, rest, values)
        match precision with
        | none => ([], some .tooFew)
        | some (precision, rest, values) =>
          let modifiers := rest.takeWhile fun c => c == 'h' || c == 'l'
          match rest.drop modifiers.length, values with
          | [], _ => improper
          | _ :: _, [] => ([], some .tooFew)
          | letter :: after, v :: values =>
            let width := width.getD 0
            let flags := if width < 0 then '-' :: flags else flags
            let precision := precision.bind fun p => if p < 0 then none else some p.toNat
            match convert? written ⟨flags, width.natAbs, precision, letter⟩ (bitsFor modifiers) v with
            | none => improper
            | some text =>
              let (done, fault) := write written n (count + 1) after values
              (text :: done, fault)
  | n + 1, count, c :: cs, values =>
    let plain := (c :: cs).takeWhile (· != '%')
    let (done, fault) := write written n count ((c :: cs).drop plain.length) values
    (String.ofList plain :: done, fault)

/-- The output of a format, and what ends it too early. -/
def output (written : Float → String) (format : String) (values : List Value) :
    String × Option LayoutFault :=
  let (done, fault) := write written (format.length + 1) 0 format.toList values
  (String.join done, fault)

/-- The least number from which on a number may stand for several whole ones. -/
def wholeLimit : Float := 9007199254740992.0

/-- A number as a format writes it; whole numbers are written with all their digits as long as no other
    whole number is rounded to them. -/
def number (format : String) (x : Float) : String :=
  if x != x then "-nan"
  else if isWhole x && -wholeLimit < x && x < wholeLimit then toString (truncated x)
  else (output (fun _ => "") format [.number x]).1

end Layout

end Buildwright.Shell.Records
