-- SUMMARY: Orders of texts: by characters, by the numbers in front, by sizes with units, by versions, and by months.
import Buildwright.Shell.Utility.Calendar
import Buildwright.Shell.Utility.Print

/-!
# Orders of texts

Texts are compared character by character, by the number that they begin with, or as names of versions, in
which numbers count as such and the suffixes of a file's name come last.
-/
namespace Buildwright.Shell.Utility

/-- Whether a character is a blank within lines. -/
def isBlankChar (c : Char) : Bool := c == ' ' || c == '\t'

/-- The order of lists of characters. -/
def compareChars : List Char → List Char → Ordering
  | [], [] => .eq
  | [], _ => .lt
  | _, [] => .gt
  | a :: as, b :: bs => (compare a.toNat b.toNat).then (compareChars as bs)

/-! ## Numbers -/

/-- The decimal that a text begins with, and what follows it. -/
def leadingNumber (cs : List Char) : Decimal × List Char :=
  let cs := cs.dropWhile isBlankChar
  let (isNegative, cs) :=
    match cs with
    | '-' :: rest => (true, rest)
    | _ => (false, cs)
  let whole := cs.takeWhile Char.isDigit
  let (fraction, rest) :=
    match cs.drop whole.length with
    | '.' :: rest => rest.span Char.isDigit
    | rest => ([], rest)
  let n : Int := Text.valueOfDigits 10 (whole ++ fraction)
  (⟨if isNegative then -n else n, fraction.length⟩, rest)

/-- The order of decimals. -/
def compareDecimals (a b : Decimal) : Ordering :=
  let places := max a.places b.places
  compare (a.withPlaces places) (b.withPlaces places)

/-- The order of the numbers that texts begin with. -/
def compareNumbers (a b : List Char) : Ordering :=
  compareDecimals (leadingNumber a).1 (leadingNumber b).1

/-- The units of sizes, the least one first. -/
def sizeUnits : List Char := ['K', 'M', 'G', 'T', 'P', 'E', 'Z', 'Y', 'R', 'Q']

/-- The rank of the unit of a size; that of negative sizes is below zero, and zero has none. -/
def unitRank (size : Decimal × List Char) : Int :=
  let rank : Nat :=
    match size.2 with
    | c :: _ => (sizeUnits.idxOf? (if c == 'k' then 'K' else c)).elim 0 (· + 1)
    | [] => 0
  if size.1.digits < 0 then -rank else if size.1.digits == 0 then 0 else rank

/-- The order of numbers with units. -/
def compareSizes (a b : List Char) : Ordering :=
  let (x, y) := (leadingNumber a, leadingNumber b)
  (compare (unitRank x) (unitRank y)).then (compareDecimals x.1 y.1)

/-- The place of a floating-point number in order: what is none comes first, and then what is not a
    number. -/
def floatPlace (cs : List Char) : Nat × Int :=
  match Text.leadingBinary? cs with
  | none => (0, 0)
  | some (.nan, _) => (1, 0)
  | some (x, _) => (2, x.scaled)

/-- The order of floating-point numbers. -/
def compareFloats (a b : List Char) : Ordering :=
  let (x, y) := (floatPlace a, floatPlace b)
  (compare x.1 y.1).then (compare x.2 y.2)

/-! ## Versions -/

/-- The rank of a character, or of the place behind the last one. -/
def versionRank : Option Char → Nat
  | none => 1
  | some c =>
    if c == '~' then 0
    else if c.isDigit then 2
    else if c.isAlpha then c.toNat + 3
    else c.toNat + 300

/-- The order of texts of at most `n` characters in which numbers count as such. -/
def compareRevisions : Nat → List Char → List Char → Ordering
  | 0, _, _ | _, [], [] => .eq
  | n + 1, a, b =>
    let isOther (cs : List Char) : Bool := cs.head?.any (!·.isDigit)
    if isOther a || isOther b then
      (compare (versionRank a.head?) (versionRank b.head?)).then (compareRevisions n (a.drop 1) (b.drop 1))
    else
      let (x, y) := (a.takeWhile Char.isDigit, b.takeWhile Char.isDigit)
      (compare (Text.valueOfDigits 10 x) (Text.valueOfDigits 10 y)).then
        (compareRevisions n (a.drop x.length) (b.drop y.length))

/-- Whether a text is made of suffixes of a name: dots with letters and digits, a letter first. -/
def isSuffixes (s : String) : Bool :=
  match Text.pieces '.' s with
  | first :: parts =>
    first == "" && parts.all fun p =>
      p.toList.head?.any (fun c => c.isAlpha || c == '~') && p.toList.all fun c => c.isAlphanum || c == '~'
  | [] => true

/-- The number of characters of a name in front of its suffixes, of which there is at least one. -/
def stemLength (cs : List Char) : Nat :=
  ((List.range cs.length).find? fun i => isSuffixes (String.ofList (cs.drop (i + 1)))).elim 0 (· + 1)

/-- The rank of a name among all names: those that begin with a dot come first. -/
def nameRank : List Char → Nat
  | [] => 0
  | ['.'] => 1
  | ['.', '.'] => 2
  | '.' :: _ => 3
  | _ => 4

/-- The order of the names of versions; suffixes count only if all else is equal. -/
def compareVersions (a b : List Char) : Ordering :=
  let within := compareRevisions (a.length + b.length)
  ((compare (nameRank a) (nameRank b)).then
    (within (a.take (stemLength a)) (b.take (stemLength b)))).then (within a b)

/-! ## Months -/

/-- The number of the month that a text begins with; zero for none. -/
def monthOf (cs : List Char) : Nat :=
  let name := String.ofList (((cs.dropWhile isBlankChar).take 3).map Char.toLower)
  ((monthNames.map String.toLower).idxOf? name).elim 0 (· + 1)

end Buildwright.Shell.Utility
