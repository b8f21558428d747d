-- SUMMARY: Reading the values of a TOML document that hold no others: strings, numbers, booleans, and dates and times.
import Buildwright.Text.Number
import Buildwright.Text.Reader
import Buildwright.Toml.Value

/-!
# Scalars

A scalar is read from the beginning of a text; what may follow it is for the document to say.
-/
namespace Buildwright.Toml

open Reader

/-! ## Characters -/

/-- Whether a character may stand in a line: all but control characters, among which tabs may. -/
def isPlain (c : Char) : Bool :=
  c == '\t' || (0x20 ≤ c.toNat && c.toNat != 0x7F)

/-- Whether a character may stand for itself in a string with escapes. -/
def isUnescaped (c : Char) : Bool :=
  isPlain c && c != '\x22' && c != '\x5c'

/-- Whether a character may stand in a string without escapes. -/
def isLiteral (c : Char) : Bool :=
  isPlain c && c != '\''

/-- Whether a character separates without ending a line. -/
def isSpace (c : Char) : Bool :=
  c == ' ' || c == '\t'

/-- Takes spaces and tabs. -/
def spaces : Reader Unit := do
  let _ ← takeWhile isSpace

/-- Takes the end of a line. -/
def newline : Reader Unit :=
  literal "\n" <|> literal "\r\n"

/-! ## Strings -/

/-- The value of a hexadecimal digit. -/
def hexValue (c : Char) : Nat :=
  if c.isDigit then c.toNat - 48 else if 97 ≤ c.toNat then c.toNat - 87 else c.toNat - 55

/-- Whether a character is a hexadecimal digit. -/
def isHex (c : Char) : Bool :=
  c.isDigit || ('a' ≤ c && c ≤ 'f') || ('A' ≤ c && c ≤ 'F')

/-- The number that digits of a base stand for. -/
def numberOf (base : Nat) (digits : List Char) : Nat :=
  digits.foldl (fun n c => n * base + hexValue c) 0

/-- Takes `n` hexadecimal digits that stand for a character. -/
def codePoint (n : Nat) : Reader Char := do
  let code := numberOf 16 (← exactly n isHex)
  require (Nat.isValidChar code)
  return Char.ofNat code

/-- The character that a letter after a backslash stands for. -/
def escapes : List (Char × Char) :=
  [('b', '\x08'), ('t', '\t'), ('n', '\n'), ('f', '\x0c'), ('r', '\r'), ('\x22', '\x22'),
    ('\x5c', '\x5c')]

/-- Takes an escape. -/
def escape : Reader Char := do
  let _ ← char '\x5c'
  let c ← one fun _ => true
  if c == 'u' then codePoint 4
  else if c == 'U' then codePoint 8
  else ofOption (escapes.lookup c)

/-- Takes a string in one line with escapes. -/
def basicString : Reader String := do
  let _ ← char '\x22'
  let s ← many (one isUnescaped <|> escape)
  let _ ← char '\x22'
  return String.ofList s

/-- Takes a string in one line without escapes. -/
def literalString : Reader String := do
  let _ ← char '\''
  let s ← takeWhile isLiteral
  let _ ← char '\''
  return String.ofList s

/-- Takes a backslash that ends a line, and all blanks and line ends after it. -/
def continuation : Reader Unit := do
  let _ ← char '\x5c'
  spaces
  newline
  let _ ← many ((do let _ ← one isSpace) <|> newline)

/-- Takes one or two quotes within a string of several lines. -/
def fewQuotes (quote : Char) : Reader (List Char) := do
  let quotes ← takeWhile1 (· == quote)
  require (quotes.length < 3)
  return quotes

/-- Takes the three quotes that end a string of several lines, and up to two before them, which
    belong to the string. -/
def closingQuotes (quote : Char) : Reader (List Char) := do
  let quotes ← takeWhile1 (· == quote)
  require (3 ≤ quotes.length && quotes.length ≤ 5)
  return quotes.drop 3

/-- Takes a string of several lines whose pieces `piece` takes. A line end right behind the opening
    quotes does not count. -/
def longString (quote : Char) (piece : Reader (List Char)) : Reader String := do
  literal (String.ofList [quote, quote, quote])
  let _ ← maybe newline
  let pieces ← many (piece <|> fewQuotes quote)
  return String.ofList (pieces.flatten ++ (← closingQuotes quote))

/-- Takes a line end within a string, which is a line feed however it is written. -/
def newlinePiece : Reader (List Char) := do
  newline
  return ['\n']

/-- Takes a piece of a string of several lines with escapes. -/
def basicPiece : Reader (List Char) :=
  takeWhile1 isUnescaped <|> newlinePiece <|> (do continuation; return []) <|>
    (do return [← escape])

/-- Takes a string. -/
def string : Reader String :=
  longString '\x22' basicPiece <|> basicString <|>
    longString '\'' (takeWhile1 isLiteral <|> newlinePiece) <|> literalString

/-! ## Numbers -/

/-- Takes digits, between which single underscores may stand. -/
def digits (isDigit : Char → Bool) : Reader (List Char) := do
  let first ← one isDigit
  return first :: (← many (one isDigit <|> (char '_' *> one isDigit)))

/-- Takes a sign if there is one, and tells whether it is a minus. -/
def sign : Reader Bool := do
  return (← maybe (one fun c => c == '+' || c == '-')) == some '-'

/-- Takes a sign and decimal digits without needless zeros in front. -/
def signedDigits : Reader (Bool × List Char) := do
  let negative ← sign
  let ds ← digits Char.isDigit
  require (ds.length == 1 || ds.head? != some '0')
  return (negative, ds)

/-- The whole numbers that a value can be. -/
def isIntegerValue (n : Int) : Bool :=
  Int64.minValue.toInt ≤ n && n ≤ Int64.maxValue.toInt

/-- Takes a whole number in the notation of a base. -/
def radixInteger (start : String) (base : Nat) (isDigit : Char → Bool) : Reader Int := do
  literal start
  return numberOf base (← digits isDigit)

/-- Takes a whole number. -/
def integer : Reader Int := do
  let n ← radixInteger "0x" 16 isHex <|> radixInteger "0o" 8 (fun c => '0' ≤ c && c ≤ '7') <|>
    radixInteger "0b" 2 (fun c => c == '0' || c == '1') <|> (do
      let (negative, ds) ← signedDigits
      let n : Int := numberOf 10 ds
      return if negative then -n else n)
  require (isIntegerValue n)
  return n

/-- Takes the digits behind a decimal point. -/
def fraction : Reader (List Char) :=
  char '.' *> digits Char.isDigit

/-- Takes the exponent of a decimal. -/
def exponent : Reader Int := do
  let _ ← one fun c => c == 'e' || c == 'E'
  let negative ← sign
  let n : Int := numberOf 10 (← digits Char.isDigit)
  return if negative then -n else n

/-- Takes a decimal with a fraction or an exponent, which must not be too large. -/
def decimal : Reader Binary64 := do
  let (negative, ds) ← signedDigits
  let behind ← maybe fraction
  let power ← maybe exponent
  require (behind.isSome || power.isSome)
  let behind := behind.getD []
  let x := Binary64.ofDecimal negative (numberOf 10 (ds ++ behind)) (power.getD 0 - behind.length)
  require (x != .infinite false)
  return x

/-- Takes a number that is no decimal. -/
def specialFloat : Reader Binary64 := do
  let negative ← sign
  (do literal "inf"; return .infinite negative) <|> (do literal "nan"; return .nan)

/-! ## Dates and times -/

/-- Takes a number of `n` digits between two bounds. -/
def field (n low high : Nat) : Reader Nat := do
  let value := numberOf 10 (← exactly n Char.isDigit)
  require (low ≤ value && value ≤ high)
  return value

/-- The number of days of a month. -/
def daysOf (year month : Nat) : Nat :=
  if month == 2 then
    if year % 4 == 0 && (year % 100 != 0 || year % 400 == 0) then 29 else 28
  else if [4, 6, 9, 11].contains month then 30
  else 31

/-- Takes a date. -/
def date : Reader Unit := do
  let year ← field 4 0 9999
  let _ ← char '-'
  let month ← field 2 1 12
  let _ ← char '-'
  let _ ← field 2 1 (daysOf year month)

/-- Takes a time of day. -/
def time : Reader Unit := do
  let _ ← field 2 0 23
  let _ ← char ':'
  let _ ← field 2 0 59
  let _ ← char ':'
  let _ ← field 2 0 60
  let _ ← maybe (char '.' *> takeWhile1 Char.isDigit)

/-- Takes the distance of a time from universal time. -/
def offset : Reader Unit :=
  (do let _ ← one fun c => c == 'Z' || c == 'z') <|> (do
    let _ ← one fun c => c == '+' || c == '-'
    let _ ← field 2 0 23
    let _ ← char ':'
    let _ ← field 2 0 59)

/-- Takes a date, a time or both. -/
def moment : Reader Unit :=
  (do
    date
    let _ ← maybe (do
      let _ ← one fun c => c == 'T' || c == 't' || c == ' '
      time
      let _ ← maybe offset)) <|> time

/-- Takes a date, a time or both, as it is written. -/
def datetime : Reader String := fun s =>
  (moment s).map fun (_, rest) => (String.ofList (s.take (s.length - rest.length)), rest)

/-! ## All scalars -/

/-- Takes a truth value. -/
def boolean : Reader Bool :=
  (do literal "true"; return true) <|> (do literal "false"; return false)

/-- Takes a scalar. -/
def scalar : Reader Value :=
  (.string <$> string) <|> (.boolean <$> boolean) <|> (.datetime <$> datetime) <|>
    (.float <$> (decimal <|> specialFloat)) <|> (.integer <$> integer)

end Buildwright.Toml
