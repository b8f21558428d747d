-- SUMMARY: Formatted output: conversions of texts and numbers, and escapes.
import Buildwright.Shell.Command
import Buildwright.Text.Utf8
import Buildwright.Text.Decimal

/-!
# Formatted output

A format is written with escapes, which stand for bytes, and conversions, which stand for arguments.
It is used again as long as there are arguments left. All texts are bytewise.
-/
namespace Buildwright.Shell.Format

/-! ## Conversions -/

/-- How an argument is written. -/
structure Conversion where
  flags : List Char := []
  width : Nat := 0
  precision : Option Nat := none
  letter : Char := 's'

namespace Conversion

/-- A text filled up with blanks to the width. -/
def pad (k : Conversion) (cs : List Char) : List Char :=
  let fill := List.replicate (k.width - cs.length) ' '
  if k.flags.contains '-' then cs ++ fill else fill ++ cs

/-- A number filled up to the width; zeros stand behind its sign. -/
def padNumber (k : Conversion) (zeros : Bool) (sign digits : List Char) : List Char :=
  if zeros && k.flags.contains '0' && !k.flags.contains '-' then
    sign ++ List.replicate (k.width - sign.length - digits.length) '0' ++ digits
  else k.pad (sign ++ digits)

/-- A text, of which the precision bounds the length. -/
def text (k : Conversion) (s : String) : String :=
  let cs := s.toList
  String.ofList (k.pad (cs.take (k.precision.getD cs.length)))

/-- The sign of a number. -/
def signOf (k : Conversion) (negative : Bool) : List Char :=
  if negative then ['-']
  else if k.flags.contains '+' then ['+']
  else if k.flags.contains ' ' then [' ']
  else []

/-- The digits of a number, at least as many as the precision says. -/
def digits (k : Conversion) (base n : Nat) : List Char :=
  let ds := if n == 0 && k.precision == some 0 then [] else Nat.toDigits base n
  List.replicate (k.precision.getD 1 - ds.length) '0' ++ ds

/-- A whole number with a sign. -/
def signed (k : Conversion) (n : Int) : String :=
  String.ofList (k.padNumber k.precision.isNone (k.signOf (decide (n < 0))) (k.digits 10 n.natAbs))

/-- A whole number without a sign, in the base that the letter names. -/
def unsigned (k : Conversion) (n : Nat) : String :=
  let marked := k.flags.contains '#'
  let (sign, ds) : List Char × List Char :=
    match k.letter with
    | 'o' =>
      let ds := k.digits 8 n
      ([], if marked && ds.head? != some '0' then '0' :: ds else ds)
    | 'x' => (if marked && n != 0 then ['0', 'x'] else [], k.digits 16 n)
    | 'X' => (if marked && n != 0 then ['0', 'X'] else [], (k.digits 16 n).map Char.toUpper)
    | _ => ([], k.digits 10 n)
  String.ofList (k.padNumber k.precision.isNone sign ds)

/-- A floating-point number. -/
def float (k : Conversion) (x : Binary64) : String :=
  let precision := k.precision.getD 6
  let pointed := k.flags.contains '#'
  let shown : List Char × List Char × Bool :=
    match x with
    | .nan => ([], ['n', 'a', 'n'], false)
    | .infinite negative => (k.signOf negative, ['i', 'n', 'f'], false)
    | .finite negative m q =>
      let ds :=
        match k.letter.toLower with
        | 'e' => Text.scientific precision pointed m q
        | 'g' => Text.general precision pointed m q
        | _ => Text.fixed precision pointed m q
      (k.signOf negative, ds, true)
  let (sign, ds, zeros) := shown
  String.ofList (k.padNumber zeros sign (if k.letter.isUpper then ds.map Char.toUpper else ds))

end Conversion

/-! ## Escapes -/

/-- Where escapes stand, and what they may be. -/
structure Style where
  /-- Whether hexadecimal numbers and the ends of output can be written as escapes everywhere. -/
  wide : Bool
  /-- Whether a backslash can stand in front of a double quote. -/
  quotes : Bool
  deriving DecidableEq

/-- The characters that letters after a backslash stand for. -/
def letters : List (Char × Char) :=
  [('a', '\x07'), ('b', '\x08'), ('f', '\x0c'), ('n', '\n'), ('r', '\r'), ('t', '\t'), ('v', '\x0b'),
    ('e', '\x1b'), ('\x5c', '\x5c')]

/-- Whether a character is an octal digit. -/
def isOctal (c : Char) : Bool := '0' ≤ c && c ≤ '7'

/-- The character that a number stands for. -/
def byteChar (n : Nat) : Char := Char.ofNat (n % 256)

/-- The characters that an escape stands for, and whether output ends with it. -/
structure Escape where
  chars : List Char
  last : Bool := false

/-- An escape of which the backslash has been taken, and what follows it. -/
def escape (s : Style) (cs : List Char) : Escape × List Char :=
  let octal (cs : List Char) : Escape × List Char :=
    let ds := (cs.take 3).takeWhile isOctal
    (⟨[byteChar (Text.valueOfDigits 8 ds)], false⟩, cs.drop ds.length)
  match cs with
  | [] => (⟨['\x5c'], false⟩, [])
  | c :: rest =>
    match letters.lookup c with
    | some d => (⟨[d], false⟩, rest)
    | none =>
      if isOctal c then octal cs
      else if s.quotes && c == '\x22' then (⟨[c], false⟩, rest)
      else if s.wide && c == 'c' then (⟨[], true⟩, [])
      else if s.wide && c == 'x' then
        match (rest.take 2).takeWhile (Text.isDigitOf 16) with
        | [] => (⟨['\x5c'], false⟩, cs)
        | ds => (⟨[byteChar (Text.valueOfDigits 16 ds)], false⟩, rest.drop ds.length)
      else if s.wide && (c == 'u' || c == 'U') then
        let ds := (rest.take (if c == 'u' then 4 else 8)).takeWhile (Text.isDigitOf 16)
        let n := Text.valueOfDigits 16 ds
        let all := '\x5c' :: c :: ds.map Char.toUpper
        (⟨if n < 0x80 then [Char.ofNat n] else all, false⟩, rest.drop ds.length)
      else (⟨['\x5c'], false⟩, cs)

/-- An escape in an argument, of which the backslash has been taken. A zero may stand in front of octal
    numbers, and `c` ends the output. -/
def argumentEscape (s : Style) (cs : List Char) : Escape × List Char :=
  match cs with
  | 'c' :: _ => (⟨[], true⟩, [])
  | '0' :: d :: rest => escape s (if isOctal d then d :: rest else cs)
  | _ => escape s cs

/-- The characters of an argument of at most `n` characters, with its escapes. -/
def unescapeFrom (s : Style) : Nat → List Char → Escape
  | 0, _ | _, [] => ⟨[], false⟩
  | n + 1, '\x5c' :: cs =>
    let (e, rest) := argumentEscape s cs
    if e.last then e
    else
      let more := unescapeFrom s n rest
      ⟨e.chars ++ more.chars, more.last⟩
  | n + 1, c :: cs =>
    let more := unescapeFrom s n cs
    ⟨c :: more.chars, more.last⟩

/-- The characters of an argument with its escapes. -/
def unescape (s : Style) (text : String) : Escape :=
  unescapeFrom s (text.length + 1) text.toList

/-! ## Formats -/

/-- What is wrong with a format or an argument. -/
inductive Fault where
  | notNumeric (argument : String)
  | notAllNumeric (argument : String)
  | outOfRange (argument : String)
  | noConversion (text : String)
  | unfinished (text : String)

namespace Fault

/-- Whether a fault ends the output. -/
def isFatal : Fault → Bool
  | noConversion _ | unfinished _ => true
  | _ => false

end Fault

/-- Formatted output while it grows: its texts, the last first, the faults so far, the last first, the
    arguments that are left, and whether the output has ended. -/
structure Output where
  texts : List String := []
  faults : List Fault := []
  arguments : List String
  ended : Bool := false

/-- Writes formatted output. -/
abbrev Writer := StateM Output

namespace Writer

/-- Writes a text. -/
def put (s : String) : Writer Unit :=
  modify fun o => { o with texts := s :: o.texts }

/-- Reports a fault. -/
def report (f : Fault) : Writer Unit :=
  modify fun o => { o with faults := f :: o.faults, ended := o.ended || f.isFatal }

/-- Ends the output. -/
def stop : Writer Unit :=
  modify fun o => { o with ended := true }

/-- Takes the next argument, if there is one. -/
def argument? : Writer (Option String) := do
  let o ← get
  match o.arguments with
  | [] => return none
  | a :: rest =>
    set { o with arguments := rest }
    return some a

/-- Reports what follows a number in an argument. -/
def check (argument : String) (found : Bool) (rest : List Char) : Writer Unit := do
  if !found then report (.notNumeric argument)
  else if !rest.isEmpty then report (.notAllNumeric argument)

/-- Takes an argument that is a whole number; a quote in front asks for the code of a character. -/
def integer : Writer Int := do
  match ← argument? with
  | none => return 0
  | some a =>
    match a.toList with
    | '\'' :: c :: _ | '\x22' :: c :: _ => return c.toNat
    | [] => return 0
    | cs =>
      match Text.leadingInteger? Text.leadingNatural? cs with
      | none =>
        report (.notNumeric a)
        return 0
      | some (n, rest) =>
        check a true rest
        unless Text.leastInteger ≤ n && n < UInt64.size do report (.outOfRange a)
        return n

/-- Takes an argument that is a number. -/
def float : Writer Binary64 := do
  match ← argument? with
  | none => return .zero false
  | some a =>
    match a.toList with
    | '\'' :: c :: _ | '\x22' :: c :: _ => return Text.ofFloat (Float.ofNat c.toNat)
    | [] => return .zero false
    | cs =>
      match Text.leadingBinary? cs with
      | none =>
        report (.notNumeric a)
        return .zero false
      | some (x, rest) =>
        check a true rest
        if rest.isEmpty && isBeyond x cs then report (.outOfRange a)
        return x
where
  /-- Whether a number is not the one that its digits write, since that is too large or too small. -/
  isBeyond (x : Binary64) (cs : List Char) : Bool :=
    let written := cs.takeWhile fun c => c.toLower != 'e' && c.toLower != 'p'
    match x with
    | .infinite _ => cs.any Char.isDigit
    | .finite _ 0 _ => written.any fun c => '1' ≤ c && c ≤ '9'
    | _ => false

/-- Takes a width or a precision: digits, or the number that an argument is. -/
def size? (cs : List Char) : Writer (Option Int × List Char) := do
  match cs with
  | '*' :: rest => return (some (← integer), rest)
  | _ =>
    match Text.leadingDigits? 10 cs with
    | some (n, rest) => return (some n, rest)
    | none => return (none, cs)

/-- Writes an argument as a conversion says. -/
def convert (s : Style) (k : Conversion) (directive : String) : Writer Unit := do
  match k.letter with
  | 's' => put (k.text ((← argument?).getD ""))
  | 'b' =>
    let e := unescape s ((← argument?).getD "")
    put (k.text (String.ofList e.chars))
    if e.last then stop
  | 'c' =>
    let a := (← argument?).getD ""
    let c := if a == "" && !s.wide then ['\x00'] else a.toList.take 1
    put (String.ofList (k.pad c))
  | 'd' | 'i' => put (k.signed (Text.clampInteger (← integer)))
  | 'u' | 'o' | 'x' | 'X' =>
    let n ← integer
    put (k.unsigned (if n < 0 then (n + UInt64.size).toNat else min n.toNat (UInt64.size - 1)))
  | 'e' | 'E' | 'f' | 'F' | 'g' | 'G' => put (k.float (← float))
  | _ => report (.noConversion directive)

/-- Writes a conversion, of which the percent sign has been taken, and gives what follows it. -/
def conversion (s : Style) (cs : List Char) : Writer (List Char) := do
  let flags := cs.takeWhile ['-', '+', ' ', '0', '#'].contains
  let (width, rest) ← size? (cs.drop flags.length)
  let (precision, rest) ←
    match rest with
    | '.' :: more => do
      let (n, rest) ← size? more
      pure (some (n.getD 0), rest)
    | _ => pure (none, rest)
  let shown (rest : List Char) := String.ofList ('%' :: cs.take (cs.length - rest.length))
  match rest with
  | [] =>
    report (.unfinished (shown []))
    return []
  | c :: after =>
    let width := width.getD 0
    let flags := if width < 0 then '-' :: flags else flags
    let precision := precision.bind fun n => if n < 0 then none else some n.toNat
    convert s ⟨flags, width.natAbs, precision, c⟩ (shown after)
    return after

/-- Writes a format of at most `n` characters. -/
def once (s : Style) : Nat → List Char → Writer Unit
  | 0, _ | _, [] => return ()
  | n + 1, c :: cs => do
    if (← get).ended then return ()
    match c, cs with
    | '\x5c', _ =>
      let (e, rest) := escape s cs
      put (String.ofList e.chars)
      if e.last then stop else once s n rest
    | '%', '%' :: rest =>
      put "%"
      once s n rest
    | '%', _ => do once s n (← conversion s cs)
    | _, _ =>
      let plain := (c :: cs).takeWhile fun c => c != '%' && c != '\x5c'
      put (String.ofList plain)
      once s n ((c :: cs).drop plain.length)

/-- Writes a format again as long as that takes arguments, at most `n` times more. -/
def again (s : Style) : Nat → String → Writer Unit
  | 0, _ => return ()
  | n + 1, format => do
    let before := (← get).arguments.length
    once s (format.length + 1) format.toList
    let o ← get
    unless o.ended || o.arguments.isEmpty || o.arguments.length == before do again s n format

end Writer

/-- The output of a format with arguments: its text, and the faults in order. -/
def format (s : Style) (text : String) (arguments : List String) : String × List Fault :=
  let ((), o) := Writer.again s (arguments.length + 1) text { arguments }
  (String.join o.texts.reverse, o.faults.reverse)

end Buildwright.Shell.Format
