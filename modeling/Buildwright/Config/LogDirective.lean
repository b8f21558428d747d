-- SUMMARY: Directives of log filters: levels, what they are about, and how they are read and shown.
import Buildwright.Binary64
import Buildwright.Config.Pattern.Reader
import Buildwright.Text.Alphanumeric
import Buildwright.Text.Blank
import Buildwright.Text.ByteSlice
import Buildwright.Text.Number
import Buildwright.Text.Pieces

/-!
# Log directives

A directive gives a level to a target, to the spans with a name, or to the spans that have a field,
perhaps with a certain value. A directive that names none of these is about everything else.
-/
namespace Buildwright

/-! ## Levels -/

/-- How much is reported. -/
inductive LogLevel where
  | off
  | error
  | warn
  | info
  | debug
  | trace
  deriving DecidableEq, Repr

namespace LogLevel

/-- The levels with their names, by increasing detail. -/
def named : List (String × LogLevel) :=
  [("off", off), ("error", error), ("warn", warn), ("info", info), ("debug", debug),
    ("trace", trace)]

/-- The name of a level. -/
def text : LogLevel → String
  | off => "off"
  | error => "error"
  | warn => "warn"
  | info => "info"
  | debug => "debug"
  | trace => "trace"

/-- The level with a number or a name, in small or capital letters. -/
def ofText? (s : String) : Option LogLevel :=
  match Text.unsigned? UInt64.size s.toList with
  | some n => named[n]?.map (·.2)
  | none => if s = "" then some error else named.lookup s.toLower

end LogLevel

/-! ## Fields -/

/-- What the value of a field has to be. -/
inductive FieldValue where
  | boolean (b : Bool)
  | float (x : Binary64)
  | natural (n : Nat)
  /-- A whole number that is written with a minus sign. -/
  | signed (n : Int)
  /-- A text with a pattern. -/
  | like (pattern : String)
  deriving DecidableEq

namespace FieldValue

/-- The place of a value's kind among the kinds. -/
def rank : FieldValue → Nat
  | boolean _ => 0
  | float .nan => 2
  | float _ => 1
  | natural _ => 3
  | signed _ => 4
  | like _ => 5

/-- A whole number by which the values of a kind of numbers are compared. -/
def number : FieldValue → Int
  | boolean b => if b then 1 else 0
  | float x => x.scaled
  | natural n => n
  | signed n => n
  | like _ => 0

/-- The pattern of a value, for the kind that is compared by it. -/
def pattern : FieldValue → String
  | like p => p
  | _ => ""

/-- A value as a directive shows it. -/
def text : FieldValue → String
  | boolean b => toString b
  | float x => (Text.before? ".0" x.text).getD x.text
  | natural n => toString n
  | signed n => toString n
  | like p => p

instance : Ord FieldValue where
  compare := compareLex (compareOn rank) (compareLex (compareOn number) (compareOn pattern))

instance : Std.TransOrd FieldValue :=
  inferInstanceAs (Std.TransCmp fun a b : FieldValue =>
    compareLex (compareOn rank) (compareLex (compareOn number) (compareOn pattern)) a b)

/-- The value that a whole number stands for, with a sign or without one. -/
def whole? (s : List Char) : Option FieldValue :=
  match s with
  | '-' :: rest =>
    ((Text.digits? rest).filter (· ≤ Int64.size / 2)).map fun n => signed (-Int.ofNat n)
  | _ => (Text.unsigned? UInt64.size s).map natural

/-- The digits of a decimal without a sign, and the power of ten that they are multiplied with. -/
def decimal? (s : List Char) : Option (Nat × Int) := do
  let (mantissa, power) :=
    match s.span fun c => c != 'e' && c != 'E' with
    | (m, []) => (m, some 0)
    | (m, _ :: '-' :: p) => (m, (Text.digits? p).map fun n => -Int.ofNat n)
    | (m, _ :: p) => (m, (Text.digits? (if p.head? = some '+' then p.drop 1 else p)).map Int.ofNat)
  let whole := mantissa.takeWhile (· != '.')
  let behind := mantissa.drop (whole.length + 1)
  return (← Text.digits? (whole ++ behind), (← power) - behind.length)

/-- The number that a text is, which may be a decimal. -/
def float? (s : List Char) : Option Binary64 :=
  let (negative, rest) :=
    match s with
    | '-' :: rest => (true, rest)
    | '+' :: rest => (false, rest)
    | _ => (false, s)
  let name := (String.ofList rest).toLower
  if name = "inf" ∨ name = "infinity" then some (.infinite negative)
  else if name = "nan" then some .nan
  else (decimal? rest).map fun (n, power) => .ofDecimal negative n power

/-- The value that a text stands for: a truth value, a number, or else a pattern. -/
def ofText? (s : String) : Option FieldValue :=
  if s = "true" then some (boolean true)
  else if s = "false" then some (boolean false)
  else
    match whole? s.toList, float? s.toList with
    | some v, _ => some v
    | none, some x => some (float x)
    | none, none => if Pattern.isValue s.toList then some (like s) else none

end FieldValue

/-- A field that a span has to have, perhaps with a certain value. -/
structure FieldTest where
  name : String
  value : Option FieldValue
  deriving DecidableEq

namespace FieldTest

/-- The place of a field among those with and without values: one without comes first. -/
def rank (t : FieldTest) : Nat :=
  if t.value.isSome then 1 else 0

/-- The value of a field, or some value if it has none. -/
def anyValue (t : FieldTest) : FieldValue :=
  t.value.getD (.boolean false)

instance : Ord FieldTest where
  compare := compareLex (compareOn rank) (compareLex (compareOn name) (compareOn anyValue))

instance : Std.TransOrd FieldTest :=
  inferInstanceAs (Std.TransCmp fun a b : FieldTest =>
    compareLex (compareOn rank) (compareLex (compareOn name) (compareOn anyValue)) a b)

/-- The field that a text names, which an equals sign and a value may follow. -/
def ofText? (s : String) : Option FieldTest :=
  match Text.pieces '=' s with
  | name :: value :: _ => (FieldValue.ofText? value).map fun v => ⟨name, some v⟩
  | _ => some ⟨s, none⟩

/-- A field as a directive shows it. -/
def text (t : FieldTest) : String :=
  match t.value with
  | some v => t.name ++ "=" ++ v.text
  | none => t.name

end FieldTest

/-! ## Targets -/

/-- What a directive is about: a target, the spans with a name, and the spans with a field. What is not
    given does not count. -/
structure LogTarget where
  name : Option String
  span : Option String
  field : Option FieldTest
  deriving DecidableEq

namespace LogTarget

/-- Everything that no other directive is about. -/
def everything : LogTarget := ⟨none, none, none⟩

/-- The target with a name. -/
def ofName (name : String) : LogTarget := ⟨some name, none, none⟩

/-- The length of the name of a target. -/
def weight (t : LogTarget) : Nat :=
  match t.name with
  | some name => name.utf8ByteSize + 1
  | none => 0

/-- The number of the other parts of a target. -/
def parts (t : LogTarget) : Nat :=
  (if t.span.isSome then 2 else 0) + if t.field.isSome then 1 else 0

/-- The name of a target, if it has one. -/
def text (t : LogTarget) : String :=
  t.name.getD ""

/-- The name of the spans that a target is about, if it has one. -/
def spanText (t : LogTarget) : String :=
  t.span.getD ""

/-- The field that a target is about, or some field if there is none. -/
def anyField (t : LogTarget) : FieldTest :=
  t.field.getD ⟨"", none⟩

/-- Compares targets by how much they say, and then by their parts. -/
def order : LogTarget → LogTarget → Ordering :=
  compareLex (compareOn weight) (compareLex (compareOn parts) (compareLex (compareOn text)
    (compareLex (compareOn spanText) (compareOn anyField))))

instance : Std.TransCmp order :=
  inferInstanceAs (Std.TransCmp (compareLex (compareOn weight) (compareLex (compareOn parts)
    (compareLex (compareOn text) (compareLex (compareOn spanText) (compareOn anyField))))))

/-- Targets that say more come first, and among those that say as much later ones. -/
instance : Ord LogTarget where
  compare a b := order b a

instance : Std.TransOrd LogTarget :=
  inferInstanceAs (Std.TransCmp fun a b : LogTarget => order b a)

/-- Whether a target is about spans. -/
def isAboutSpans (t : LogTarget) : Bool :=
  t.span.isSome || t.field.isSome

/-- Whether a target can be told from a place in the program alone: it names no span and asks for no
    value. -/
def isFixed (t : LogTarget) : Bool :=
  t.span.isNone && (t.field.bind (·.value)).isNone

end LogTarget

/-! ## Directives -/

/-- A target with its level. -/
abbrev Directive := LogTarget × LogLevel

namespace Directive

/-- Whether a directive may begin with a character. -/
def begins (c : Char) : Bool :=
  c == '-' || c == ':' || c == '_' || Text.isAlphanumeric c

/-- The directive that a word without a level stands for: a level for everything, or else a target
    of which everything is reported. -/
def ofWord (word : String) : Directive :=
  match LogLevel.ofText? word with
  | some level => (.everything, level)
  | none => (.ofName word, .trace)

/-- A directive's text while it is read: `shown` holds its characters with their places, and `raw` those of
    the text with the blanks in front of it. Places count bytes in both, so that a part of the directive is
    taken from the text as it is. -/
structure Source where
  raw : List Char
  shown : List (Nat × Char)

namespace Source

/-- The source of a piece of a filter's text. -/
def ofPiece (piece : String) : Source :=
  ⟨piece.toList, Text.placed 0 (Text.trimmed piece.toList)⟩

/-- The character at a place. -/
def char? (s : Source) (place : Nat) : Option Char :=
  s.shown.lookup place

/-- The place of the first of some characters from a place on. -/
def find? (s : Source) (start : Nat) (cs : List Char) : Option Nat :=
  (s.shown.find? fun (place, c) => start ≤ place && cs.contains c).map (·.1)

/-- The text between two places, if no character lies across one of them. -/
def slice? (s : Source) (start stop : Nat) : Option String := do
  let rest ← Text.dropBytes? start s.raw
  return String.ofList (← Text.takeBytes? (stop - start) rest)

/-- The level from a place on, or that of full detail if there is no text. -/
def level? (s : Source) (start : Nat) : Option LogLevel :=
  match (Text.dropBytes? start s.raw).map String.ofList with
  | some "" => some .trace
  | some text => LogLevel.ofText? text
  | none => none

/-- The directive about a target that ends at a place; a level may follow an equals sign. -/
def withLevel? (s : Source) (t : LogTarget) (start : Nat) : Option Directive :=
  match s.char? start with
  | none => some (t, .trace)
  | some '=' => (s.level? (start + 1)).map (t, ·)
  | some _ => none

/-- The directive about the target with a name whose spans are described from a place on. -/
def withSpan? (s : Source) (name : Option String) (start : Nat) : Option Directive := do
  let stop ← s.find? start [']', '\x7b']
  let span ← s.slice? start stop
  if s.char? stop = some ']' then s.withLevel? ⟨name, some span, none⟩ (stop + 1)
  else
    let ending ← s.find? (stop + 1) ['\x7d']
    let field ← s.slice? (stop + 1) ending
    if field = "" || s.char? (ending + 1) ≠ some ']' then none
    else
      let test ← FieldTest.ofText? field
      s.withLevel? ⟨name, if span = "" then none else some span, some test⟩ (ending + 2)

end Source

/-- The directive that a piece of a filter's text stands for. Blanks in front of it count for the
    places of its signs and not for the parts between them. -/
def ofPiece? (piece : String) : Option Directive :=
  let s := Source.ofPiece piece
  match s.shown with
  | [] => none
  | (_, '[') :: _ => s.withSpan? none 1
  | (_, c) :: _ =>
    if !begins c then none
    else
      match s.find? 0 ['=', '['] with
      | none => some (ofWord piece)
      | some stop => do
        let name ← s.slice? 0 stop
        if s.char? stop = some '[' then s.withSpan? (some name) (stop + 1)
        else (s.level? (stop + 1)).map (.ofName name, ·)

/-- What a directive says about spans. -/
def spanText (t : LogTarget) : String :=
  let field := (t.field.map fun f => "\x7b" ++ f.text ++ "\x7d").getD ""
  if t.isAboutSpans then "[" ++ t.span.getD "" ++ field ++ "]" else ""

/-- A directive as a filter's text shows it. -/
def text : Directive → String
  | (t, level) =>
    let about := t.text ++ spanText t
    if t.name.isNone && !t.isAboutSpans then level.text else about ++ "=" ++ level.text

end Directive
end Buildwright
