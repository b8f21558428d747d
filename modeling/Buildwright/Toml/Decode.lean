-- SUMMARY: Reading records, lists and choices from TOML values, and the ways in which values do not fit.
import Buildwright.Text.Quoted
import Buildwright.Toml.Value

/-!
# Decoding

A decoder reads a value of some type from a TOML value. Records come from tables, whose keys have to
be names of fields, or from arrays, whose items are the fields in order. A record is decoded by
setting the fields of a start value one after the other, so a field that is not mentioned keeps what
the start value has.
-/
namespace Buildwright.Toml

/-- The ways in which a value does not fit. -/
inductive DecodeError where
  /-- A table has a key that is not the name of a field. -/
  | unknownField (name : String) (fields : List String)
  /-- A field that has to be there is missing. -/
  | missingField (name : String)
  /-- A text is not the name of a choice. -/
  | unknownVariant (name : String) (variants : List String)
  /-- A value has another type than the expected one. -/
  | wrongType (found : Value) (expected : String)
  /-- An array ends before a field that has to be there. -/
  | tooShort (length : Nat) (expected : String)
  /-- A choice is neither a text nor a table. -/
  | noChoice
  /-- The table of a choice is empty. -/
  | emptyChoice
  /-- The table of a choice has several keys. -/
  | severalChoices
  /-- The only key of a choice's table has a value that says something. -/
  | choiceContent (found : Value)

namespace DecodeError

/-- A value of a wrong type as a message shows it. -/
def describe : Value → String
  | .string s => "string " ++ Text.quoted s
  | .integer n => "integer `" ++ toString n ++ "`"
  | .float x => "floating point `" ++ x.text ++ "`"
  | .boolean b => "boolean `" ++ toString b ++ "`"
  | .array _ | .tables _ => "sequence"
  | .datetime _ | .table _ => "map"

/-- Names to choose from, as a message shows them. -/
def alternatives (names : List String) : String :=
  let quoted := names.map fun name => "`" ++ name ++ "`"
  match quoted with
  | [] => ""
  | [a] => a
  | [a, b] => a ++ " or " ++ b
  | _ => "one of " ++ Text.joined ", " quoted

/-- The wording of an error. -/
def message : DecodeError → String
  | unknownField name fields =>
    "unknown field `" ++ name ++ "`, expected " ++ alternatives fields
  | missingField name => "missing field `" ++ name ++ "`"
  | unknownVariant name variants =>
    "unknown variant `" ++ name ++ "`, expected " ++ alternatives variants
  | wrongType found expected => "invalid type: " ++ describe found ++ ", expected " ++ expected
  | tooShort length expected => "invalid length " ++ toString length ++ ", expected " ++ expected
  | noChoice => "wanted string or table"
  | emptyChoice => "wanted exactly 1 element, found 0 elements"
  | severalChoices => "wanted exactly 1 element, more than 1 element"
  | choiceContent (.array _) | choiceContent (.table _) => "expected empty table"
  | choiceContent (.tables _) => "expected empty array"
  | choiceContent found => "expected table, found " ++ found.typeName

end DecodeError

/-- Reads a value of a type from a TOML value. -/
abbrev Decoder (α : Type) := Value → Except DecodeError α

namespace Decoder

variable {α : Type}

/-- Reads a text; `expected` says what it is for. -/
def text (expected : String) : Decoder String
  | .string s => .ok s
  | v => .error (.wrongType v expected)

/-- Reads a truth value. -/
def boolean : Decoder Bool
  | .boolean b => .ok b
  | v => .error (.wrongType v "a boolean")

/-- Reads a list. -/
def list (item : Decoder α) : Decoder (List α)
  | .array items | .tables items => items.mapM item
  | v => .error (.wrongType v "a sequence")

/-- Reads a value that need not be there. -/
def present (d : Decoder α) : Decoder (Option α) := fun v =>
  (d v).map some

/-- The choice with a name. -/
def named (variants : List (String × α)) (name : String) : Except DecodeError α :=
  match variants.lookup name with
  | some a => .ok a
  | none => .error (.unknownVariant name (variants.map (·.1)))

/-- Whether a value says nothing. -/
def isBare : Value → Bool
  | .array items | .tables items => items.isEmpty
  | .table entries => entries.isEmpty
  | _ => false

/-- Reads a choice: its name, or a table with the name as its only key and nothing as its value. -/
def choice (variants : List (String × α)) : Decoder α
  | .string name => named variants name
  | .table [] => .error .emptyChoice
  | .table [(name, content)] => do
    let a ← named variants name
    if isBare content then .ok a else .error (.choiceContent content)
  | .table _ => .error .severalChoices
  | _ => .error .noChoice

end Decoder

/-! ## Records -/

/-- A field of a record of type `σ`: how a value sets it, and whether it has to be there. -/
structure Field (σ : Type) where
  name : String
  required : Bool
  set : Value → σ → Except DecodeError σ

namespace Field

variable {σ α : Type}

/-- A field that may be left out. -/
def optional (name : String) (d : Decoder α) (put : α → σ → σ) : Field σ :=
  ⟨name, false, fun v s => (d v).map (put · s)⟩

/-- A field that has to be there. -/
def mandatory (name : String) (d : Decoder α) (put : α → σ → σ) : Field σ :=
  ⟨name, true, fun v s => (d v).map (put · s)⟩

end Field

/-- A type of records: its name, the record from which decoding starts, and the fields in order. -/
structure RecordType (σ : Type) where
  name : String
  start : σ
  fields : List (Field σ)

namespace RecordType

variable {σ : Type}

/-- What a value of the type is called. -/
def expected (t : RecordType σ) : String :=
  "struct " ++ t.name

/-- What an array of the type is called. -/
def expectedItems (t : RecordType σ) : String :=
  t.expected ++ " with " ++ toString t.fields.length ++ " elements"

/-- Sets the field that a key names. -/
def setEntry (t : RecordType σ) (s : σ) (e : String × Value) : Except DecodeError σ :=
  match t.fields.find? (·.name = e.1) with
  | some f => f.set e.2 s
  | none => .error (.unknownField e.1 (t.fields.map (·.name)))

/-- Reads a record from a table: key by key, and then looks for fields that are missing. -/
def ofEntries (t : RecordType σ) (entries : Table) : Except DecodeError σ := do
  let s ← entries.foldlM t.setEntry t.start
  match t.fields.find? fun f => f.required && !(entries.map (·.1)).contains f.name with
  | some f => .error (.missingField f.name)
  | none => .ok s

/-- Sets fields from the items of an array, of which the first sets the field number `n`. Items that
    no field is left for do not count. -/
def setItems (t : RecordType σ) : Nat → List (Field σ) → List Value → σ → Except DecodeError σ
  | _, [], _, s => .ok s
  | n, f :: fields, [], s =>
    if f.required then .error (.tooShort n t.expectedItems) else t.setItems (n + 1) fields [] s
  | n, f :: fields, v :: items, s => do t.setItems (n + 1) fields items (← f.set v s)

/-- The key under which a date or a time stands when it is taken for a table. -/
def datetimeKey : String := "$__toml_private_datetime"

/-- Reads a record. -/
def decoder (t : RecordType σ) : Decoder σ
  | .table entries => t.ofEntries entries
  | .array items | .tables items => t.setItems 0 t.fields items t.start
  | .datetime text => t.ofEntries [(datetimeKey, .string text)]
  | v => .error (.wrongType v t.expected)

end RecordType
end Buildwright.Toml
