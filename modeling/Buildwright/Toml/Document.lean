-- SUMMARY: Reading a TOML document.
import Buildwright.Toml.Draft
import Buildwright.Toml.Scalar

/-!
# Documents

A document is a list of lines: headers, and keys with values. `Document.parse?` gives the table that
the lines describe, or nothing if they do not describe one.
-/
namespace Buildwright.Toml

open Reader

/-! ## Keys -/

/-- Whether a character may stand in a key without quotes. -/
def isBare (c : Char) : Bool :=
  c.isAlphanum || c == '-' || c == '_'

/-- Takes a part of a key. -/
def keyPart : Reader String :=
  basicString <|> literalString <|> (String.ofList <$> takeWhile1 isBare)

/-- The number of levels, of keys and of values, that a document does not reach. -/
def tooDeep : Nat := 80

/-- Takes a key, which dots divide into parts. -/
def key : Reader (List String) := do
  let parts ← separated1 (spaces *> keyPart <* spaces) (char '.')
  require (parts.length < tooDeep)
  return parts

/-- Takes a key and its value. -/
def pair (value : Reader Value) : Reader (List String × Value) := do
  let k ← key
  let _ ← char '='
  spaces
  return (k, ← value)

/-! ## Values -/

/-- Takes a comment up to the end of its line. -/
def comment : Reader Unit := do
  let _ ← char '#'
  let _ ← takeWhile isPlain

/-- Takes what may stand between the items of an array. -/
def gap : Reader Unit := do
  let _ ← many ((do let _ ← one isSpace) <|> newline <|> comment)

/-- Takes an array with items that `value` takes; a comma may follow the last. -/
def array (value : Reader Value) : Reader Value := do
  let _ ← char '['
  let items ← separated (gap *> value <* gap) (char ',')
  if items.length != 0 then
    let _ ← maybe (char ',')
  gap
  let _ ← char ']'
  return .array items

/-- Takes a table in one line, with values that `value` takes. -/
def inlineTable (value : Reader Value) : Reader Value := do
  let _ ← char '\x7b'
  let pairs ← separated (pair value <* spaces) (char ',')
  spaces
  let _ ← char '\x7d'
  let d ← ofOption (Draft.addValues pairs [])
  return .table (entriesValue d)

/-- Takes a value in which arrays and tables nest at most `depth` levels. -/
def value : Nat → Reader Value
  | 0 => scalar
  | depth + 1 => scalar <|> array (value depth) <|> inlineTable (value depth)

/-! ## Lines -/

/-- A line of a document that says something. -/
inductive Line where
  /-- A header that states a table. -/
  | table (path : List String)
  /-- A header that adds a table to others of its name. -/
  | element (path : List String)
  /-- A key with its value. -/
  | pair (key : List String) (v : Value)

/-- Takes the end of a line, which the end of the document may be. -/
def lineEnd : Reader Unit := do
  spaces
  let _ ← maybe comment
  newline <|> finish

/-- Takes a header or a key with its value. -/
def content : Reader Line :=
  (do literal "[["; let path ← key; literal "]]"; return .element path) <|>
    (do literal "["; let path ← key; literal "]"; return .table path) <|>
    (do let (k, v) ← pair (value (tooDeep - 1)); return .pair k v)

/-- Takes a line. -/
def line : Reader (Option Line) := do
  spaces
  let said ← maybe content
  lineEnd
  return said

/-- A header with the keys and values below it. -/
structure Section where
  header : Option Line
  pairs : List (List String × Value)

/-- The lines of a document in sections; the first has no header. -/
def sections (header : Option Line) (pairs : List (List String × Value)) : List Line → List Section
  | [] => [⟨header, pairs.reverse⟩]
  | .pair k v :: rest => sections header ((k, v) :: pairs) rest
  | l :: rest => ⟨header, pairs.reverse⟩ :: sections (some l) [] rest

/-- Adds a section to a document. -/
def addSection (d : Draft) (s : Section) : Option Draft :=
  match s.header with
  | some (.table path) => do
    let last ← path.getLast?
    d.changeAt (Draft.addTable last s.pairs) path.dropLast
  | some (.element path) => do
    let last ← path.getLast?
    d.changeAt (Draft.addElement last s.pairs) path.dropLast
  | _ => d.addValues s.pairs

/-- Takes the lines of a document; a byte order mark may precede them. -/
def document : Reader (List Line) := do
  let _ ← maybe (char (Char.ofNat 0xFEFF))
  return (← many line).filterMap id

/-- The table that a document describes. -/
def parse? (s : String) : Option Table := do
  let lines ← document.parse? s
  let d ← (sections none [] lines).foldlM addSection []
  return entriesValue d

end Buildwright.Toml
