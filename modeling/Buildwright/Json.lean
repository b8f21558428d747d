-- SUMMARY: JSON documents in a layout for readers.
import Buildwright.Path
import Buildwright.Text.Quoted

/-!
# JSON

A document is written with one item a line, each level two spaces further in.
-/
namespace Buildwright

/-- A JSON document without truth values and fractions. -/
inductive Json where
  | null
  | number (n : Nat)
  | string (s : String)
  | array (items : List Json)
  | object (fields : List (String × Json))

namespace Json

/-- The letters that stand for characters behind a backslash. -/
def shortEscapes : List (Char × Char) :=
  [('\x22', '\x22'), ('\x5c', '\x5c'), ('\x08', 'b'), ('\x0c', 'f'), ('\n', 'n'), ('\r', 'r'),
    ('\t', 't')]

/-- A character as it stands in a string. -/
def escaped (c : Char) : List Char :=
  match shortEscapes.lookup c with
  | some letter => ['\x5c', letter]
  | none => if c.toNat < 0x20 then ['\x5c', 'u'] ++ Text.hexDigits 4 c.toNat else [c]

/-- A text as a string of a document. -/
def stringText (s : String) : String :=
  String.ofList ('\x22' :: s.toList.flatMap escaped ++ ['\x22'])

/-- The beginning of a line at a level. -/
def margin (level : Nat) : String :=
  "\n" ++ String.ofList (List.replicate (2 * level) ' ')

/-- Items between brackets, each on a line of its own. -/
def block (opening closing : String) (level : Nat) (items : List String) : String :=
  if items.isEmpty then opening ++ closing
  else
    opening ++ margin (level + 1) ++ Text.joined ("," ++ margin (level + 1)) items ++
      margin level ++ closing

mutual

/-- A document at a level. -/
def textAt (level : Nat) : Json → String
  | .null => "null"
  | .number n => toString n
  | .string s => stringText s
  | .array items => block "[" "]" level (itemTexts (level + 1) items)
  | .object fields => block "\x7b" "\x7d" level (fieldTexts (level + 1) fields)

/-- The items of an array at a level. -/
def itemTexts (level : Nat) : List Json → List String
  | [] => []
  | j :: rest => textAt level j :: itemTexts level rest

/-- A field of an object at a level. -/
def fieldText (level : Nat) : String × Json → String
  | (key, j) => stringText key ++ ": " ++ textAt level j

/-- The fields of an object at a level. -/
def fieldTexts (level : Nat) : List (String × Json) → List String
  | [] => []
  | field :: rest => fieldText level field :: fieldTexts level rest

end

/-- A document. -/
def text (j : Json) : String := textAt 0 j

/-- Texts as an array. -/
def strings (ss : List String) : Json := array (ss.map string)

/-- Paths as an array. -/
def paths (ps : List Path) : Json := strings (ps.map (·.text))

/-- A value that may be missing. -/
def option {α : Type} (f : α → Json) : Option α → Json
  | some a => f a
  | none => null

end Json
end Buildwright
