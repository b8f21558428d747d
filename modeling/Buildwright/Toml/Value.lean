-- SUMMARY: The values of a TOML document.
import Buildwright.Binary64

/-!
# TOML values

A document is a table: a list of keys with their values, in the order in which the document names
them. Dates and times are kept as they are written.
-/
namespace Buildwright.Toml

/-- A value of a document. -/
inductive Value where
  | string (s : String)
  | integer (n : Int)
  | float (x : Binary64)
  | boolean (b : Bool)
  | datetime (text : String)
  | array (items : List Value)
  /-- Tables that headers have added one after the other. -/
  | tables (items : List Value)
  | table (entries : List (String × Value))
  deriving Inhabited

/-- The keys of a table with their values. -/
abbrev Table := List (String × Value)

/-- What a value is called in messages about its place in a table. -/
def Value.typeName : Value → String
  | string _ => "string"
  | integer _ => "integer"
  | float _ => "float"
  | boolean _ => "boolean"
  | datetime _ => "datetime"
  | array _ => "array"
  | tables _ => "array of tables"
  | table _ => "inline table"

end Buildwright.Toml
