-- SUMMARY: Tables while a TOML document is read, and where further keys may go.
import Buildwright.Toml.Value

/-!
# Drafts

While a document is read, a table remembers how it came to be, because that decides what may still
be added to it: a table is stated once, dotted keys extend only tables that dotted keys have made, and
a header may state a table that was only implied by a longer header.
-/
namespace Buildwright.Toml

/-- How a table came to be. -/
inductive Origin where
  /-- By a header of its own. -/
  | stated
  /-- By the header of a table within it. -/
  | implied
  /-- By a dotted key. -/
  | dotted
  deriving DecidableEq

/-- What a key stands for. -/
inductive Node where
  /-- A value, to which nothing can be added. -/
  | value (v : Value)
  /-- A table. -/
  | table (origin : Origin) (entries : List (String × Node))
  /-- Tables that headers have added one after the other. -/
  | elements (tables : List (List (String × Node)))

/-- A table while it is read. -/
abbrev Draft := List (String × Node)

namespace Draft

/-- The table with `n` at a key that it has. -/
def put (d : Draft) (key : String) (n : Node) : Draft :=
  d.map fun e => if e.1 = key then (key, n) else e

/-- Changes the table at the end of a path of keys. Tables that are missing on the way are implied,
    and of several tables that headers have added the last is meant. -/
def changeAt (f : Draft → Option Draft) : List String → Draft → Option Draft
  | [], d => f d
  | key :: path, d =>
    match d.lookup key with
    | none => (changeAt f path []).map fun inner => d ++ [(key, .table .implied inner)]
    | some (.value _) => none
    | some (.table origin inner) => (changeAt f path inner).map fun inner =>
        d.put key (.table origin inner)
    | some (.elements tables) =>
      match tables.reverse with
      | [] => none
      | last :: before => (changeAt f path last).map fun last =>
          d.put key (.elements (before.reverse ++ [last]))

/-- Adds a value under a dotted key, given as the path in front of its last part and that part. -/
def addValue (key : String) (v : Value) : List String → Draft → Option Draft
  | [], d => if (d.lookup key).isSome then none else some (d ++ [(key, .value v)])
  | part :: path, d =>
    match d.lookup part with
    | none => (addValue key v path []).map fun inner => d ++ [(part, .table .dotted inner)]
    | some (.table .dotted inner) => (addValue key v path inner).map fun inner =>
        d.put part (.table .dotted inner)
    | some (.table .implied inner) =>
      if path = [] then none
      else (addValue key v path inner).map fun inner => d.put part (.table .implied inner)
    | some (.elements tables) =>
      match path, tables.reverse with
      | _ :: _, last :: before => (addValue key v path last).map fun last =>
          d.put part (.elements (before.reverse ++ [last]))
      | _, _ => none
    | some (.table .stated _) | some (.value _) => none

/-- Adds values under dotted keys in turn. -/
def addValues (pairs : List (List String × Value)) (d : Draft) : Option Draft :=
  pairs.foldlM (fun d (key, v) =>
    match key.reverse with
    | [] => none
    | last :: before => d.addValue last v before.reverse) d

/-- States the table with a header and fills it. A table that was implied keeps what it holds and
    moves behind the other keys. -/
def addTable (key : String) (pairs : List (List String × Value)) (d : Draft) : Option Draft :=
  match d.lookup key with
  | none => (addValues pairs []).map fun inner => d ++ [(key, .table .stated inner)]
  | some (.table .implied old) => (addValues pairs old).map fun inner =>
      d.filter (·.1 != key) ++ [(key, .table .stated inner)]
  | some _ => none

/-- Adds a table to those that headers have added under a key. -/
def addElement (key : String) (pairs : List (List String × Value)) (d : Draft) : Option Draft :=
  match d.lookup key with
  | none => (addValues pairs []).map fun inner => d ++ [(key, .elements [inner])]
  | some (.elements tables) => (addValues pairs []).map fun inner =>
      d.put key (.elements (tables ++ [inner]))
  | some _ => none

end Draft

mutual

/-- The value that a key stands for. -/
def Node.toValue : Node → Value
  | .value v => v
  | .table _ entries => .table (entriesValue entries)
  | .elements tables => .tables (tableValues tables)

/-- A key with the value that it stands for. -/
def entryValue : String × Node → String × Value
  | (key, n) => (key, n.toValue)

/-- The keys of a table with the values that they stand for. -/
def entriesValue : List (String × Node) → Table
  | [] => []
  | e :: rest => entryValue e :: entriesValue rest

/-- Tables as values. -/
def tableValues : List (List (String × Node)) → List Value
  | [] => []
  | entries :: rest => .table (entriesValue entries) :: tableValues rest

end

end Buildwright.Toml
