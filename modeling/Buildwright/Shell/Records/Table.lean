-- SUMMARY: Tables of programs on records, and the order in which their keys are gone through.
import Buildwright.Shell.Records.Value
import Std.Data.HashMap

/-!
# Tables of programs on records

A table holds values for keys. A key that is given as a whole number is the same as its digits. Keys are
gone through in the order of chains, to which they belong by their hash; in a chain, the key that has been
used last comes first. Chains of whole numbers are kept apart until the first key that is a text is used.
-/
namespace Buildwright.Shell.Records

/-- A key as it is given. -/
inductive Key where
  | number (n : Int)
  | text (s : String)

namespace Key

/-- The text that a key stands for. -/
def shown : Key → String
  | number n => toString n
  | text s => s

/-- The key that a value stands for; numbers that are not whole are written in a certain way. -/
def ofValue (written : Float → String) : Value → Key
  | .number x => if isWhole x && x.abs < 9.0e18 then number (truncated x) else text (written x)
  | v => text (v.toText written)

end Key

/-- A table. -/
structure Table where
  values : Std.HashMap String Value := {}
  /-- Whether the keys that are numbers are in the chains of texts, too. -/
  isNamed : Bool := false
  texts : Array (List String) := Array.replicate 64 []
  numbers : Array (List Int) := Array.replicate 64 []
  deriving Inhabited

namespace Table

/-- The length of the chains at which their number is doubled. -/
def chainLimit : Nat := 12

/-- The hash of a text of bytes. -/
def hash (s : String) : Nat :=
  (s.toList.foldl (fun (h : UInt32) c => (h ^^^ UInt32.ofNat c.toNat) * 16777619) 2166136261).toNat

/-- A chain with an element at its front. -/
def front {α : Type} [BEq α] (a : α) (chain : List α) : List α := a :: chain.erase a

/-- The chain of a text. -/
def textPlace (t : Table) (s : String) : Nat := hash s % t.texts.size

/-- The chain of a number. -/
def numberPlace (t : Table) (n : Int) : Nat := (n % Int.ofNat t.numbers.size).toNat

/-- The table with the keys that are numbers in the chains of texts. -/
def withNames (t : Table) : Table :=
  if t.isNamed then t
  else
    let all := t.numbers.toList.flatMap fun chain => chain.map fun n => toString n
    { t with
      isNamed := true
      texts := all.foldl (fun a s => a.modify (hash s % a.size) (s :: ·)) t.texts }

/-- The table with twice as many chains. -/
def doubled (t : Table) : Table :=
  let size := 2 * t.texts.size
  let chain {α : Type} (place : α → Nat) (chains : Array (List α)) : Array (List α) :=
    Array.ofFn fun i : Fin size =>
      ((chains[i.val % chains.size]?).getD []).filter fun a => place a == i.val
  { t with
    texts := chain (fun s => hash s % size) t.texts
    numbers := chain (fun n => (n % Int.ofNat size).toNat) t.numbers }

/-- The table with room for one more key. -/
def withRoom (t : Table) : Table :=
  if chainLimit * t.texts.size < t.values.size then t.doubled else t

/-- The number of keys. -/
def size (t : Table) : Nat := t.values.size

/-- Whether a key has a value. -/
def has (t : Table) (k : Key) : Bool := t.values.contains k.shown

/-- Puts a text in front of its chain. -/
def useText (t : Table) (s : String) : Table :=
  let t := t.withNames
  { t with texts := t.texts.modify (t.textPlace s) (front s) }

/-- Puts a key, which has a value, in front of its chains. -/
def use (t : Table) (k : Key) : Table :=
  match k with
  | .text s => t.useText s
  | .number n =>
    let known := ((t.numbers[t.numberPlace n]?).getD []).contains n
    let t := if t.isNamed && !known then t.useText (toString n) else t
    { t with numbers := t.numbers.modify (t.numberPlace n) (front n) }

/-- Gives a key a value. -/
def insert (t : Table) (k : Key) (v : Value) : Table :=
  let t :=
    match k with
    | .text _ => t.withNames
    | .number _ => t
  let t := { t with values := t.values.insert k.shown v }
  t.withRoom.use k

/-- The value of a key. -/
def value (t : Table) (k : Key) : Value := (t.values[k.shown]?).getD .unset

/-- The table after a key has been used, which is there from then on. -/
def used (t : Table) (k : Key) : Table :=
  if t.has k then t.use k else t.insert k .unset

/-- The table after a key has been looked for. -/
def sought (t : Table) (k : Key) : Table :=
  if t.size == 0 then t
  else if t.has k then t.use k
  else
    match k with
    | .text _ => t.withNames
    | .number _ => t

/-- The table without a key. -/
def erase (t : Table) (k : Key) : Table :=
  let t := t.sought k
  if !t.has k then t
  else
    let s := k.shown
    let values := t.values.erase s
    if values.isEmpty then {}
    else
      let numbers := (Text.integer? s).elim t.numbers fun n =>
        if toString n == s then t.numbers.modify (t.numberPlace n) (·.erase n) else t.numbers
      { t with values, texts := t.texts.modify (t.textPlace s) (·.erase s), numbers }

/-- The keys in their order. -/
def keys (t : Table) : List String :=
  t.withNames.texts.toList.flatten

/-- The table of the parts of a text, with their numbers as keys. -/
def ofParts (parts : List String) : Table :=
  parts.zipIdx.foldl (fun t (s, i) => t.insert (.number (Int.ofNat (i + 1))) (.input s)) {}

end Table

end Buildwright.Shell.Records
