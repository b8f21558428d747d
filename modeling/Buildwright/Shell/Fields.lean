-- SUMMARY: Fields while they are put together from the parts of a word.
import Buildwright.Shell.CharClass

/-!
# Fields

A word becomes any number of fields. Values that stand outside of quotes are split at separators: blanks
among these end a field if there is one, and others end one even if nothing is in it.
-/
namespace Buildwright.Shell

/-- Fields while they are put together, the last of them first, with its last character first. -/
structure Fields where
  done : List (List Marked) := []
  current : List Marked := []
  /-- Whether the last field is there, even if nothing is in it. -/
  begun : Bool := false
  /-- Whether blanks have just ended a field, so that a separator behind them ends none. -/
  blank : Bool := false
  /-- Whether the last field comes from a list that was to be kept as it is. -/
  kept : Bool := false

namespace Fields

/-- The separators that do not count at the ends of values. -/
def blanks : List Char := [' ', '\t', '\n']

/-- Adds characters to the field that grows. -/
def add (cs : List Marked) (f : Fields) : Fields :=
  if cs.isEmpty then f else { f with current := cs.reverseAux f.current, begun := true, blank := false }

/-- Says that there is a field, even if nothing is in it. -/
def begin (f : Fields) : Fields :=
  { f with begun := true, blank := false }

/-- Ends the field that grows. -/
def close (f : Fields) : Fields :=
  { f with done := f.current :: f.done, current := [], begun := false }

/-- Adds a blank separator. -/
def addBlank (f : Fields) : Fields :=
  if f.begun then { f.close with blank := true } else f

/-- Adds a character of a value that is split. -/
def addSplitChar (separators : List Char) (f : Fields) (c : Char) : Fields :=
  if !separators.contains c then f.add [(c, false)]
  else if blanks.contains c then f.addBlank
  else if f.blank then { f with blank := false }
  else f.close

/-- Adds a value that is split at separators. -/
def addSplit (separators : List Char) (value : List Char) (f : Fields) : Fields :=
  value.foldl (addSplitChar separators) { f with blank := false, kept := false }

/-- Adds values that are split at separators and between each other. -/
def addSplitAll (separators : List Char) (f : Fields) : List String → Fields
  | [] => f
  | [value] => f.addSplit separators value.toList
  | value :: rest =>
    addSplitAll separators (addBlank (f.addSplit separators value.toList)) rest

/-- Adds values, each as a field of its own. -/
def addEach (f : Fields) : List String → Fields
  | [] => f
  | [value] => { f.add (mark true value) with kept := true }
  | value :: rest => addEach (f.add (mark true value)).close rest

/-- All fields. -/
def all (f : Fields) : List (List Marked) :=
  ((if f.begun || f.kept then f.close else f).done.map List.reverse).reverse

/-- What has been added as a single text. -/
def flat (f : Fields) : List Marked :=
  f.all.flatten

end Fields
end Buildwright.Shell
