-- SUMMARY: Names in columns, down or across, within the width of a line.
import Buildwright.Text.Pieces

/-!
# Names in columns

Names stand in as many columns as fit on a line, each as wide as its widest name and the gap behind it.
Tabs fill up the columns where they reach a stop.
-/
namespace Buildwright.Text

/-- How names are laid out: the width of a line and the distance of tab stops, both of which may be zero for
    none, and whether names that follow each other stand side by side. -/
structure Grid where
  width : Nat := 80
  tab : Nat := 8
  isAcross : Bool := false

namespace Grid

/-- The least width of a column. -/
def leastColumn : Nat := 3

/-- The gap between columns. -/
def gap : Nat := 2

/-- The column of a name among `n` in as many columns. -/
def columnOf (g : Grid) (n columns i : Nat) : Nat :=
  if g.isAcross then i % columns else i / ((n + columns - 1) / columns)

/-- The widths of columns for names of these lengths. -/
def widths (g : Grid) (lengths : List Nat) (columns : Nat) : List Nat :=
  let placed := lengths.zipIdx.map fun (l, i) => (l, g.columnOf lengths.length columns i)
  (List.range columns).map fun k =>
    let own := (placed.filter (·.2 == k)).map fun (l, _) => if k + 1 == columns then l else l + gap
    own.foldl max leastColumn

/-- The number of columns: the greatest that fits. -/
def columns (g : Grid) (lengths : List Nat) : Nat :=
  let n := lengths.length
  if g.width == 0 then max 1 n
  else
    let most := min n ((g.width + leastColumn - 1) / leastColumn)
    let fits (k : Nat) : Bool := (g.widths lengths k).foldl (· + ·) 0 < g.width
    (((List.range most).map (· + 1)).reverse.find? fits).getD 1

/-- What leads from one place of a line to another one; the fuel bounds the characters. -/
def indent (tab : Nat) : Nat → Nat → Nat → List Char
  | 0, _, _ => []
  | fuel + 1, start, stop =>
    if stop ≤ start then []
    else if tab != 0 && (start + 1) / tab < stop / tab then
      '\t' :: indent tab fuel (start + tab - start % tab) stop
    else ' ' :: indent tab fuel (start + 1) stop

/-- A line of names in columns of these widths from a place on. -/
def line (g : Grid) (place : Nat) : List Nat → List String → List Char
  | _, [] => []
  | _, [name] => name.toList
  | [], name :: _ => name.toList
  | w :: widths, name :: names =>
    name.toList ++ indent g.tab w (place + name.length) (place + w) ++ line g (place + w) widths names

/-- The lines of names. -/
def lines (g : Grid) (names : List String) : List String :=
  let lengths := names.map String.length
  let columns := g.columns lengths
  let widths := g.widths lengths columns
  let rows := (names.length + columns - 1) / columns
  (List.range rows).map fun r =>
    let own := (names.zipIdx.filter fun (_, i) =>
      if g.isAcross then i / columns == r else i % rows == r).map (·.1)
    String.ofList (g.line 0 widths own)

/-- Names with commas between them, from a place of a line on. -/
def listed (g : Grid) : Nat → List String → List Char
  | _, [] => []
  | _, [name] => name.toList
  | place, name :: next :: names =>
    let place := place + name.length
    let fits := g.width == 0 || place + next.length + gap ≤ g.width
    name.toList ++ ',' :: (if fits then ' ' else '\n') ::
      listed g (if fits then place + gap else 0) (next :: names)

end Grid

end Buildwright.Text
