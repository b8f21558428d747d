-- SUMMARY: The differences of lists of lines, and the forms in which they are shown.
import Buildwright.Shell.Utility.Basic

/-!
# Differences

Two lists of lines differ in those outside of a longest common subsequence. The places where they differ
can be shown as commands that make one list of the other, with lines around them, or side by side.
-/
namespace Buildwright.Shell.Utility

/-! ## Places where lines differ -/

/-- The lengths of the longest common subsequences of a line in front of some lines and the ends of
    others, from those without the line. -/
def subsequenceRow (same : Bool → Bool) (x : String) (eq : String → String → Bool) :
    List String → List Nat → List Nat
  | [], _ => [0]
  | y :: ys, below =>
    let rest := subsequenceRow same x eq ys (below.drop 1)
    let here :=
      if same (eq x y) then (below.drop 1).headD 0 + 1 else max (below.headD 0) (rest.headD 0)
    here :: rest

/-- The lengths of the longest common subsequences of all ends of two lists of lines, row by row. -/
def subsequenceTable (eq : String → String → Bool) (ys : List String) : List String → List (List Nat)
  | [] => [List.replicate (ys.length + 1) 0]
  | x :: xs =>
    let rows := subsequenceTable eq ys xs
    subsequenceRow id x eq ys (rows.headD []) :: rows

/-- A step from one file to another. -/
inductive Edit where
  | keep
  | delete
  | insert
  deriving DecidableEq

/-- The steps from some lines to others, along a table of common subsequences. -/
def editsAlong (eq : String → String → Bool) :
    Nat → List String → List String → List (List Nat) → List Edit
  | 0, _, _, _ => []
  | _, [], ys, _ => ys.map fun _ => .insert
  | _, xs, [], _ => xs.map fun _ => .delete
  | n + 1, x :: xs, y :: ys, rows =>
    let next := rows.drop 1
    if eq x y then .keep :: editsAlong eq n xs ys (next.map (·.drop 1))
    else if ((rows.headD []).drop 1).headD 0 ≤ (next.headD []).headD 0 then
      .delete :: editsAlong eq n xs (y :: ys) next
    else .insert :: editsAlong eq n (x :: xs) ys (rows.map (·.drop 1))

/-- A place where files differ: the lines that are left out of the first one and those that the second
    one has instead, each as the number of lines in front and the lines themselves. -/
structure Hunk where
  start : Nat
  old : List String
  start' : Nat
  new : List String

/-- The places where files differ. -/
def hunksOf : Nat → Nat → List String → List String → List Edit → List Hunk
  | i, j, _ :: xs, _ :: ys, .keep :: es => hunksOf (i + 1) (j + 1) xs ys es
  | i, j, x :: xs, ys, .delete :: es =>
    match hunksOf (i + 1) j xs ys es with
    | h :: rest =>
      if h.start == i + 1 && h.start' == j then ⟨i, x :: h.old, j, h.new⟩ :: rest
      else ⟨i, [x], j, []⟩ :: h :: rest
    | [] => [⟨i, [x], j, []⟩]
  | i, j, xs, y :: ys, .insert :: es =>
    match hunksOf i (j + 1) xs ys es with
    | h :: rest =>
      if h.start == i && h.start' == j + 1 then ⟨i, h.old, j, y :: h.new⟩ :: rest
      else ⟨i, [], j, [y]⟩ :: h :: rest
    | [] => [⟨i, [], j, [y]⟩]
  | _, _, _, _, _ => []

/-- The places where lists of lines differ. -/
def differences (eq : String → String → Bool) (xs ys : List String) : List Hunk :=
  let table := subsequenceTable eq ys xs
  hunksOf 0 0 xs ys (editsAlong eq (xs.length + ys.length + 1) xs ys table)

/-- The numbers of the first and the last of some lines. -/
def lineRange (start count : Nat) : String :=
  if count == 0 then toString start
  else if count == 1 then toString (start + 1)
  else toString (start + 1) ++ "," ++ toString (start + count)

/-- The lines of a hunk with a sign in front. A line that ends the file without a line end is said to do
    so. -/
def signedLines (sign : String) (unended : Option Nat) (start : Nat) (lines : List String) : String :=
  String.join ((lines.zipIdx).map fun (l, i) =>
    sign ++ l ++ "\n" ++
      if unended == some (start + i) then "\x5c No newline at end of file\n" else "")

/-! ## Commands -/

/-- A file that is compared: its lines, and the number of the one that has no end. -/
structure Compared where
  lines : List String
  unended : Option Nat

/-- The lines of bytes. -/
def Compared.ofBytes (b : Bytes) : Compared :=
  let (lines, isEnded) := linesOf b
  ⟨lines, if isEnded then none else some (lines.length - 1)⟩

/-- A hunk in the usual form. -/
def Hunk.normal (a b : Compared) (h : Hunk) : String :=
  let letter := if h.old.isEmpty then "a" else if h.new.isEmpty then "d" else "c"
  lineRange h.start h.old.length ++ letter ++ lineRange h.start' h.new.length ++ "\n" ++
    signedLines "< " a.unended h.start h.old ++
    (if letter == "c" then "---\n" else "") ++
    signedLines "> " b.unended h.start' h.new

/-- The text that a command for an editor adds: lines up to one with a dot. A line that is a dot is added as two
    of them, of which one is then removed. -/
def addedText : List String → String
  | [] => ".\n"
  | [l] => if l == "." then "..\n.\ns/.//\n" else l ++ "\n.\n"
  | l :: rest => (if l == "." then "..\n.\ns/.//\na\n" else l ++ "\n") ++ addedText rest

/-- A hunk as a command for an editor. -/
def Hunk.command (h : Hunk) : String :=
  let range := lineRange h.start h.old.length
  if h.new.isEmpty then range ++ "d\n"
  else range ++ (if h.old.isEmpty then "a" else "c") ++ "\n" ++ addedText h.new

/-- A hunk as commands that name lines of the first list and how many there are. -/
def Hunk.counted (b : Compared) (h : Hunk) : String :=
  let removed := h.old.length
  (if h.old.isEmpty then "" else "d" ++ toString (h.start + 1) ++ " " ++ toString removed ++ "\n") ++
    if h.new.isEmpty then ""
    else "a" ++ toString (h.start + removed) ++ " " ++ toString h.new.length ++ "\n" ++
      signedLines "" b.unended h.start' h.new

/-! ## Lines around hunks -/

/-- Hunks that are at most a number of lines apart. -/
def nearHunks (distance : Nat) (hs : List Hunk) : List (List Hunk) :=
  hs.splitBy fun g h => h.start ≤ g.start + g.old.length + distance

/-- The range of lines in the heading of hunks with context. -/
def unifiedRange (start count : Nat) : String :=
  let first := if count == 0 then start else start + 1
  if count == 1 then toString first else toString first ++ "," ++ toString count

/-- The lines of hunks and what stands between them, up to a line. -/
def unifiedBody (a b : Compared) (stop : Nat) : Nat → List Hunk → String
  | i, [] => signedLines " " a.unended i ((a.lines.drop i).take (stop - i))
  | i, h :: rest =>
    signedLines " " a.unended i ((a.lines.drop i).take (h.start - i)) ++
      signedLines "-" a.unended h.start h.old ++ signedLines "+" b.unended h.start' h.new ++
      unifiedBody a b stop (h.start + h.old.length) rest

/-- Hunks with lines around them. -/
def unified (context : Nat) (a b : Compared) (hs : List Hunk) : String :=
  String.join ((nearHunks (2 * context) hs).map fun group =>
    match group with
    | [] => ""
    | h :: _ =>
      let last := group.getLast?.getD h
      let before := min context h.start
      let stop := min a.lines.length (last.start + last.old.length + context)
      let start := h.start - before
      let start' := h.start' - before
      let count := stop - start
      let count' := last.start' + last.new.length + (stop - (last.start + last.old.length)) - start'
      "@@ -" ++ unifiedRange start count ++ " +" ++ unifiedRange start' count' ++ " @@\n" ++
        unifiedBody a b stop start group)

/-- The last line of a range in the heading of a list, with the first one if there are several. -/
def contextRange (start count : Nat) : String :=
  if count ≤ 1 then toString (start + count) else toString (start + 1) ++ "," ++ toString (start + count)

/-- The lines of one list from a line up to another one, those of hunks behind their signs. Each hunk is given by
    its sign, its first line and its lines. -/
def contextBody (k : Compared) (stop : Nat) : Nat → List (String × Nat × List String) → String
  | i, [] => signedLines "  " k.unended i ((k.lines.drop i).take (stop - i))
  | i, (sign, start, lines) :: rest =>
    signedLines "  " k.unended i ((k.lines.drop i).take (start - i)) ++
      signedLines sign k.unended start lines ++ contextBody k stop (start + lines.length) rest

/-- Hunks with lines around them, for each list apart. -/
def contextual (context : Nat) (a b : Compared) (hs : List Hunk) : String :=
  String.join ((nearHunks (2 * context) hs).map fun group =>
    match group with
    | [] => ""
    | h :: _ =>
      let last := group.getLast?.getD h
      let before := min context h.start
      let stop := min a.lines.length (last.start + last.old.length + context)
      let start := h.start - before
      let start' := h.start' - before
      let stop' := last.start' + last.new.length + (stop - (last.start + last.old.length))
      let old := group.map fun h => (if h.new.isEmpty then "- " else "! ", h.start, h.old)
      let new := group.map fun h => (if h.old.isEmpty then "+ " else "! ", h.start', h.new)
      "***************\n*** " ++ contextRange start (stop - start) ++ " ****\n" ++
        (if group.all (·.old.isEmpty) then "" else contextBody a stop start old) ++
        "--- " ++ contextRange start' (stop' - start') ++ " ----\n" ++
        (if group.all (·.new.isEmpty) then "" else contextBody b stop' start' new))

/-! ## Side by side -/

/-- How two lists are shown side by side. -/
structure SideBySide where
  /-- The columns of a line of output. -/
  width : Nat := 130
  /-- Whether blanks stand for tabulators. -/
  expands : Bool := false
  /-- Whether lines of which there are two alike are left out. -/
  suppresses : Bool := false
  /-- Whether lines of which there are two alike are shown on the left alone. -/
  leftOnly : Bool := false

namespace SideBySide

/-- The columns of each side, and the column at which the right one begins. -/
def sides (k : SideBySide) : Nat × Nat :=
  let unit := if k.expands then 1 else 8
  let right := (k.width + unit + 3) / (2 * unit) * unit
  let half := min (right - 3) (k.width - right)
  (half, if half == 0 then k.width else right)

/-- The blanks from one column to another. -/
def gap (k : SideBySide) (column stop : Nat) : List Char :=
  let inTabs := stop / 8 * 8
  if !k.expands && column / 8 < stop / 8 then
    List.replicate (stop / 8 - column / 8) '\t' ++ List.replicate (stop - inTabs) ' '
  else List.replicate (stop - column) ' '

/-- As much of a line as there is room for, and the column behind it. -/
def half (k : SideBySide) (bound : Nat) (line : String) : List Char × Nat :=
  let (out, _, column) := line.toList.foldl (fun ((out, read, column) : List Char × Nat × Nat) c =>
    if c == '\t' then
      let stop := read + (8 - read % 8)
      if read != column then (out, stop, column)
      else if k.expands then
        (List.replicate (min stop bound - column) ' ' ++ out, stop, min stop bound)
      else if stop < bound then (c :: out, stop, stop)
      else (out, stop, column)
    else if read < bound then (c :: out, read + 1, read + 1)
    else (out, read + 1, column)) ([], 0, 0)
  (out.reverse, column)

/-- A line of output: the lines on both sides, each with whether it has an end, and the sign between them. -/
def row (k : SideBySide) (left : Option (String × Bool)) (sign : Char) (right : Option (String × Bool)) :
    String :=
  let (bound, start) := k.sides
  let (shown, column) := (left.map fun x => k.half bound x.1).getD ([], 0)
  let isEnded (x : Option (String × Bool)) : Bool := x.any (·.2)
  let sign :=
    if sign == '|' && isEnded left != isEnded right then if isEnded left then '/' else '\x5c' else sign
  let place := (bound + start - 1) / 2
  let (shown, column) :=
    if sign == ' ' then (shown, column) else (shown ++ k.gap column place ++ [sign], max column place + 1)
  let shown :=
    match right with
    | some (line, _) => if line == "" then shown else shown ++ k.gap column start ++ (k.half bound line).1
    | none => shown
  String.ofList shown ++ if isEnded left || isEnded right then "\n" else ""

/-- The lines of a list from one on, each with whether it has an end. -/
def linesFrom (c : Compared) (start count : Nat) : List (String × Bool) :=
  (((c.lines.drop start).take count).zipIdx start).map fun (l, i) => (l, c.unended != some i)

/-- Lines of which both lists have the same number and that count as equal. -/
def common (k : SideBySide) (a b : Compared) (start start' count : Nat) : String :=
  if k.suppresses then ""
  else
    let right := linesFrom b start' count
    String.join ((linesFrom a start count).zip right |>.map fun (x, y) =>
      if k.leftOnly then k.row (some x) '(' none else k.row (some x) ' ' (some y))

/-- The lines of a hunk: pairs first, and then what is left of one side. -/
def hunk (k : SideBySide) (a b : Compared) (h : Hunk) : String :=
  let left := linesFrom a h.start h.old.length
  let right := linesFrom b h.start' h.new.length
  let pairs := (left.zip right).map fun (x, y) => k.row (some x) '|' (some y)
  let added := (right.drop left.length).map fun y => k.row none '>' (some y)
  let removed := (left.drop right.length).map fun x => k.row (some x) '<' none
  String.join (pairs ++ added ++ removed)

/-- Two lists side by side, from a line of each on. -/
def text (k : SideBySide) (a b : Compared) : Nat → Nat → List Hunk → String
  | i, j, [] => k.common a b i j (a.lines.length - i)
  | i, j, h :: rest =>
    k.common a b i j (h.start - i) ++ k.hunk a b h ++
      k.text a b (h.start + h.old.length) (h.start' + h.new.length) rest

end SideBySide

end Buildwright.Shell.Utility
