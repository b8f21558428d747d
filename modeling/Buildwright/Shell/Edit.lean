-- SUMMARY: Scripts that edit lines: which lines a command selects, and what commands there are.
import Buildwright.Shell.Regex

/-!
# Editing lines

A script is a list of steps, each of which selects lines and does something to them. The line at hand is
in the pattern space; the hold space keeps a text from line to line.
-/
namespace Buildwright.Shell.Edit

/-! ## Which lines -/

/-- An expression that is looked for. -/
structure Search where
  regex : Regex
  /-- The number of its groups. -/
  groups : Nat := 0
  ignoresCase : Bool := false
  hasLines : Bool := false

/-- The expression of which no character but its own line ends goes over a line end. -/
def withinLines : Regex → Regex
  | .one k => .one (if k.negated then { k with ranges := ('\n', '\n') :: k.ranges } else k)
  | .seq a b => .seq (withinLines a) (withinLines b)
  | .alt a b => .alt (withinLines a) (withinLines b)
  | .many r least most => .many (withinLines r) least most
  | .group n r => .group n (withinLines r)
  | r => r

namespace Search

/-- A text in which an expression is looked for. -/
def subject (s : Search) (cs : List Char) : Regex.Subject :=
  ⟨cs.toArray, s.ignoresCase, s.hasLines⟩

/-- Whether a text has a part that an expression describes. -/
def occursIn (s : Search) (cs : List Char) : Bool :=
  s.regex.occursIn (s.subject cs)

end Search

/-- What a line is told by. -/
inductive Address where
  | line (n : Nat)
  /-- A line, and from there on every one of a number of lines. -/
  | every (first step : Nat)
  | last
  /-- A line in which an expression describes a part: the one that was used last if none is given. -/
  | found (s : Option Search)

/-- Where a range of lines ends. -/
inductive Limit where
  | reached (a : Address)
  /-- After a number of lines behind the first one. -/
  | after (n : Nat)
  /-- At a line whose number is a multiple. -/
  | multiple (n : Nat)

/-- The lines that a step selects. -/
structure Selection where
  start : Option Address := none
  limit : Option Limit := none
  /-- Whether the other lines are selected. -/
  negated : Bool := false

/-! ## Substitutions -/

/-- What happens to letters. -/
inductive Casing where
  | kept | raised | lowered

namespace Casing

/-- A letter in a case. -/
def apply : Casing → Char → Char
  | kept, c => c
  | raised, c => c.toUpper
  | lowered, c => c.toLower

end Casing

/-- A piece of what a part is replaced by. -/
inductive Piece where
  | char (c : Char)
  /-- What a group describes; the group 0 is the whole part. -/
  | group (n : Nat)
  /-- The case of what follows. -/
  | cases_ (k : Casing)
  /-- The case of the next letter. -/
  | nextCase (k : Casing)

/-- Characters while they are put together, the last one first, with the cases of what follows. -/
structure Cased where
  chars : List Char := []
  all : Casing := .kept
  next : Option Casing := none

namespace Cased

/-- Another character. -/
def add (w : Cased) (c : Char) : Cased :=
  { w with chars := (w.next.getD w.all).apply c :: w.chars, next := none }

/-- Another piece, for a part with its groups. -/
def addPiece (t : Regex.Subject) (groups : Regex.Groups) (w : Cased) : Piece → Cased
  | .char c => w.add c
  | .group n =>
    match groups.lookup n with
    | some (i, j) => (t.between i j).foldl add w
    | none => w
  | .cases_ k => { w with all := k, next := none }
  | .nextCase k => { w with next := some k }

end Cased

/-- What a part with its groups is replaced by. -/
def replacement (t : Regex.Subject) (pieces : List Piece) (i j : Nat) (groups : Regex.Groups) :
    List Char :=
  (pieces.foldl (Cased.addPiece t ((0, i, j) :: groups)) {}).chars.reverse

/-- Where a command writes to. -/
inductive Target where
  | output
  | errors
  | file (name : String)
  deriving DecidableEq

/-- A substitution: what is replaced and by what, how often, and what is done then. -/
structure Substitution where
  search : Option Search
  pieces : List Piece
  /-- The number of the first part that is replaced. -/
  first : Nat := 1
  everywhere : Bool := false
  prints : Bool := false
  runs : Bool := false
  target : Option Target := none

/-- The text with parts replaced, from a place on and after `count` parts of which the last one ended at
    `ended`, in at most `n` steps; nothing if no part is replaced. -/
def substituteFrom (s : Substitution) (r : Regex) (t : Regex.Subject) :
    Nat → Nat → Nat → Option Nat → Option (List Char)
  | 0, _, _, _ => none
  | n + 1, place, count, ended => do
    let (i, j, groups) ← r.find? t place
    let front := t.between place i
    let step (count : Nat) (ended : Option Nat) : Option (List Char) :=
      if i < j then substituteFrom s r t n j count ended
      else if i < t.chars.size then
        (substituteFrom s r t n (i + 1) count ended).map fun rest => t.between i (i + 1) ++ rest
      else none
    let behind : List Char := t.between j t.chars.size
    if i == j && ended == some i then
      (step count none).map (front ++ ·)
    else if count + 1 < s.first then
      (step (count + 1) (some j)).map fun rest => front ++ t.between i j ++ rest
    else
      let new := replacement t s.pieces i j groups
      if s.everywhere then
        some (front ++ new ++ (step (count + 1) (some j)).getD behind)
      else some (front ++ new ++ behind)

/-- The text with parts replaced; nothing if no part is replaced. -/
def substitute (s : Substitution) (search : Search) (cs : List Char) : Option (List Char) :=
  let t := search.subject cs
  substituteFrom s search.regex t (cs.length + 2) 0 0 none

/-! ## Scripts -/

/-- What a step does. -/
inductive Instruction where
  /-- Goes on behind a number of steps if the line is not selected. -/
  | block (past : Nat)
  | nothing
  | append (text : String)
  | insert (text : String)
  | change (text : String)
  | jump (label : String)
  | jumpIfReplaced (label : String)
  | jumpUnlessReplaced (label : String)
  | delete
  /-- Removes the first line of the pattern space and begins anew with what is left. -/
  | deleteLine
  /-- Runs a command, or the pattern space as one. -/
  | execute (command : Option String)
  | fileName
  | number
  | get
  | getAppending
  | hold
  | holdAppending
  | exchange
  /-- Shows the pattern space with all characters visible, in lines of a width. -/
  | list (width : Option Nat)
  | next
  | nextAppending
  | print
  | printLine
  | quit (status : Nat)
  | quitSilently (status : Nat)
  | readFile (name : String)
  | readLine (name : String)
  | write (target : Target)
  | writeLine (target : Target)
  | substitute (s : Substitution)
  | translate (pairs : List (Char × Char))
  | clear

/-- A step of a script. -/
structure Step where
  selection : Selection
  instruction : Instruction

/-- A script: its steps, and where its labels stand. -/
structure Script where
  steps : Array Step := #[]
  labels : List (String × Nat) := []
  /-- Whether lines are shown only by commands. -/
  isQuiet : Bool := false

end Buildwright.Shell.Edit
