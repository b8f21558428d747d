-- SUMMARY: Regular expressions: which parts of a text they describe.
import Buildwright.Shell.CharClass

/-!
# Regular expressions

A regular expression describes parts of a text. Of the parts that it describes, the one that begins
first counts, and of those that begin there the longest. `ends` gives the ends of all parts at once,
and `spans` says what the groups of the expression describe in a part that is known.

References to groups make the set of ends depend on the way that leads there. Expressions with
references are tried step by step instead.
-/
namespace Buildwright.Shell

/-- A place between characters. -/
inductive Edge where
  | lineStart | lineEnd
  | textStart | textEnd
  | wordStart | wordEnd
  /-- The beginning or the end of a word. -/
  | wordEdge
  /-- Neither the beginning nor the end of a word. -/
  | noWordEdge
  deriving DecidableEq

/-- A regular expression. -/
inductive Regex where
  | empty
  | one (k : CharClass)
  | edge (e : Edge)
  | seq (a b : Regex)
  | alt (a b : Regex)
  /-- At least and at most a number of times. -/
  | many (r : Regex) (least : Nat) (most : Option Nat)
  | group (n : Nat) (r : Regex)
  /-- What a group has described before. -/
  | back (n : Nat)
  deriving Inhabited

namespace Regex

/-- A text in which parts are looked for. -/
structure Subject where
  chars : Array Char
  /-- Whether the cases of letters do not count. -/
  ignoresCase : Bool := false
  /-- Whether lines begin and end within the text. -/
  hasLines : Bool := false

/-- What groups describe: their numbers with the places where the parts begin and end. -/
abbrev Groups := List (Nat × Nat × Nat)

namespace Subject

/-- Whether a set has the character at a place. -/
def fits (t : Subject) (k : CharClass) (i : Nat) : Bool :=
  match t.chars[i]? with
  | some c => if t.ignoresCase then k.hasEitherCase c else k.has c
  | none => false

/-- Whether the character at a place belongs to a word. -/
def inWord (t : Subject) (i : Nat) : Bool :=
  (t.chars[i]?.map CharClass.wordChars.has).getD false

/-- Whether the character in front of a place belongs to a word. -/
def wordBefore (t : Subject) (i : Nat) : Bool :=
  i != 0 && t.inWord (i - 1)

/-- Whether a place is of a kind. -/
def isAt (t : Subject) (i : Nat) : Edge → Bool
  | .lineStart => i == 0 || (t.hasLines && t.chars[i - 1]? == some '\n')
  | .lineEnd => i == t.chars.size || (t.hasLines && t.chars[i]? == some '\n')
  | .textStart => i == 0
  | .textEnd => i == t.chars.size
  | .wordStart => !t.wordBefore i && t.inWord i
  | .wordEnd => t.wordBefore i && !t.inWord i
  | .wordEdge => t.wordBefore i != t.inWord i
  | .noWordEdge => t.wordBefore i == t.inWord i

/-- The characters between two places. -/
def between (t : Subject) (i j : Nat) : List Char :=
  (t.chars.extract i j).toList

/-- Whether the part that begins at a place is like another one of a given length. -/
def agrees (t : Subject) (i j : Nat) : Nat → Bool
  | 0 => true
  | n + 1 =>
    let same :=
      match t.chars[i]?, t.chars[j]? with
      | some c, some d => c == d || (t.ignoresCase && CharClass.otherCase c == d)
      | _, _ => false
    same && agrees t (i + 1) (j + 1) n

end Subject

/-! ## Sets of places -/

/-- The union of ascending lists. -/
def union : List Nat → List Nat → List Nat
  | [], js => js
  | is, [] => is
  | i :: is, j :: js =>
    if i < j then i :: union is (j :: js)
    else if j < i then j :: union (i :: is) js
    else i :: union is js

/-- What is in an ascending list and not in another. -/
def without : List Nat → List Nat → List Nat
  | [], _ => []
  | is, [] => is
  | i :: is, j :: js =>
    if i < j then i :: without is (j :: js)
    else if j < i then without (i :: is) js
    else without is js

/-- Applies a function a number of times. -/
def times {α : Type} (f : α → α) : Nat → α → α
  | 0, a => a
  | n + 1, a => times f n (f a)

/-- The places that are reached from others by at most `n` steps; `seen` have been reached before. -/
def closure (step : List Nat → List Nat) : Nat → List Nat → List Nat → List Nat
  | 0, seen, _ => seen
  | n + 1, seen, fresh =>
    match without (step fresh) seen with
    | [] => seen
    | found => closure step n (union seen found) found

/-- The places that are reached from an ascending list of places over characters of a set, up to the
    place `i + n`; `reached` tells whether the place `i` is. -/
def sweep (t : Subject) (k : CharClass) : Nat → Nat → Bool → List Nat → List Nat
  | 0, i, reached, ps => if reached || ps.head? == some i then [i] else []
  | n + 1, i, reached, ps =>
    let here := ps.head? == some i
    let rest := if here then ps.drop 1 else ps
    if reached || here then i :: sweep t k n (i + 1) (t.fits k i) rest
    else
      match ps with
      | [] => []
      | _ => sweep t k n (i + 1) false rest

/-- The ends of the parts that an expression describes and that begin at some places, all in ascending
    order. References describe nothing here. -/
def ends (t : Subject) : Regex → List Nat → List Nat
  | .empty, ps => ps
  | .one k, ps => (ps.filter (t.fits k)).map (· + 1)
  | .edge e, ps => ps.filter (t.isAt · e)
  | .seq a b, ps => if ps.isEmpty then [] else ends t b (ends t a ps)
  | .alt a b, ps => union (ends t a ps) (ends t b ps)
  | .many (.one k) 0 none, ps =>
    match ps with
    | [] => []
    | p :: _ => sweep t k (t.chars.size - p) p false ps
  | .many r least most, ps =>
    let start := times (ends t r) least ps
    match most with
    | none => closure (ends t r) (t.chars.size + 1) start start
    | some m => closure (ends t r) (m - least) start start
  | .group _ r, ps => ends t r ps
  | .back _, _ => []

/-! ## What groups describe -/

/-- The groups with a group that describes a part. -/
def setGroup (n i j : Nat) (g : Groups) : Groups :=
  (n, i, j) :: g.filter (·.1 != n)

/-- Whether an expression has groups. -/
def hasGroups : Regex → Bool
  | .group _ _ => true
  | .seq a b | .alt a b => a.hasGroups || b.hasGroups
  | .many r _ _ => r.hasGroups
  | _ => false

/-- Puts places that are new behind others. -/
def appendNew (is js : List Nat) : List Nat :=
  js.foldl (fun is j => if is.contains j then is else is ++ [j]) is

/-- The places that are reached over characters of a set from a place on, at most `n` of them behind it,
    the last one first. -/
def run (t : Subject) (k : CharClass) : Nat → Nat → List Nat
  | 0, i => [i]
  | n + 1, i => if t.fits k i then run t k n (i + 1) ++ [i] else [i]

/-- The places that repetitions reach from a place, in at most `n` steps: behind those that have been
    found come, for every place, what can be reached from it, and then the place itself. The first list
    has the places that have been seen, the second those that have been found. -/
def explore (step : Nat → List Nat) : Nat → Nat → List Nat × List Nat → List Nat × List Nat
  | 0, i, (seen, found) => (i :: seen, found ++ [i])
  | n + 1, i, (seen, found) =>
    let (seen, found) := (step i).foldl (fun (s : List Nat × List Nat) j =>
      if s.1.contains j then s else explore step n j s) (i :: seen, found)
    (seen, found ++ [i])

/-- The places that a bounded number of repetitions reaches from a place, more repetitions first. -/
def boundedly (step : Nat → List Nat) : Nat → Nat → List Nat
  | 0, i => [i]
  | n + 1, i =>
    appendNew ((step i).foldl (fun found j =>
      if j == i then found else appendNew found (boundedly step n j)) []) [i]

/-- The places that a number of repetitions and then others reach. -/
def repeatedly (step more : Nat → List Nat) : Nat → Nat → List Nat
  | 0, i => more i
  | n + 1, i => (step i).foldl (fun found j => appendNew found (repeatedly step more n j)) []

/-- The ends of the parts that an expression describes and that begin at a place, in the order in which
    they are tried: the first alternative first, and more repetitions before fewer. -/
def tried (t : Subject) : Regex → Nat → List Nat
  | .empty, i => [i]
  | .one k, i => if t.fits k i then [i + 1] else []
  | .edge e, i => if t.isAt i e then [i] else []
  | .seq a b, i => (tried t a i).foldl (fun found j => appendNew found (tried t b j)) []
  | .alt a b, i => appendNew (tried t a i) (tried t b i)
  | .many (.one k) 0 none, i => run t k (t.chars.size - i) i
  | .many r least none, i =>
    repeatedly (tried t r) (fun j => (explore (tried t r) (t.chars.size - j) j ([], [])).2) least i
  | .many r least (some most), i =>
    repeatedly (tried t r) (boundedly (tried t r) (most - least)) least i
  | .group _ r, i => tried t r i
  | .back _, _ => []

/-- What groups describe in a part from `i` to `j` that consists of repetitions, of which `least` more
    are needed and at most `most` more may follow, in at most `n` steps. -/
def spansOfMany (step : Nat → List Nat) (rest : Nat → Option Nat → List Nat → List Nat)
    (inner : Nat → Nat → Groups → Groups) : Nat → Nat → Option Nat → Nat → Nat → Groups → Groups
  | 0, _, _, _, _, g => g
  | n + 1, least, most, i, j, g =>
    if (i == j && least == 0) || most == some 0 then g
    else
      let less := most.map (· - 1)
      let reaches (m : Nat) : Bool :=
        (m != i || least != 0) && (rest (least - 1) less [m]).contains j
      match (step i).find? reaches with
      | some m => spansOfMany step rest inner n (least - 1) less m j (inner i m g)
      | none => g

/-- What the groups of an expression describe in a part from `i` to `j` that it describes, by the first
    way that leads there in the order in which they are tried. -/
def spans (t : Subject) : Regex → Nat → Nat → Groups → Groups
  | .seq a b, i, j, g =>
    if !a.hasGroups && !b.hasGroups then g
    else
      match (tried t a i).find? fun m => (ends t b [m]).contains j with
      | some m => spans t b m j (spans t a i m g)
      | none => g
  | .alt a b, i, j, g => if (ends t a [i]).contains j then spans t a i j g else spans t b i j g
  | .many r least most, i, j, g =>
    if !r.hasGroups then g
    else if least == 0 && i == j && (ends t r [i]).contains i then spans t r i i g
    else
      spansOfMany (tried t r) (fun least most ps => ends t (.many r least most) ps)
        (spans t r) (j - i + least + 1) least most i j g
  | .group n r, i, j, g => setGroup n i j (spans t r i j g)
  | _, _, _, g => g

/-! ## Expressions with references -/

/-- Whether an expression has references to groups. -/
def hasBack : Regex → Bool
  | .back _ => true
  | .seq a b | .alt a b => a.hasBack || b.hasBack
  | .many r _ _ | .group _ r => r.hasBack
  | _ => false

/-- Goes on from every end of an expression, and collects what that gives. -/
abbrev Walk := Nat → Groups → List (Nat × Groups)

/-- Goes on from the ends of repetitions of which `least` more are needed, in at most `n` steps. -/
def walkMany (step : Nat → Groups → Walk → List (Nat × Groups)) (next : Walk) :
    Nat → Nat → Option Nat → Walk
  | 0, _, _, _, _ => []
  | n + 1, least, most, i, g =>
    let longer :=
      if most == some 0 then []
      else step i g fun j g =>
        if j == i && least == 0 then [] else walkMany step next n (least - 1) (most.map (· - 1)) j g
    if least == 0 then longer ++ next i g else longer

/-- Goes on from the ends of an expression, longer repetitions first. -/
def walk (t : Subject) : Regex → Nat → Groups → Walk → List (Nat × Groups)
  | .empty, i, g, next => next i g
  | .one k, i, g, next => if t.fits k i then next (i + 1) g else []
  | .edge e, i, g, next => if t.isAt i e then next i g else []
  | .seq a b, i, g, next => walk t a i g fun j g => walk t b j g next
  | .alt a b, i, g, next => walk t a i g next ++ walk t b i g next
  | .many r least most, i, g, next =>
    walkMany (fun i g next => walk t r i g next) next (t.chars.size + least + 2) least most i g
  | .group n r, i, g, next => walk t r i g fun j g => next j (setGroup n i j g)
  | .back n, i, g, next =>
    match g.lookup n with
    | some (a, b) => if t.agrees a i (b - a) then next (i + (b - a)) g else []
    | none => []

/-- The longest of some parts, and of the longest the first. -/
def longest : List (Nat × Groups) → Option (Nat × Groups)
  | [] => none
  | x :: rest =>
    match longest rest with
    | some y => if x.1 < y.1 then some y else some x
    | none => some x

/-! ## Looking for parts -/

/-- The end of the longest part that an expression describes and that begins at a place, with what the
    groups describe in it. -/
def matchAt? (t : Subject) (r : Regex) (i : Nat) : Option (Nat × Groups) :=
  if r.hasBack then longest (walk t r i [] fun j g => [(j, g)])
  else
    match (ends t r [i]).getLast? with
    | some j => some (j, if r.hasGroups then spans t r i j [] else [])
    | none => none

/-- The first part that an expression describes among those that begin at one of the `n + 1` places from
    a place on: where it begins and ends, and what the groups describe. -/
def search (t : Subject) (r : Regex) : Nat → Nat → Option (Nat × Nat × Groups)
  | 0, i => (matchAt? t r i).map (i, ·)
  | n + 1, i =>
    match matchAt? t r i with
    | some found => some (i, found)
    | none => search t r n (i + 1)

/-- The first part that an expression describes, from a place on. -/
def find? (t : Subject) (r : Regex) (start : Nat) : Option (Nat × Nat × Groups) :=
  if t.chars.size < start then none else search t r (t.chars.size - start) start

/-- Whether an expression describes a part of a text. -/
def occursIn (t : Subject) (r : Regex) : Bool :=
  (find? t r 0).isSome

end Regex
end Buildwright.Shell
