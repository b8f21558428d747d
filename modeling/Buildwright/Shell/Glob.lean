-- SUMMARY: Patterns of texts, and the paths on the disk that a pattern describes.
import Buildwright.Shell.CharClass
import Buildwright.Shell.State

/-!
# Patterns, and the paths that they describe

A name pattern describes a whole text: `*` stands for any text, `?` for any character, and brackets
for one of several characters. A quoted character stands for itself, and so does one behind a backslash.

A pattern with slashes describes paths name by name. Names that begin with a dot are only described by
patterns that begin with one.
-/
namespace Buildwright.Shell

/-! ## Patterns of whole texts -/

/-- A step of a name pattern. -/
inductive NameStep where
  | exactly (c : Char)
  | one (k : CharClass)
  | anyText

/-- A pattern of whole texts. -/
abbrev NamePattern := List NameStep

namespace NamePattern

/-- The characters of a pattern with those quoted that stand behind a backslash. -/
def resolved : List Marked → List Marked
  | ('\x5c', false) :: (c, _) :: cs => (c, true) :: resolved cs
  | [('\x5c', false)] => [('\x5c', true)]
  | c :: cs => c :: resolved cs
  | [] => []

/-- What stands between brackets, of which the opening one has been taken; `first` tells whether nothing
    has been taken behind it. A closing bracket that stands first is a member. -/
def members? : Nat → Bool → List Marked → Option (List (Char × Char) × List Marked)
  | 0, _, _ | _, _, [] => none
  | n + 1, first, (c, quoted) :: cs =>
    let more (ranges : List (Char × Char)) (rest : List Marked) :=
      (members? n false rest).map fun (found, after) => (ranges ++ found, after)
    let isClass :=
      if c == '[' && !quoted then (CharClass.className? (cs.map (·.1))).bind fun (name, rest) =>
        (CharClass.named.lookup name).map (·, cs.drop (cs.length - rest.length))
      else none
    match isClass with
    | some (ranges, rest) => more ranges rest
    | none =>
      if c == ']' && !quoted && !first then some ([], cs)
      else
        match cs with
        | ('-', false) :: (d, dQuoted) :: rest =>
          if d == ']' && !dQuoted then more [(c, c)] cs else more [(c, d)] rest
        | _ => more [(c, c)] cs

/-- The class behind an opening bracket, and what follows the closing one. -/
def bracket? (cs : List Marked) : Option (CharClass × List Marked) :=
  let (negated, cs) :=
    match cs with
    | ('!', false) :: rest => (true, rest)
    | _ => (false, cs)
  (members? (cs.length + 1) true cs).map fun (ranges, rest) => (⟨negated, ranges⟩, rest)

/-- The pattern that characters write, of which there are at most `n`. -/
def ofMarkedFrom : Nat → List Marked → NamePattern
  | 0, _ | _, [] => []
  | n + 1, (c, quoted) :: cs =>
    if quoted then .exactly c :: ofMarkedFrom n cs
    else if c == '*' then .anyText :: ofMarkedFrom n cs
    else if c == '?' then .one .all :: ofMarkedFrom n cs
    else if c == '[' then
      match bracket? cs with
      | some (k, rest) => .one k :: ofMarkedFrom n rest
      | none => .exactly c :: ofMarkedFrom n cs
    else .exactly c :: ofMarkedFrom n cs

/-- The pattern that characters write. -/
def ofMarked (cs : List Marked) : NamePattern :=
  ofMarkedFrom cs.length (resolved cs)

/-- The pattern that a text writes. -/
def ofText (s : String) : NamePattern :=
  ofMarked (mark false s)

/-- The text that a pattern describes if it describes a single one that it spells out. -/
def literal? (p : NamePattern) : Option (List Char) :=
  p.mapM fun s =>
    match s with
    | .exactly c => some c
    | _ => none

/-- Whether a pattern describes a text. -/
def describes : NamePattern → List Char → Bool
  | [], s => s.isEmpty
  | [.anyText], _ => true
  | .anyText :: steps, s => (List.range (s.length + 1)).any fun n => describes steps (s.drop n)
  | .exactly x :: steps, c :: s => x == c && describes steps s
  | .one k :: steps, c :: s => k.has c && describes steps s
  | _ :: _, [] => false

/-- The lengths of texts from zero to a bound. -/
def lengths (longest : Bool) (bound : Nat) : List Nat :=
  if longest then (List.range (bound + 1)).reverse else List.range (bound + 1)

/-- A text without the beginning that a pattern describes, which is the longest or the shortest. -/
def dropStart (p : NamePattern) (longest : Bool) (s : List Char) : List Char :=
  match (lengths longest s.length).find? fun n => describes p (s.take n) with
  | some n => s.drop n
  | none => s

/-- A text without the end that a pattern describes, which is the longest or the shortest, if there is such
    an end. -/
def dropEnd? (p : NamePattern) (longest : Bool) (s : List Char) : Option (List Char) :=
  ((lengths longest s.length).find? fun n => describes p (s.drop (s.length - n))).map fun n =>
    s.take (s.length - n)

/-- A text without the end that a pattern describes, if there is one. -/
def dropEnd (p : NamePattern) (longest : Bool) (s : List Char) : List Char :=
  (p.dropEnd? longest s).getD s

/-! ### Lists of texts

A list is treated as a single text with ends between its texts. A pattern describes parts of one of them
only, but what is taken away reaches over the ends. -/

/-- A list without the beginning that a pattern describes. -/
def dropListStart (p : NamePattern) (longest : Bool) : List (List Char) → List (List Char)
  | [] => []
  | s :: rest => if longest && describes p s then [[]] else p.dropStart longest s :: rest

/-- A list without the last end that a pattern describes, if there is such an end. -/
def dropLastEnd? (p : NamePattern) : List (List Char) → Option (List (List Char))
  | [] => none
  | s :: rest =>
    match dropLastEnd? p rest with
    | some kept => some (s :: kept)
    | none => (p.dropEnd? false s).map ([·])

/-- A list without the end that a pattern describes. The longest end begins in the first text. -/
def dropListEnd (p : NamePattern) (longest : Bool) (ss : List (List Char)) : List (List Char) :=
  if longest then
    match ss with
    | [] => []
    | s :: rest => ((p.dropEnd? true s).map ([·])).getD (s :: rest)
  else (p.dropLastEnd? ss).getD ss

end NamePattern

/-! ## Paths -/

/-- The pieces of a marked text between slashes. -/
def markedPieces (cs : List Marked) : List (List Marked) :=
  (cs.foldr (fun c (acc : List Marked × List (List Marked)) =>
    if c.1 == '/' then ([], acc.1 :: acc.2) else (c :: acc.1, acc.2)) ([], [])) |>
    fun (first, rest) => first :: rest

/-- The names in a directory, as the disk shows them; a dot stands for the directory itself and two for
    the one above it. -/
def namesIn (d : Disk) (directory : String) : List String :=
  match d.readDirectory (Action.pathOf (if directory = "" then "." else directory)) with
  | .ok found => "." :: ".." :: found.map fun (name, _) => Text.toBytewise name
  | .error _ => []

/-- The names in a directory that a pattern describes. -/
def namesLike (d : Disk) (directory : String) (p : NamePattern) : List String :=
  let showsDots :=
    match p with
    | .exactly '.' :: _ => true
    | _ => false
  (namesIn d directory).filter fun name =>
    (showsDots || !Text.beginsWith "." name) && p.describes name.toList

/-- Whether something lies at a path. -/
def liesAt (d : Disk) (p : String) : Bool :=
  match d.locate (Action.pathOf p) false with
  | .ok (.present _ _) => true
  | _ => false

/-- The paths that pieces describe, each behind a text. -/
def pathsLike (d : Disk) (before : String) : List (List Marked) → List String
  | [] => []
  | piece :: rest =>
    let p := NamePattern.ofMarked piece
    let names :=
      match p.literal? with
      | some cs => [String.ofList cs]
      | none => namesLike d before p
    match rest with
    | [] => names.map (before ++ ·)
    | _ => names.flatMap fun name => pathsLike d (before ++ name ++ "/") rest

/-- Whether a piece of a path is more than a name. -/
def isPattern (piece : List Marked) : Bool :=
  (NamePattern.ofMarked piece).literal?.isNone

/-- The paths that a field describes, in order, or the field itself if there are none. -/
def pathsOf (d : Disk) (field : List Marked) : List String :=
  let pieces := markedPieces field
  if pieces.any isPattern then
    match (pathsLike d "" pieces).filter (liesAt d) with
    | [] => [unmarked field]
    | paths => paths.mergeSort fun a b => decide (a ≤ b)
  else [unmarked field]

end Buildwright.Shell
