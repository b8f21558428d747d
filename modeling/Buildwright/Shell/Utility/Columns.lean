-- SUMMARY: Programs that choose parts of lines and join lines.
import Buildwright.Shell.Utility.Sort

/-!
# Parts of lines

`cut` writes parts of lines, and `paste` joins lines.
-/
namespace Buildwright.Shell.Utility

open Shell.Action

/-! ## `cut` -/

/-- Numbers from one to another; without the latter, there is no end. -/
structure Span where
  low : Nat
  high : Option Nat

/-- What a list of numbers counts. -/
inductive Counted where
  | fields
  | characters
  deriving DecidableEq

namespace Counted

/-- What is said about a list with a zero. -/
def zero : Counted → String
  | fields => "fields are numbered from 1"
  | characters => "byte/character positions are numbered from 1"

/-- What is said about a number that is too large. -/
def tooLarge (digits : String) : Counted → String
  | fields => "field number " ++ quoted digits ++ " is too large"
  | characters => "byte/character offset " ++ quoted digits ++ " is too large"

/-- What is said about a text that is no number. -/
def noNumber (text : String) : Counted → String
  | fields => "invalid field value " ++ quoted text
  | characters => "invalid byte/character position " ++ quoted text

/-- What is said about a range with more than two ends. -/
def noRange : Counted → String
  | fields => "invalid field range"
  | characters => "invalid byte or character range"

end Counted

/-- The part of a range that has been read. -/
structure SpanDraft where
  low : Option Nat := none
  hasDash : Bool := false
  high : Option Nat := none

/-- The span that a part of a list writes, or what is wrong with it. -/
def SpanDraft.span (k : Counted) (d : SpanDraft) : Except String Span :=
  if !d.hasDash then
    if d.low.getD 0 == 0 then .error k.zero else .ok ⟨d.low.getD 0, d.low⟩
  else
    match d.low, d.high with
    | none, none => .error "invalid range with no endpoint: -"
    | low, none => .ok ⟨low.getD 1, none⟩
    | low, some high =>
      if high < low.getD 1 then .error "invalid decreasing range" else .ok ⟨low.getD 1, some high⟩

/-- The first number that is too large to count anything. -/
def tooLarge : Nat := 18446744073709551615

/-- The spans that a list of at most `n` characters writes, or what is wrong with it. -/
def spansFrom (k : Counted) : Nat → SpanDraft → List Char → Except String (List Span)
  | 0, d, _ | _, d, [] => return [← d.span k]
  | n + 1, d, c :: cs =>
    if c == ',' || isBlankChar c then do
      let span ← d.span k
      return span :: (← spansFrom k n {} cs)
    else if c == '-' then
      if d.hasDash then .error k.noRange
      else if d.low == some 0 then .error k.zero
      else spansFrom k n { d with hasDash := true } cs
    else
      let ds := (c :: cs).takeWhile Char.isDigit
      let value := Text.valueOfDigits 10 ds
      if ds.isEmpty then .error (k.noNumber (String.ofList (c :: cs)))
      else if tooLarge ≤ value then .error (k.tooLarge (String.ofList ds))
      else
        spansFrom k n (if d.hasDash then { d with high := some value } else { d with low := some value })
          (cs.drop (ds.length - 1))

/-- Spans in order, of which those that share numbers are one. -/
def mergedSpans (spans : List Span) : List Span :=
  ((spans.mergeSort fun a b => a.low ≤ b.low).foldl (fun merged s =>
    match merged with
    | t :: before =>
      if t.high.all (s.low ≤ ·) then ⟨t.low, t.high.bind fun a => s.high.map (max a)⟩ :: before
      else s :: merged
    | [] => [s]) []).reverse

/-- The numbers from one on that lie in none of some spans that are in order. -/
def otherSpans : Nat → List Span → List Span
  | next, [] => [⟨next, none⟩]
  | next, s :: rest =>
    let gap := if next < s.low then [⟨next, some (s.low - 1)⟩] else []
    gap ++ (s.high.elim [] fun high => otherSpans (high + 1) rest)

/-- Whether a number lies in one of some spans. -/
def isInSpans (spans : List Span) (n : Nat) : Bool :=
  spans.any fun s => s.low ≤ n && s.high.all (n ≤ ·)

/-- The characters of a line whose numbers lie in spans, with a text between those of two spans. -/
def cutChars (spans : List Span) (separator : Option String) (cs : List Char) : String :=
  let numbered := ((cs.zipIdx 1).filter fun (_, i) => isInSpans spans i)
  match separator with
  | none => String.ofList (numbered.map (·.1))
  | some text =>
    let runs := numbered.splitBy fun _ b => !spans.any (·.low == b.2)
    Text.joined text (runs.map fun r => String.ofList (r.map (·.1)))

/-- The fields of a line whose numbers lie in spans; a line without a separator is taken as a whole, or left
    out. -/
def cutFields (spans : List Span) (separator : Char) (between : String) (omits : Bool) (l : String) :
    Option String :=
  if !l.toList.contains separator then if omits then none else some l
  else
    let fields := ((Text.pieces separator l).zipIdx 1).filter fun (_, i) => isInSpans spans i
    some (Text.joined between (fields.map (·.1)))

/-- Writes parts of lines. -/
def cut : Utility :=
  withOptions
    [valued "d" ["delimiter"], valued "f" ["fields"], valued "b" ["bytes"], valued "c" ["characters"],
      flag "s" ["only-delimited"], flag "n", flag "z" ["zero-terminated"],
      flag "complement" ["complement"], valued "output" ["output-delimiter"]] fun c o => do
    let delimiter := (o.last? "d").getD "\t"
    if 1 < delimiter.length then return ← c.misused "the delimiter must be a single character"
    match o.given.filter fun g => ["f", "b", "c"].contains g.1 with
    | [] => c.misused "you must specify a list of bytes, characters, or fields"
    | _ :: _ :: _ => c.misused "only one list may be specified"
    | [(key, list)] =>
      let counted : Counted := if key == "f" then .fields else .characters
      if counted == .characters && o.has "d" then
        return ← c.misused "an input delimiter may be specified only when operating on fields"
      if counted == .characters && o.has "s" then
        return ←
          c.misused "suppressing non-delimited lines makes sense\n\tonly when operating on fields"
      match spansFrom counted (list.length + 1) {} list.toList with
      | .error message => c.misused message
      | .ok spans =>
        let merged := mergedSpans spans
        let spans := if o.has "complement" then otherSpans 1 merged else merged
        let separator := (delimiter.toList.head?).getD '\x00'
        let output := (o.last? "output").map fun s => if s == "" then "\x00" else s
        let ending := if o.has "z" then '\x00' else '\n'
        let line (l : String) : Option String :=
          match counted with
          | .fields => cutFields spans separator (output.getD (String.singleton separator)) (o.has "s") l
          | .characters => some (cutChars spans output l.toList)
        eachOf (if o.operands.isEmpty then ["-"] else o.operands) fun p => do
          match ← content? c p with
          | none => return 1
          | some b =>
            let lines := (piecesUpTo ending (Text.bytewise b).toList).1.map String.ofList
            say (String.join ((lines.filterMap line).map (·.push ending)))
            return 0

/-! ## `paste` -/

/-- The separators that a text writes; none is an empty one. -/
def separatorsOf : List Char → List String
  | '\x5c' :: 'n' :: cs => "\n" :: separatorsOf cs
  | '\x5c' :: 't' :: cs => "\t" :: separatorsOf cs
  | '\x5c' :: '0' :: cs => "" :: separatorsOf cs
  | '\x5c' :: '\x5c' :: cs => "\x5c" :: separatorsOf cs
  | c :: cs => String.singleton c :: separatorsOf cs
  | [] => []

/-- Texts joined with separators that are used in turn. -/
def joinedInTurn (separators : List String) : Nat → List String → String
  | _, [] => ""
  | _, [t] => t
  | n, t :: rest =>
    t ++ (separators[n % separators.length]?).getD "" ++ joinedInTurn separators (n + 1) rest

/-- The lines of files for `paste`; several mentions of the standard input take its lines in turn. -/
def pasteRows (count : Nat) (lists : List (List String)) : List (List String) :=
  (List.range count).map fun i => lists.map fun ls => (ls[i]?).getD ""

/-- Joins the lines of files side by side, or one after the other. -/
def paste : Utility :=
  withOptions [valued "d" ["delimiters"], flag "s" ["serial"], flag "z" ["zero-terminated"]] fun c o => do
    let separators :=
      match separatorsOf ((o.last? "d").getD "\t").toList with
      | [] => [""]
      | all => all
    let files := if o.operands.isEmpty then ["-"] else o.operands
    let dashes := files.countP (· == "-")
    let input ←
      if dashes == 0 then pure []
      else
        match ← drainStream 0 with
        | .ok b => pure (linesOf b).1
        | .error _ => pure []
    let step (acc : Option (List (List String)) × Nat) (p : String) :
        Action (Option (List (List String)) × Nat) := do
      match acc.1 with
      | none => return acc
      | some lists =>
        if p == "-" then
          let mine :=
            if o.has "s" then if acc.2 == 0 then input else []
            else ((input.zipIdx).filter fun (_, i) => i % dashes == acc.2).map (·.1)
          return (some (mine :: lists), acc.2 + 1)
        else
          match ← content? c p with
          | some b => return (some ((linesOf b).1 :: lists), acc.2)
          | none => return (none, acc.2)
    match (← files.foldlM step (some [], 0)).1 with
    | none => return 1
    | some lists =>
      let lists := lists.reverse
      if o.has "s" then sayLines (lists.map (joinedInTurn separators 0))
      else
        let count := lists.foldl (fun n ls => max n ls.length) 0
        sayLines ((pasteRows count lists).map (joinedInTurn separators 0))
      return 0

end Buildwright.Shell.Utility
