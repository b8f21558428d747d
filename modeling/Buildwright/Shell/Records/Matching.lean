-- SUMMARY: Regular expressions of programs on records: where records and fields end, and what is replaced.
import Buildwright.Shell.Regex.Reader
import Buildwright.Text.Number

/-!
# Separators and replacements

Fields and records are separated by a character or by what a regular expression describes. What a regular
expression describes can be replaced. A part without characters separates nothing.
-/
namespace Buildwright.Shell.Records

open Regex (Subject)

/-! ## Regular expressions -/

/-- How regular expressions are written in programs. -/
def regexStyle : Regex.Style :=
  { extended := true, escapes := true, quotesInBrackets := true, references := false, codes := true,
    needsParts := true }

/-- What is wrong with a regular expression, as it is said of a program. -/
def regexFault (message source : String) : String :=
  let cause :=
    match message with
    | "Unmatched ( or \x5c(" => "missing ')'"
    | "Invalid content of \x5c\x7b\x5c\x7d" => "bad interval expression"
    | "Unmatched [, [^, [:, [., or [=" | "Invalid character class name" | "Invalid regular expression" =>
      "bad class -- [], [^] or ["
    | _ => "missing operand"
  "regular expression compile failed (" ++ cause ++ ")\n" ++ source

/-- The regular expression that a text writes, or what is wrong with it. -/
def regexOf (source : String) : Except String Regex :=
  if source == "" then .ok .empty
  else
    match Regex.read regexStyle source with
    | .ok (r, _) => .ok r
    | .error message => .error (regexFault message source)

/-- The first part with characters that an expression describes, from a place on; `n` places are left. -/
def nonempty? (t : Subject) (r : Regex) : Nat → Nat → Option (Nat × Nat)
  | 0, _ => none
  | n + 1, i =>
    match Regex.find? t r i with
    | some (a, b, _) => if a < b then some (a, b) else nonempty? t r n (a + 1)
    | none => none

/-! ## Fields -/

/-- What stands between fields. -/
inductive Separator where
  /-- Blanks and the ends of lines, also in front of the first field and behind the last one. -/
  | blanks
  /-- Nothing: each character is a field. -/
  | nothing
  | char (c : Char)
  | pattern (r : Regex)

namespace Separator

/-- The separator that a text writes. -/
def ofText (s : String) : Except String Separator :=
  match s.toList with
  | [] => .ok .nothing
  | [' '] => .ok .blanks
  | [c] => .ok (.char c)
  | _ => (regexOf s).map .pattern

/-- The words of a text, and the one that is being read, backwards. -/
def words : List Char → List Char → List (List Char)
  | [], [] => []
  | word, [] => [word.reverse]
  | [], c :: cs => if Text.isSpace c then words [] cs else words [c] cs
  | word, c :: cs => if Text.isSpace c then word.reverse :: words [] cs else words (c :: word) cs

/-- The parts of a text between the parts that an expression describes, from a place on. -/
def partsBetween (t : Subject) (r : Regex) : Nat → Nat → List (List Char)
  | 0, i => [t.between i t.chars.size]
  | n + 1, i =>
    match nonempty? t r (t.chars.size + 1) i with
    | some (a, b) => t.between i a :: partsBetween t r n b
    | none => [t.between i t.chars.size]

/-- The fields of a text. -/
def split (s : Separator) (cs : List Char) : List String :=
  if cs.isEmpty then []
  else
    match s with
    | blanks => (words [] cs).map String.ofList
    | nothing => cs.map String.singleton
    | char c => cs.splitOn c |>.map String.ofList
    | pattern r =>
      let t : Subject := ⟨cs.toArray, false, false⟩
      (partsBetween t r (cs.length + 1) 0).map String.ofList

end Separator

/-! ## Records -/

/-- What stands behind a record. -/
inductive Ending where
  | char (c : Char)
  /-- Empty lines. -/
  | emptyLines
  | pattern (r : Regex)

namespace Ending

/-- The ending that a text writes. -/
def ofText (s : String) : Except String Ending :=
  match s.toList with
  | [] => .ok .emptyLines
  | [c] => .ok (.char c)
  | _ => (regexOf s).map .pattern

/-- The lines in front of an empty one, and what follows the first end of these. -/
def paragraph : List Char → List Char × List Char
  | [] => ([], [])
  | '\n' :: '\n' :: rest => ([], rest)
  | ['\n'] => ([], [])
  | c :: rest => let (p, after) := paragraph rest; (c :: p, after)

/-- The first record of a text and what follows it, if there is one. -/
def take (e : Ending) (cs : List Char) : Option (String × List Char) :=
  match e with
  | char c =>
    if cs.isEmpty then none
    else
      let piece := cs.takeWhile (· != c)
      some (String.ofList piece, cs.drop (piece.length + 1))
  | emptyLines =>
    let cs := cs.dropWhile (· == '\n')
    if cs.isEmpty then none
    else
      let (p, rest) := paragraph cs
      some (String.ofList p, rest.dropWhile (· == '\n'))
  | pattern r =>
    if cs.isEmpty then none
    else
      let t : Subject := ⟨cs.toArray, false, false⟩
      match nonempty? t r (cs.length + 1) 0 with
      | some (a, b) => some (String.ofList (cs.take a), cs.drop b)
      | none => some (String.ofList cs, [])

end Ending

/-! ## Replacements -/

/-- The characters of a replacement, of which at most `n` are left; `none` stands for what is replaced. An
    ampersand stands for it unless a backslash stands in front, which a further backslash takes back. -/
def replacement : Nat → List Char → List (Option Char)
  | 0, _ | _, [] => []
  | n + 1, '&' :: cs => none :: replacement n cs
  | n + 1, '\x5c' :: cs =>
    let all := '\x5c' :: cs
    let count := (all.takeWhile (· == '\x5c')).length
    match all.drop count with
    | '&' :: rest =>
      List.replicate (count / 2) (some '\x5c') ++
        (if count % 2 == 0 then none else some '&') :: replacement n rest
    | rest => List.replicate count (some '\x5c') ++ replacement n rest
  | n + 1, c :: cs => some c :: replacement n cs

/-- A replacement for certain characters. -/
def filled (parts : List (Option Char)) (cs : List Char) : List Char :=
  parts.flatMap fun
    | some c => [c]
    | none => cs

/-- Replaces what an expression describes from a place on, all of it or only the first part, and counts
    the parts. Behind a part there is none without characters. -/
def replaceFrom (t : Subject) (r : Regex) (parts : List (Option Char)) (all : Bool) :
    Nat → Nat → Bool → Nat × List Char
  | 0, i, _ => (0, t.between i t.chars.size)
  | n + 1, i, behindPart =>
    match Regex.find? t r i with
    | none => (0, t.between i t.chars.size)
    | some (a, b, _) =>
      let one := t.between a (a + 1)
      if a == b && behindPart && a == i then
        if t.chars.size ≤ i then (0, [])
        else
          let (count, rest) := replaceFrom t r parts all n (i + 1) false
          (count, one ++ rest)
      else
        let done := t.between i a ++ filled parts (t.between a b)
        if !all then (1, done ++ t.between b t.chars.size)
        else if a == b then
          if t.chars.size ≤ a then (1, done)
          else
            let (count, rest) := replaceFrom t r parts all n (a + 1) false
            (count + 1, done ++ one ++ rest)
        else
          let (count, rest) := replaceFrom t r parts all n b true
          (count + 1, done ++ rest)

/-- Replaces what an expression describes in a text, all of it or only the first part, and counts the
    parts. -/
def replace (r : Regex) (all : Bool) (new text : String) : Nat × String :=
  let cs := text.toList
  let t : Subject := ⟨cs.toArray, false, false⟩
  let parts := replacement (new.length + 1) new.toList
  let (count, result) := replaceFrom t r parts all (2 * cs.length + 2) 0 false
  (count, String.ofList result)

end Buildwright.Shell.Records
