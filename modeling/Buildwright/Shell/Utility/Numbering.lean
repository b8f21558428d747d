-- SUMMARY: Lines with their numbers, page by page.
import Buildwright.Shell.Regex.Reader
import Buildwright.Shell.Utility.Lines

/-!
# Numbered lines

Lines that are all of a delimiter, written three times, twice or once, begin the head, the body and the foot
of a page. Each of these has a rule of its own for which lines are numbered, and numbers begin anew there.
-/
namespace Buildwright.Shell.Utility

open Shell.Action

/-- Which lines are numbered. -/
inductive NumberedLines where
  | all
  | filled
  | none
  | matching (r : Regex)

/-- The parts of a page. -/
inductive PagePart where
  | head
  | body
  | foot
  deriving DecidableEq

/-- How lines are numbered. -/
structure LineNumbering where
  style : PagePart → NumberedLines
  start : Int
  step : Int
  /-- The number of empty lines in a row of which the last one is numbered. -/
  joined : Nat
  width : Nat
  format : String
  separator : String
  delimiter : String
  restarts : Bool

namespace LineNumbering

/-- The part of a page that a line begins. -/
def part? (k : LineNumbering) (line : String) : Option PagePart :=
  if k.delimiter.length < 2 then none
  else if line == k.delimiter ++ k.delimiter ++ k.delimiter then some .head
  else if line == k.delimiter ++ k.delimiter then some .body
  else if line == k.delimiter then some .foot
  else none

/-- The text of a number. -/
def number (k : LineNumbering) (n : Int) : String :=
  let digits := toString n.natAbs
  let sign := if n < 0 then "-" else ""
  match k.format with
  | "ln" => padRight k.width (sign ++ digits)
  | "rz" => sign ++ String.ofList (List.replicate (k.width - sign.length - digits.length) '0') ++ digits
  | _ => padLeft k.width (sign ++ digits)

/-- What stands in front of a line without a number. -/
def blank (k : LineNumbering) : String :=
  String.ofList (List.replicate (k.width + k.separator.length) ' ')

end LineNumbering

/-- The place in numbered lines: the part of the page, the next number, and the number of empty lines in
    front. -/
structure NumberingPlace where
  part : PagePart := .body
  next : Int
  empty : Nat := 0

/-- A line as it is written, and the place behind it. -/
def LineNumbering.line (k : LineNumbering) (p : NumberingPlace) (line : String) : String × NumberingPlace :=
  match k.part? line with
  | some part => ("\n", { p with part, next := if k.restarts then k.start else p.next })
  | none =>
    let text := line ++ "\n"
    let numbered := (k.number p.next ++ k.separator ++ text, { p with next := p.next + k.step, empty := 0 })
    let plain := (k.blank ++ text, p)
    match k.style p.part with
    | .all =>
      if line != "" || k.joined ≤ p.empty + 1 then numbered
      else (k.blank ++ text, { p with empty := p.empty + 1 })
    | .filled => if line == "" then plain else numbered
    | .none => plain
    | .matching r => if Regex.occursIn { chars := line.toList.toArray } r then numbered else plain

/-- The rule that a text writes. -/
def numberedLines? (s : String) : Option NumberedLines :=
  match s with
  | "a" => some .all
  | "t" => some .filled
  | "n" => some .none
  | _ =>
    (Text.after? "p" s).bind fun text =>
      match Regex.read { extended := false } text with
      | .ok (r, _) => some (.matching r)
      | .error _ => none

/-- A whole number that an option is, of at least some size, or what is wrong with it. -/
def boundedNumber (what : String) (least : Option Int) (s : String) : Except String Int :=
  match Text.leadingInteger? (Text.leadingDigits? 10) s.toList with
  | some (n, []) =>
    let refused (why : String) : Except String Int := .error (what ++ ": " ++ quoted s ++ ": " ++ why)
    if least.any (n < ·) then refused "Numerical result out of range"
    else if !Text.fitsInteger n || (least.isSome && 2147483647 < n) then
      refused "Value too large for defined data type"
    else .ok n
  | _ => .error (what ++ ": " ++ quoted s)

/-- Writes lines with their numbers. -/
def nl : Utility :=
  withOptions
    [valued "b" ["body-numbering"], valued "w" ["number-width"], valued "s" ["number-separator"],
      valued "v" ["starting-line-number"], valued "i" ["line-increment"], valued "n" ["number-format"],
      valued "h" ["header-numbering"], valued "f" ["footer-numbering"], flag "p" ["no-renumber"],
      valued "l" ["join-blank-lines"], valued "d" ["section-delimiter"]] fun c o => do
    let number (key what : String) (least : Option Int) (usual : Int) : Except String Int :=
      match o.last? key with
      | some s => boundedNumber ("invalid line number " ++ what) least s
      | none => .ok usual
    let numbers : Except String (Int × Int × Int × Int) := do
      let start ←
        match o.last? "v" with
        | some s => boundedNumber "invalid starting line number" none s
        | none => .ok 1
      return (start, ← number "i" "increment" none 1, ← number "l" "of blank lines" (some 1) 1,
        ← number "w" "field width" (some 1) 6)
    match numbers with
    | .error why => c.fail why
    | .ok (start, step, joined, width) =>
      let styles := [("b", "body", "t"), ("h", "header", "n"), ("f", "footer", "n")]
      let style (key usual : String) : String := (o.last? key).getD usual
      for (key, name, usual) in styles do
        if (numberedLines? (style key usual)).isNone then
          c.report ("invalid " ++ name ++ " numbering style: " ++ quoted (style key usual))
      let format := (o.last? "n").getD "rn"
      let isKnown := ["ln", "rn", "rz"].contains format
      if !isKnown then c.report ("invalid line numbering format: " ++ quoted format)
      if !isKnown || styles.any fun (key, _, usual) => (numberedLines? (style key usual)).isNone then
        return ← c.hint 1
      let delimiter := (o.last? "d").getD "\x5c:"
      let rule (key usual : String) : NumberedLines := (numberedLines? (style key usual)).getD .none
      let k : LineNumbering :=
        { style := fun p =>
            match p with
            | .head => rule "h" "n"
            | .body => rule "b" "t"
            | .foot => rule "f" "n"
          start, step, joined := joined.toNat, width := width.toNat, format
          separator := (o.last? "s").getD "\t"
          delimiter := if delimiter.length == 1 then delimiter ++ ":" else delimiter
          restarts := !o.has "p" }
      let (b, status) ← contents c o.operands
      let (texts, _) := (linesOf b).1.foldl (fun (texts, p) l =>
        let (text, p) := k.line p l
        (text :: texts, p)) (([] : List String), ({ next := start } : NumberingPlace))
      say (String.join texts.reverse)
      return status

end Buildwright.Shell.Utility
