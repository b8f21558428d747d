-- SUMMARY: Looking for lines that patterns describe.
import Buildwright.Shell.Utility.Find

/-!
# Looking for lines

Lines are selected in which patterns describe a part. The lines around them may be shown too, or only
the parts, or the number of lines, or the files in which there are such lines.
-/
namespace Buildwright.Shell.Utility

open Shell.Action

/-! ## Patterns -/

/-- What lines have to have. -/
structure LinePattern where
  patterns : List Regex
  ignoresCase : Bool
  /-- Whether the part has to be the whole line. -/
  whole : Bool
  /-- Whether no word may go on at the ends of the part. -/
  words : Bool

namespace LinePattern

/-- A line in which parts are looked for. -/
def subject (k : LinePattern) (l : String) : Regex.Subject :=
  { chars := l.toList.toArray, ignoresCase := k.ignoresCase }

/-- The end of the longest part that a pattern describes and that begins at a place. -/
def partAt? (k : LinePattern) (t : Regex.Subject) (i : Nat) : Option Nat :=
  if (k.whole && i != 0) || (k.words && t.wordBefore i) then none
  else
    let ends (r : Regex) : List Nat :=
      if r.hasBack then (Regex.walk t r i [] fun j g => [(j, g)]).map (·.1) else Regex.ends t r [i]
    let fits (j : Nat) : Bool := (!k.whole || j == t.chars.size) && !(k.words && t.inWord j)
    ((k.patterns.flatMap ends).filter fits).max?

/-- The first part among those that begin at one of the `n + 1` places from a place on. -/
def partFrom? (k : LinePattern) (t : Regex.Subject) : Nat → Nat → Option (Nat × Nat)
  | 0, i => (k.partAt? t i).map (i, ·)
  | n + 1, i =>
    match k.partAt? t i with
    | some j => some (i, j)
    | none => partFrom? k t n (i + 1)

/-- Whether a line has a part that a pattern describes. -/
def describes (k : LinePattern) (l : String) : Bool :=
  let t := k.subject l
  if k.words || k.whole then (k.partFrom? t (if k.whole then 0 else t.chars.size) 0).isSome
  else k.patterns.any (·.occursIn t)

/-- The parts of a line, at most `n`, from a place on: where they begin, and their texts. -/
def partsFrom (k : LinePattern) (t : Regex.Subject) : Nat → Nat → List (Nat × String)
  | 0, _ => []
  | n + 1, i =>
    if t.chars.size < i then []
    else
      match k.partFrom? t (t.chars.size - i) i with
      | none => []
      | some (a, b) =>
        if a == b then partsFrom k t n (b + 1)
        else (a, String.ofList (t.between a b)) :: partsFrom k t n b

/-- The parts of a line that patterns describe. -/
def parts (k : LinePattern) (l : String) : List (Nat × String) :=
  let t := k.subject l
  k.partsFrom t (t.chars.size + 1) 0

end LinePattern

/-- The signs of repetition in an extended expression that have nothing to repeat; `start` tells whether
    an expression begins here. -/
def idleSigns : Nat → Bool → List Char → List String
  | 0, _, _ | _, _, [] => []
  | n + 1, start, c :: cs =>
    match c with
    | '\x5c' => idleSigns n false (cs.drop 1)
    | '[' =>
      let inside := match cs with
        | '^' :: ']' :: rest | ']' :: rest => rest
        | _ => cs
      idleSigns n false ((inside.dropWhile (· != ']')).drop 1)
    | '(' | '|' | '^' => idleSigns n true cs
    | '*' | '+' | '?' => if start then String.singleton c :: idleSigns n true cs else idleSigns n false cs
    | '\x7b' =>
      match if start then Regex.Reader.bounds? "\x7d" cs else none with
      | some (_, _, after) => "\x7b...\x7d" :: idleSigns n true after
      | none => idleSigns n false cs
    | _ => idleSigns n false cs

/-- The expression for a text itself. -/
def literalPattern (s : String) : Regex :=
  s.toList.foldr (fun c r => .seq (Regex.Reader.exactly c) r) .empty

/-- The text of an expression of a richer form in the extended form. -/
def plainForm (s : String) : String :=
  let s := s.replace "\x5cd" "[0-9]"
  let s := s.replace "\x5cD" "[^0-9]"
  s.replace "(?:" "("

/-! ## Lines -/

/-- A line with its number, the place of its first byte, and whether it is selected. -/
structure NumberedLine where
  number : Nat
  offset : Nat
  text : String
  selected : Bool

/-- Lines with their numbers and places. -/
def numbered (selects : String → Bool) : Nat → Nat → List String → List NumberedLine
  | _, _, [] => []
  | number, offset, l :: rest =>
    ⟨number, offset, l, selects l⟩ :: numbered selects (number + 1) (offset + l.length + 1) rest

/-- The lines up to the last of a number of selected ones, and the lines behind it. -/
def upToSelected : Nat → List NumberedLine → List NumberedLine × List NumberedLine
  | _, [] => ([], [])
  | 0, ls => ([], ls)
  | n + 1, l :: rest =>
    let (front, behind) := upToSelected (if l.selected then n else n + 1) rest
    (l :: front, behind)

/-- The selected lines with lines around them, in groups of lines that follow one another. -/
def shownGroups (before after : Nat) (ls : List NumberedLine) : List (List NumberedLine) :=
  let marks := ls.filterMap fun l => if l.selected then some l.number else none
  let isNear (l : NumberedLine) : Bool :=
    marks.any fun m => decide (l.number ≤ m + after) && decide (m ≤ l.number + before)
  (ls.filter isNear).foldr (fun l groups =>
    match groups with
    | (next :: more) :: rest =>
      if next.number == l.number + 1 then (l :: next :: more) :: rest else [l] :: groups
    | _ => [l] :: groups) []

/-- The selected lines, each in a group of its own. -/
def selectedGroups (ls : List NumberedLine) : List (List NumberedLine) :=
  (ls.filter (·.selected)).map ([·])

/-! ## Files -/

/-- What a search looks for, and how it shows what it finds. -/
structure LineSearch where
  pattern : LinePattern
  options : Options
  /-- Whether names of files stand in front of lines. -/
  named : Bool
  before : Nat
  after : Nat
  most : Option Nat

/-- What has been found so far. -/
structure Findings where
  /-- Whether a line has been selected. -/
  any : Bool := false
  failed : Bool := false
  /-- Whether a group of lines has been shown. -/
  shown : Bool := false

namespace LineSearch

/-- The end of a line. -/
def ending (k : LineSearch) : Char := if k.options.has "z" then '\x00' else '\n'

/-- Whether lines are shown with others around them. -/
def hasContext (k : LineSearch) : Bool := k.options.hasAny ["A", "B", "C", "number"]

/-- What stands in front of a line or a part of one, with a tab if that is not empty. -/
def heading (k : LineSearch) (name : String) (sign : String) (number offset : Nat) (line : String) :
    String :=
  let o := k.options
  let fileSign := if o.has "Z" then "\x00" else sign
  let text :=
    (if k.named then name ++ fileSign else "") ++
    (if o.has "n" then toString number ++ sign else "") ++
    (if o.has "b" then toString offset ++ sign else "")
  if o.has "T" && text != "" && line != "" then text ++ "\t" else text

/-- A line as it is shown, with its end. -/
def lineText (k : LineSearch) (name : String) (l : NumberedLine) : String :=
  let close := String.singleton k.ending
  if k.options.has "o" then
    if !l.selected || k.options.has "v" then ""
    else String.join ((k.pattern.parts l.text).map fun (place, text) =>
      k.heading name ":" l.number (l.offset + place) text ++ text ++ close)
  else k.heading name (if l.selected then ":" else "-") l.number l.offset l.text ++ l.text ++ close

/-- Searches the content of a file. -/
def content (k : LineSearch) (c : Call) (name : String) (b : Bytes) (f : Findings) : Action Findings := do
  let o := k.options
  let text := Text.bytewise b
  let (pieces, _) := piecesUpTo k.ending text.toList
  let selects (l : String) : Bool := k.pattern.describes l != o.has "v"
  let all := numbered selects 1 0 (pieces.map String.ofList)
  let (front, behind) :=
    match k.most with
    | some n => upToSelected n all
    | none => (all, [])
  let count := (front.filter (·.selected)).length
  let found := { f with any := f.any || count != 0 }
  let isBinary := !o.has "a" && !o.has "z" && text.toList.contains '\x00'
  if isBinary && o.has "I" then return f
  let nameEnd := if o.has "Z" then "\x00" else "\n"
  if o.has "q" then return found
  if let some kind := o.lastOf? ["l", "L"] then
    if (count != 0) == (kind == "l") then say (name ++ nameEnd)
    return found
  if o.has "c" then
    say ((if k.named then name ++ (if o.has "Z" then "\x00" else ":") else "") ++ toString count ++ "\n")
    return found
  if isBinary then
    if count != 0 then say (c.name ++ ": " ++ name ++ ": binary file matches\n")
    return found
  let following := (behind.take k.after).map fun l => { l with selected := false }
  let lines := if count == 0 then [] else front ++ following
  let groups :=
    if k.hasContext then shownGroups k.before k.after lines else selectedGroups lines
  let texts := groups.map fun g => String.join (g.map (k.lineText name))
  let separator := (o.last? "separator").elim "--\n" (· ++ "\n")
  let sign := if k.hasContext && !o.has "unseparated" then separator else ""
  if !texts.isEmpty then
    say ((if f.shown then sign else "") ++ Text.joined sign texts)
  return { found with shown := f.shown || !texts.isEmpty }

/-- Whether a file with a name is to be searched. -/
def includes (k : LineSearch) (name : String) : Bool :=
  let describes (p : String) : Bool := (NamePattern.ofText p).describes name.toList
  let wanted := k.options.all "include"
  (wanted.isEmpty || wanted.any describes) && !(k.options.all "exclude").any describes

/-- Searches a file, and reports that it cannot be read. -/
def file (k : LineSearch) (c : Call) (p name : String) (f : Findings) : Action Findings := do
  match ← read p with
  | .ok b => k.content c name b f
  | .error why =>
    unless k.options.has "s" do c.report (p ++ ": " ++ why)
    let f := { f with failed := true }
    if why == OsError.isADirectory.wording then k.content c name ByteArray.empty f else return f

/-- Searches the files below a directory, at most `n` directories deep. -/
def directory (k : LineSearch) (c : Call) : Nat → String → Location → Findings → Action Findings
  | 0, _, _, f => return f
  | n + 1, start, place, f => do
    let follows := k.options.has "R"
    ((← disk).entriesIn place).foldlM (fun f (name, e) => do
      let shown := Text.toBytewise name
      let p := if start == "" then shown else below start shown
      let resolved ←
        match e, follows with
        | .link _, true => do
          match (← disk).resolve (pathOf p) with
          | .ok (place, e) => pure (some (place, e))
          | .error _ => pure none
        | .link _, false => pure none
        | e, _ => pure (some (place ++ [name], e))
      match resolved with
      | some (inner, .directory _) =>
        let isExcluded := (k.options.all "exclude-dir").any fun p =>
          (NamePattern.ofText p).describes shown.toList
        if isExcluded then return f else directory k c n p inner f
      | some (_, .file _) => if k.includes shown then k.file c p p f else return f
      | _ => return f) f

/-- Searches what an argument names. -/
def operand (k : LineSearch) (c : Call) (recursive : Bool) (p : String) (f : Findings) :
    Action Findings := do
  let isStandard := p == "-"
  let d ← disk
  match (if isStandard then Except.error OsError.notFound else d.resolve (pathOf p)) with
  | .ok (place, .directory _) =>
    if recursive then
      let k := { k with named := k.named || !k.options.hasAny ["h", "H"] }
      k.directory c d.depth p place f
    else if k.options.last? "d" == some "skip" then return f
    else k.file c p p f
  | _ =>
    if !isStandard && !k.includes (lastName p) then return f
    k.file c p (if isStandard then (k.options.last? "label").getD "(standard input)" else p) f

end LineSearch

/-! ## The program -/

/-- The options of the program that looks for lines. -/
def searchForms : List Form :=
  [flag "E" ["extended-regexp"], flag "F" ["fixed-strings"], flag "G" ["basic-regexp"],
    flag "P" ["perl-regexp"], valued "e" ["regexp"], valued "f" ["file"], flag "i" ["ignore-case"],
    flag "y", flag "no-i" ["no-ignore-case"], flag "v" ["invert-match"], flag "w" ["word-regexp"],
    flag "x" ["line-regexp"], flag "c" ["count"], ⟨"color", ["color", "colour"], .maybe⟩,
    flag "L" ["files-without-match"], flag "l" ["files-with-matches"], valued "m" ["max-count"],
    flag "o" ["only-matching"], flag "q" ["quiet", "silent"], flag "s" ["no-messages"],
    flag "b" ["byte-offset"], flag "H" ["with-filename"], flag "h" ["no-filename"],
    valued "label" ["label"], flag "n" ["line-number"], flag "T" ["initial-tab"], flag "Z" ["null"],
    valued "A" ["after-context"], valued "B" ["before-context"], valued "C" ["context"],
    flag "a" ["text"], valued "binary" ["binary-files"], valued "D" ["devices"],
    valued "d" ["directories"], flag "I", flag "r" ["recursive"], flag "R" ["dereference-recursive"],
    valued "include" ["include"], valued "exclude" ["exclude"], valued "exclude-dir" ["exclude-dir"],
    valued "exclude-from" ["exclude-from"], flag "line-buffered" ["line-buffered"], flag "U" ["binary"],
    flag "z" ["null-data"], valued "separator" ["group-separator"],
    flag "unseparated" ["no-group-separator"]] ++
  ((List.range 10).map fun n => flag (toString n))

/-- Says how the program that looks for lines is used. -/
def searchUsage (c : Call) : Action Nat := do
  complain ("Usage: " ++ lastName c.name ++ " [OPTION]... PATTERNS [FILE]...\n" ++
    "Try '" ++ lastName c.name ++ " --help' for more information.\n")
  return 2

/-- The number of lines that options made of digits ask for. -/
def digitContext? (o : Options) : Option Nat :=
  let digits := o.given.flatMap fun g => if g.1.toList.all Char.isDigit then g.1.toList else []
  Text.digits? digits

/-- The expressions of patterns in a form, or what is wrong with one of them. -/
def readPatterns (form : String) (patterns : List String) : Except String (List Regex) :=
  patterns.mapM fun p =>
    match form with
    | "F" => .ok (literalPattern p)
    | "G" => (Regex.read { extended := false, checksClasses := true } p).map (·.1)
    | "P" => (Regex.read { extended := true } (plainForm p)).map (·.1)
    | _ => (Regex.read { extended := true, checksClasses := true } p).map (·.1)

/-- Looks for lines. -/
def grep : Utility := fun c => do
  match Options.parse searchForms true c.arguments with
  | .error m =>
    c.report m.message
    searchUsage c
  | .ok o =>
    let invalid (what : String) : Action Nat := c.fail what 2
    let form ←
      match ["E", "F", "G", "P"].filter o.has with
      | [] => pure "G"
      | [form] => pure form
      | _ => return ← invalid "conflicting matchers specified"
    let sizes := ["A", "B", "C"].filterMap o.last?
    match sizes.find? (number? · |>.isNone) with
    | some s => return ← invalid (s ++ ": invalid context length argument")
    | none => pure ()
    let around := ((o.last? "C").bind number?).orElse fun _ => digitContext? o
    let most ←
      match o.last? "m" with
      | some s =>
        match Text.integer? s with
        | some n => pure (if n < 0 then none else some n.toNat)
        | none => return ← invalid "invalid max count"
      | none => pure none
    let fromFiles ← (o.all "f").mapM fun p => do
      match ← read p with
      | .ok b => return .ok (linesOf b).1
      | .error why => return .error (p ++ ": " ++ why)
    match fromFiles.findSome? fun (x : Except String (List String)) =>
      match x with
      | .error m => some m
      | .ok _ => none with
    | some m => return ← invalid m
    | none => pure ()
    let written := (o.all "e").flatMap (Text.pieces '\n')
    let read := (fromFiles.filterMap Except.toOption).flatten
    let given := o.has "e" || o.has "f"
    match given, o.operands with
    | false, [] => searchUsage c
    | _, operands =>
      let texts := if given then written ++ read else Text.pieces '\n' (operands.headD "")
      let files := if given then operands else operands.drop 1
      match readPatterns form texts with
      | .error m => invalid m
      | .ok patterns =>
        if form == "E" then
          for t in texts do
            for sign in idleSigns t.length true t.toList do
              c.report ("warning: " ++ sign ++ " at start of expression")
        let recursive := o.hasAny ["r", "R"] || o.last? "d" == some "recurse"
        let o := if o.last? "binary" == some "text" then o.give "a" "" else o
        let o := if o.last? "binary" == some "without-match" then o.give "I" "" else o
        let k : LineSearch :=
          { pattern := ⟨patterns, o.lastOf? ["i", "y", "no-i"] ∈ [some "i", some "y"], o.has "x", o.has "w"⟩
            options := if (digitContext? o).isSome then o.give "number" "" else o
            named := o.lastOf? ["H", "h"] == some "H" || (!o.has "h" && decide (1 < files.length))
            before := ((o.last? "B").bind number?).getD (around.getD 0)
            after := ((o.last? "A").bind number?).getD (around.getD 0)
            most }
        let f ←
          if files.isEmpty && recursive then
            let d ← disk
            let k := { k with named := !o.has "h" }
            k.directory c d.depth "" d.workingDirectory {}
          else
            (if files.isEmpty then ["-"] else files).foldlM (fun (f : Findings) p => do
              if f.any && o.has "q" then return f else k.operand c recursive p f) {}
        if f.failed && !(f.any && o.has "q") then return 2
        return if f.any then 0 else 1

/-- Looks for lines with patterns in the form that an option asks for. -/
def grepWith (form : String) : Utility := fun c =>
  grep { c with name := "grep", arguments := ("-" ++ form) :: c.arguments }

/-- Looks for lines with patterns in the extended form. -/
def egrep : Utility := grepWith "E"

/-- Looks for lines with certain texts. -/
def fgrep : Utility := grepWith "F"

end Buildwright.Shell.Utility
