-- SUMMARY: Sorting lines by keys, comparing neighbouring lines, and lines in any order.
import Buildwright.Shell.Utility.Lines
import Buildwright.Shell.Utility.Order

/-!
# Sorted lines

`sort` orders lines by keys, which are parts of lines with an order of their own. `uniq` works on lines that
are sorted already.
-/
namespace Buildwright.Shell.Utility

open Shell.Action

/-! ## Keys -/

/-- How parts of lines are compared. -/
structure Comparison where
  letters : List Char
  deriving DecidableEq

namespace Comparison

/-- Whether a letter is among those that say how to compare. -/
def has (k : Comparison) (c : Char) : Bool := k.letters.contains c

end Comparison

/-- A place in a line: a field and a character of it, both from one on; no character is the end. -/
structure FieldPlace where
  field : Nat
  char : Nat

/-- A part of a line by which lines are sorted. -/
structure SortKey where
  start : FieldPlace
  stop : Option FieldPlace
  comparison : Comparison
  /-- Whether blanks in front of the start, and of the stop, do not count. -/
  skipsStart : Bool
  skipsStop : Bool

/-- A line behind its first `n` fields. -/
def dropFields (separator : Option Char) : Nat → List Char → List Char
  | 0, cs => cs
  | n + 1, cs =>
    match separator with
    | some s => dropFields separator n ((cs.dropWhile (· != s)).drop 1)
    | none => dropFields separator n ((cs.dropWhile isBlankChar).dropWhile (!isBlankChar ·))

/-- The number of characters of a line up to the end of a field. -/
def fieldEnd (separator : Option Char) (n : Nat) (cs : List Char) : Nat :=
  let before := dropFields separator (n - 1) cs
  let rest :=
    match separator with
    | some s => before.dropWhile (· != s)
    | none => (before.dropWhile isBlankChar).dropWhile (!isBlankChar ·)
  cs.length - rest.length

/-- The part of a line that a key names. -/
def SortKey.part (separator : Option Char) (k : SortKey) (cs : List Char) : List Char :=
  let field := dropFields separator (k.start.field - 1) cs
  let field := if k.skipsStart then field.dropWhile isBlankChar else field
  let start := cs.length - (field.drop (k.start.char - 1)).length
  let stop :=
    match k.stop with
    | none => cs.length
    | some p =>
      if p.char == 0 then fieldEnd separator p.field cs
      else
        let last := dropFields separator (p.field - 1) cs
        let last := if k.skipsStop then last.dropWhile isBlankChar else last
        cs.length - (last.drop p.char).length
  (cs.take stop).drop start

/-- The number that a part of a key begins with, and what follows it. -/
def fieldCount (what : String) (cs : List Char) : Except String (Nat × List Char) :=
  match Text.leadingDigits? 10 cs with
  | some found => .ok found
  | none => .error (what ++ ": invalid count at start of " ++ quoted (String.ofList cs))

/-- Letters that say how to compare, and what follows them. -/
def comparisonLetters (cs : List Char) : List Char × List Char :=
  cs.span fun c => ['b', 'd', 'f', 'g', 'h', 'i', 'M', 'n', 'R', 'r', 'V'].contains c

/-- The key that a text writes, or what is wrong with it; without letters of its own, the key is compared in
    the usual way. -/
def sortKey (usual : Comparison) (usualSkips : Bool) (s : String) : Except String SortKey := do
  let wrong (what : String) : Except String SortKey :=
    .error (what ++ ": invalid field specification " ++ quoted s)
  let (field, rest) ← fieldCount "invalid number at field start" s.toList
  if field == 0 then return ← wrong "field number is zero"
  let (char, rest) ←
    match rest with
    | '.' :: more => fieldCount "invalid number after '.'" more
    | _ => .ok (1, rest)
  if char == 0 then return ← wrong "character offset is zero"
  let (startLetters, rest) := comparisonLetters rest
  let (stop, rest) ←
    match rest with
    | ',' :: more => do
      let (field, rest) ← fieldCount "invalid number after ','" more
      let (char, rest) ←
        match rest with
        | '.' :: more => fieldCount "invalid number after '.'" more
        | _ => .ok (0, rest)
      .ok (some (⟨field, char⟩ : FieldPlace), rest)
    | _ => .ok (none, rest)
  if stop.any (·.field == 0) then return ← wrong "field number is zero"
  let (stopLetters, rest) := if stop.isSome then comparisonLetters rest else ([], rest)
  if !rest.isEmpty then return ← wrong "stray character in field spec"
  let own := startLetters ++ stopLetters
  return {
    start := ⟨field, char⟩, stop
    comparison := if own.isEmpty then usual else ⟨own.filter (· != 'b')⟩
    skipsStart := startLetters.contains 'b' || (own.isEmpty && usualSkips)
    skipsStop := stopLetters.contains 'b' || (own.isEmpty && usualSkips) }

/-- The letters of ways to compare that cannot stand together, if there are such. -/
def Comparison.conflict? (k : Comparison) : Option String :=
  let ways := ['n', 'g', 'h', 'M'].countP k.has + if ['V', 'R', 'd', 'i'].any k.has then 1 else 0
  let shown := ['d', 'f', 'g', 'h', 'i', 'M', 'n', 'R', 'V'].filter fun c =>
    k.has c && (c != 'i' || !k.has 'd')
  if 1 < ways then some (String.ofList shown) else none

/-! ## Orders -/

/-- The order of parts of lines. -/
def Comparison.compare (k : Comparison) (a b : List Char) : Ordering :=
  let plain (cs : List Char) : List Char :=
    let cs := if k.has 'd' then cs.filter fun c => c.isAlphanum || isBlankChar c else cs
    let cs := if k.has 'i' then cs.filter fun c => ' ' ≤ c && c ≤ '~' else cs
    if k.has 'f' then cs.map Char.toUpper else cs
  let order :=
    if k.has 'n' then compareNumbers a b
    else if k.has 'g' then compareFloats a b
    else if k.has 'h' then compareSizes a b
    else if k.has 'M' then Ord.compare (monthOf a) (monthOf b)
    else if k.has 'V' then compareVersions (plain a) (plain b)
    else compareChars (plain a) (plain b)
  if k.has 'r' then order.swap else order

/-! ## `sort` -/

/-- How lines are sorted. -/
structure Sorting where
  keys : List SortKey
  comparison : Comparison
  separator : Option Char
  /-- Whether lines that compare as equal keep their order. -/
  stable : Bool
  skips : Bool

/-- The order of lines by their keys. -/
def Sorting.byKeys (s : Sorting) (a b : List Char) : Ordering :=
  if s.keys.isEmpty then
    let cut (cs : List Char) := if s.skips then cs.dropWhile isBlankChar else cs
    s.comparison.compare (cut a) (cut b)
  else
    s.keys.foldl (fun order k =>
      order.then (k.comparison.compare (k.part s.separator a) (k.part s.separator b))) .eq

/-- The order of lines. -/
def Sorting.compare (s : Sorting) (a b : List Char) : Ordering :=
  let order := s.byKeys a b
  if s.stable then order
  else
    let last := compareChars a b
    order.then (if s.comparison.has 'r' then last.swap else last)

/-- Lines of which those that compare as equal to the one before them are left out. -/
def withoutEqual {α : Type} (same : α → α → Bool) : List α → List α
  | [] => []
  | a :: rest =>
    match withoutEqual same rest with
    | [] => [a]
    | b :: more => if same a b then a :: more else a :: b :: more

/-- The first line that comes before the one in front of it, with its number. -/
def disorder? (isBefore : String → String → Bool) : Nat → List String → Option (Nat × String)
  | n, a :: b :: rest => if isBefore a b then disorder? isBefore (n + 1) (b :: rest) else some (n + 1, b)
  | _, _ => none

/-- Writes lines in order. -/
def sort : Utility :=
  withOptions
    [flag "n" ["numeric-sort"], flag "r" ["reverse"], flag "u" ["unique"], valued "k" ["key"],
      valued "t" ["field-separator"], flag "f" ["ignore-case"], flag "b" ["ignore-leading-blanks"],
      flag "d" ["dictionary-order"], flag "i" ["ignore-nonprinting"], flag "g" ["general-numeric-sort"],
      flag "h" ["human-numeric-sort"], flag "M" ["month-sort"], flag "V" ["version-sort"],
      flag "R" ["random-sort"], flag "s" ["stable"], flag "m" ["merge"], flag "z" ["zero-terminated"],
      ⟨"c", ["check"], .maybe⟩, flag "C", valued "o" ["output"], valued "T" ["temporary-directory"],
      valued "S" ["buffer-size"], valued "parallel" ["parallel"], valued "sort" ["sort"]] run 2
where
  /-- Sorts the lines of files. -/
  run (c : Call) (o : Options) : Action Nat := do
    let words := [("general-numeric", 'g'), ("human-numeric", 'h'), ("month", 'M'), ("numeric", 'n'),
      ("random", 'R'), ("version", 'V')]
    let chosen ←
      match (o.all "sort").mapM (choiceOf "sort" (words.map fun w => [w.1])) with
      | .ok names => pure (names.filterMap fun name => words.lookup name)
      | .error why => return ← c.misused why 2
    let letters := ['n', 'r', 'f', 'd', 'i', 'g', 'h', 'M', 'V', 'R'].filter fun ch =>
      o.has (String.singleton ch) || chosen.contains ch
    let comparison : Comparison := ⟨letters⟩
    let incompatible (letters : String) : Action Nat :=
      c.fail ("options '-" ++ letters ++ "' are incompatible") 2
    if o.has "c" && o.has "C" then return ← incompatible "cC"
    match (o.all "t").eraseDups with
    | [t] =>
      if t == "" then return ← c.fail "empty tab" 2
      else if 1 < t.length && t != "\x5c0" then return ← c.fail ("multi-character tab " ++ quoted t) 2
    | _ :: _ :: _ => return ← c.fail "incompatible tabs" 2
    | [] => pure ()
    let keys ←
      match (o.all "k").mapM (sortKey comparison (o.has "b")) with
      | .ok keys => pure keys
      | .error why => return ← c.fail why 2
    let compared := if keys.isEmpty then [comparison] else keys.map (·.comparison)
    if let some letters := compared.findSome? Comparison.conflict? then return ← incompatible letters
    let s : Sorting :=
      { keys, comparison
        separator := (o.last? "t").bind fun t => if t == "\x5c0" then some '\x00' else t.toList.head?
        stable := o.hasAny ["s", "u"], skips := o.has "b" }
    if o.hasAny ["c", "C"] then
      let way := if o.has "c" then "c" else "C"
      match o.operands with
      | _ :: extra :: _ =>
        return ← c.fail ("extra operand " ++ quotedName extra ++ " not allowed with -" ++ way) 2
      | _ => if o.has "o" then return ← incompatible (way ++ "o")
    let ending := if o.has "z" then '\x00' else '\n'
    let files := if o.operands.isEmpty then ["-"] else o.operands
    let read (p : String) : Action (Except Nat (List String)) := do
      match ← source p with
      | .error why => return .error (← c.fail ("cannot read: " ++ shownName p ++ ": " ++ why) 2)
      | .ok channel =>
        match ← drain channel with
        | .error why => return .error (← c.fail ("read failed: " ++ shownName p ++ ": " ++ why) 2)
        | .ok b => return .ok ((piecesUpTo ending (Text.bytewise b).toList).1.map String.ofList)
    let all ← files.foldlM (fun (all : Except Nat (List (List String))) p => do
      match all with
      | .error n => return .error n
      | .ok lists =>
        match ← read p with
        | .ok lines => return .ok (lines :: lists)
        | .error n => return .error n) (.ok [])
    match all with
    | .error n => return n
    | .ok lists =>
      let lines := lists.reverse.flatten
      let isBefore (a b : String) : Bool := (s.compare a.toList b.toList).isLE
      if o.hasAny ["c", "C"] then
        let strict (a b : String) : Bool :=
          if o.has "u" then s.byKeys a.toList b.toList == .lt else isBefore a b
        match disorder? strict 1 lines with
        | none => return 0
        | some (n, line) =>
          if o.has "C" || (o.last? "c").any fun how => ["quiet", "silent"].contains how then return 1
          else c.fail (files.headD "-" ++ ":" ++ toString n ++ ": disorder: " ++ line)
      else
        let sorted :=
          if o.has "m" then lists.reverse.foldl (fun merged l => merged.merge l isBefore) []
          else lines.mergeSort isBefore
        let kept :=
          if o.has "u" then withoutEqual (fun a b => s.byKeys a.toList b.toList == .eq) sorted else sorted
        let text := String.join (kept.map (·.push ending))
        match o.last? "o" with
        | some p =>
          let status ← save c p .emptied (Text.bytesOf text) "open failed: "
          return if status == 0 then 0 else 2
        | none =>
          say text
          return 0

/-! ## `uniq` -/

/-- Lines that follow one another and compare as equal. -/
def groupLines (same : String → String → Bool) (lines : List String) : List (List String) :=
  lines.splitBy same

/-- The lines of groups with empty lines in front of each, behind each, or between them. -/
def withEmptyLines (how : String) (groups : List (List String)) : List String :=
  match how with
  | "prepend" => groups.flatMap ([""] ++ ·)
  | "append" => groups.flatMap (· ++ [""])
  | "both" => groups.flatMap ([""] ++ ·) ++ if groups.isEmpty then [] else [""]
  | "separate" => [""].intercalate groups
  | _ => groups.flatten

/-- The part of a line that is compared with that of its neighbours. -/
def comparedPart (fields chars : Nat) (size : Option Nat) (ignoresCase : Bool) (l : String) : List Char :=
  let cs := (dropFields none fields l.toList).drop chars
  let cs := (size.map cs.take).getD cs
  if ignoresCase then cs.map Char.toLower else cs

/-- Writes lines of which those that are like the line in front of them are left out. -/
def uniq : Utility :=
  withOptions
    [flag "c" ["count"], flag "d" ["repeated"], flag "D", ⟨"all", ["all-repeated"], .maybe⟩,
      ⟨"group", ["group"], .maybe⟩, flag "u" ["unique"], flag "i" ["ignore-case"], valued "f" ["skip-fields"],
      valued "s" ["skip-chars"], valued "w" ["check-chars"], flag "z" ["zero-terminated"]] fun c o => do
    let way (key option usual : String) (choices : List String) : Except String String :=
      match (o.last? key).getD "" with
      | "" => .ok usual
      | s => choiceOf option (choices.map ([·])) s
    let (group, all) ←
      match way "group" "group" "separate" ["prepend", "append", "separate", "both"],
          way "all" "all-repeated" "none" ["none", "prepend", "separate"] with
      | .ok group, .ok all => pure (group, all)
      | .error why, _ | _, .error why => return ← c.misused why
    let number (key what : String) : Except String (Option Nat) :=
      match o.last? key with
      | none => .ok none
      | some s =>
        match number? s with
        | some n => .ok (some n)
        | none => .error (s ++ ": invalid number of " ++ what)
    let (fields, chars, size) ←
      match number "f" "fields to skip", number "s" "bytes to skip", number "w" "bytes to compare" with
      | .ok f, .ok s, .ok w => pure (f.getD 0, s.getD 0, w)
      | .error why, _, _ | _, .error why, _ | _, _, .error why => return ← c.fail why
    let isAll := o.hasAny ["D", "all"]
    if o.has "group" && o.hasAny ["c", "d", "D", "all", "u"] then
      return ← c.misused "--group is mutually exclusive with -c/-d/-D/-u"
    if isAll && o.has "c" then
      return ← c.misused "printing all duplicated lines and repeat counts is meaningless"
    let ending := if o.has "z" then '\x00' else '\n'
    let part := comparedPart fields chars size (o.has "i")
    match o.operands with
    | _ :: _ :: extra :: _ => c.misused ("extra operand " ++ quoted extra)
    | files =>
      let p := files.headD "-"
      match ← source p with
      | .error why => c.fail (shownName p ++ ": " ++ why)
      | .ok channel =>
        match ← drain channel with
        | .error why => c.fail ("error reading " ++ quotedName p ++ ": " ++ why)
        | .ok b =>
          let lines := (piecesUpTo ending (Text.bytewise b).toList).1.map String.ofList
          let groups := groupLines (fun a b => part a == part b) lines
          let repeated := groups.filter (1 < ·.length)
          let counted (g : List String) : String :=
            let line := g.headD ""
            if o.has "c" then padLeft 7 (toString g.length) ++ " " ++ line else line
          let shown :=
            if o.has "group" then withEmptyLines group groups
            else if isAll then withEmptyLines all (if o.has "u" then repeated.map List.dropLast else repeated)
            else
              (groups.filter fun g =>
                (!o.has "d" || 1 < g.length) && (!o.has "u" || g.length == 1)).map counted
          let text := String.join (shown.map (·.push ending))
          match files with
          | [_, target] => save c target .emptied (Text.bytesOf text)
          | _ =>
            say text
            return 0

/-! ## Any order -/

/-- A range of numbers. -/
def rangeOf? (s : String) : Option (List Nat) := do
  match Text.pieces '-' s with
  | [a, b] =>
    let first ← number? a
    let last ← number? b
    if first ≤ last + 1 then some ((List.range (last + 1 - first)).map (first + ·)) else none
  | _ => none

/-- Writes lines in an order that does not matter, which is the one in which they stand. -/
def shuf : Utility :=
  withOptions
    [flag "e" ["echo"], valued "i" ["input-range"], valued "n" ["head-count"], valued "o" ["output"],
      valued "source" ["random-source"], flag "r" ["repeat"], flag "z" ["zero-terminated"]] fun c o => do
    let ending := if o.has "z" then '\x00' else '\n'
    let extra := if o.has "e" then [] else o.operands.drop (if o.has "i" then 0 else 1)
    if o.has "e" && o.has "i" then return ← c.misused "cannot combine -e and -i options"
    if let a :: _ := extra then return ← c.misused ("extra operand " ++ quoted a)
    let limit := (o.last? "n").map fun s => (s, number? s)
    if let some (s, none) := limit then return ← c.fail ("invalid line count: " ++ quoted s)
    let count := limit.bind (·.2)
    let lines ←
      match o.last? "i" with
      | some s =>
        match rangeOf? s with
        | some ns => pure (ns.map toString)
        | none => return ← c.fail ("invalid input range: " ++ quoted s)
      | none =>
        if o.has "e" then pure o.operands
        else
          match ← content? c (o.operands.headD "-") with
          | some b => pure ((piecesUpTo ending (Text.bytewise b).toList).1.map String.ofList)
          | none => return 1
    let written :=
      if o.has "r" then (List.replicate (count.getD manyZeros) lines).flatten.take (count.getD manyZeros)
      else lines.take (count.getD lines.length)
    let text := String.join (written.map (·.push ending))
    match o.last? "o" with
    | some p => save c p .emptied (Text.bytesOf text)
    | none =>
      say text
      return 0

end Buildwright.Shell.Utility
