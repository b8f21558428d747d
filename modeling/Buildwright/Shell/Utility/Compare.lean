-- SUMMARY: Programs that compare files: byte by byte, or line by line.
import Buildwright.Shell.Utility.Difference
import Buildwright.Shell.Utility.Calendar
import Buildwright.Shell.Utility.Sort

/-!
# Comparing files

`cmp` finds the first byte in which files differ, and `diff` shows which lines make one file of another.
-/
namespace Buildwright.Shell.Utility

open Shell.Action

/-! ## `cmp` -/

/-- The first place in which bytes differ among at most `n` from a place on. -/
def firstDifference (a b : Bytes) : Nat → Nat → Option Nat
  | 0, _ => none
  | n + 1, i => if a.get! i == b.get! i then firstDifference a b n (i + 1) else some i

/-- A byte in octal digits. -/
def octalByte (x : UInt8) : String :=
  padLeft 3 (String.ofList (Nat.toDigits 8 x.toNat))

/-- Compares files byte by byte. -/
def cmp : Utility := fun c => do
  let forms := [flag "s" ["silent", "quiet"], flag "l" ["verbose"], flag "b" ["print-bytes"],
    valued "n" ["bytes"], valued "i" ["ignore-initial"]]
  let misuse (message : String) : Action Nat := do
    c.report message
    complain (c.name ++ ": Try '" ++ c.name ++ " --help' for more information.\n")
    return 2
  match Options.parse forms true c.arguments with
  | .error m => misuse m.message
  | .ok o =>
    match o.operands with
    | [] => misuse ("missing operand after " ++ quoted c.name)
    | p :: rest =>
      let q := rest.headD "-"
      let load (p : String) : Action (Option Bytes) := do
        match ← read p with
        | .ok b => return some b
        | .error why =>
          unless o.has "s" do c.report (p ++ ": " ++ why)
          return none
      match ← load p with
      | none => return 2
      | some a =>
        match ← load q with
        | none => return 2
        | some b =>
          let skip := ((o.last? "i").bind number?).getD 0
          let cut (b : Bytes) : Bytes :=
            let b := b.extract skip b.size
            match (o.last? "n").bind number? with
            | some n => b.extract 0 n
            | none => b
          let (a, b) := (cut a, cut b)
          let shared := min a.size b.size
          let lineOf (i : Nat) : Nat := (a.extract 0 i).foldl (fun n x => if x == 10 then n + 1 else n) 1
          let shorter (i : Nat) : Action Nat := do
            if a.size == b.size then return 0
            let (name, x) := if a.size < b.size then (p, a) else (q, b)
            unless o.has "s" do
              if x.size == 0 then complain (c.name ++ ": EOF on " ++ name ++ " which is empty\n")
              else
                let line := (x.foldl (fun n y => if y == 10 then n + 1 else n) 0)
                let inside := x.get! (x.size - 1) != 10
                let behind := if o.has "l" then ""
                  else if inside then ", in line " ++ toString (line + 1) else ", line " ++ toString line
                complain (c.name ++ ": EOF on " ++ name ++ " after byte " ++ toString i ++ behind ++ "\n")
            return 1
          if o.has "l" then
            let all := (List.range shared).filter fun i => a.get! i != b.get! i
            let width := (toString (max a.size b.size)).length
            sayLines (all.map fun i =>
              padLeft width (toString (i + 1)) ++ " " ++ octalByte (a.get! i) ++ " " ++ octalByte (b.get! i))
            let status ← shorter shared
            return if all.isEmpty then status else 1
          else
            match firstDifference a b shared 0 with
            | none => shorter shared
            | some i =>
              unless o.has "s" do
                let shown :=
                  if o.has "b" then " is " ++ octalByte (a.get! i) ++ " " ++
                      visible (Char.ofNat (a.get! i).toNat) ++ " " ++ octalByte (b.get! i) ++ " " ++
                      visible (Char.ofNat (b.get! i).toNat)
                  else ""
                say (p ++ " " ++ q ++ " differ: " ++ (if o.has "b" then "byte " else "char ") ++
                  toString (i + 1) ++ ", line " ++ toString (lineOf i) ++ shown ++ "\n")
              return 1

/-! ## Differences of lines -/

/-- Whether lines count as equal. -/
def linesAgree (o : Options) (a b : String) : Bool :=
  let plain (s : String) : List Char :=
    let cs := if o.has "i" then s.toList.map Char.toLower else s.toList
    if o.has "w" then cs.filter (!Text.isSpace ·)
    else if o.has "b" then
      let runs := (cs.reverse.dropWhile Text.isSpace).reverse.splitBy fun x y =>
        Text.isSpace x && Text.isSpace y
      runs.flatMap fun r => if (r.head?.map Text.isSpace).getD false then [' '] else r
    else cs
  a == b || plain a == plain b

/-- The forms in which differences are shown, other than the usual one. -/
inductive DiffStyle where
  | unified
  | contextual
  | sideBySide
  | commands
  | counted
  deriving DecidableEq

/-- The options for forms of differences. -/
def styleKeys : List (String × DiffStyle) :=
  [("u", .unified), ("U", .unified), ("unified", .unified), ("c", .contextual), ("C", .contextual),
    ("context", .contextual), ("y", .sideBySide), ("e", .commands), ("n", .counted)]

/-- The form that options ask for. -/
def styleOf (o : Options) : Option DiffStyle :=
  (o.given.findSome? fun g => styleKeys.lookup g.1)

/-- Whether options ask for different forms. -/
def hasStyles (o : Options) : Bool :=
  let all := o.given.filterMap fun g => styleKeys.lookup g.1
  all.any (· != all.headD .unified) || (o.has "normal" && !all.isEmpty)

/-- A time in the heading of a list with lines around differences. -/
def plainMoment (t : Int) : String :=
  let format := "%a %b %e %T %Y"
  dateText t format.length format.toList

/-- Compares two files, of which the content and the times are given, and gives an exit code. -/
def diffContents (o : Options) (command p q : String) (times : Int × Int) (a b : Bytes) :
    Action Nat := do
  let same := a == b
  let (x, y) := (Compared.ofBytes a, Compared.ofBytes b)
  let eq (s t : String) : Bool := linesAgree o s t
  let marked (k : Compared) : List String :=
    (k.lines.zipIdx).map fun (l, i) => if k.unended == some i then l ++ "\n" else l
  let hs := if same then [] else differences eq (marked x) (marked y)
  let blank (h : Hunk) : Bool := (h.old ++ h.new).all (· == "")
  let hs := if o.has "B" && hs.all blank then [] else hs
  let clean (l : String) : String := (Text.before? "\n" l).getD l
  let hs := hs.map fun h => { h with old := h.old.map clean, new := h.new.map clean }
  let columns : SideBySide :=
    ⟨((o.last? "W").bind number?).getD 130, o.has "t", o.has "suppress", o.has "left"⟩
  if hs.isEmpty then
    if o.has "y" && !o.has "q" then say (columns.text x y 0 0 [])
    if o.has "s" then say ("Files " ++ p ++ " and " ++ q ++ " are identical\n")
    return 0
  if o.has "q" then
    say ("Files " ++ p ++ " and " ++ q ++ " differ\n")
    return 1
  if command != "" then say (command ++ "\n")
  let lines (keys : List String) : Nat :=
    (((o.lastOf? keys).bind o.last?).bind number?).getD 3
  let headed (first second : String) (time : Int → String) : String :=
    let labels := o.all "L"
    first ++ labels.headD (p ++ "\t" ++ time times.1) ++ "\n" ++
      second ++ (labels.drop 1).headD (q ++ "\t" ++ time times.2) ++ "\n"
  match styleOf o with
  | some .unified =>
    say (headed "--- " "+++ " fullMoment ++ unified (lines ["u", "U", "unified"]) x y hs)
  | some .contextual =>
    say (headed "*** " "--- " plainMoment ++ contextual (lines ["c", "C", "context"]) x y hs)
  | some .sideBySide => say (columns.text x y 0 0 hs)
  | some .commands => say (String.join (hs.reverse.map (·.command)))
  | some .counted => say (String.join (hs.map (·.counted y)))
  | none => say (String.join (hs.map (·.normal x y)))
  return 1

/-- Compares the entries of two directories, at most `n` deep. -/
def diffDirectories (c : Call) (o : Options) (flags : String) : Nat → String → String → Action Nat
  | 0, _, _ => return 0
  | n + 1, p, q => do
    let d ← disk
    let entries (p : String) : List (String × Entry) :=
      ((d.readDirectory (pathOf p)).toOption.getD []).map fun (name, e) => (Text.toBytewise name, e)
    let (as, bs) := (entries p, entries q)
    let names := ((as ++ bs).map (·.1)).mergeSort fun a b => decide (a ≤ b)
    eachOf (withoutEqual (· == ·) names) fun name => do
      match as.lookup name, bs.lookup name with
      | some _, none =>
        say ("Only in " ++ p ++ ": " ++ name ++ "\n")
        return 1
      | none, _ =>
        say ("Only in " ++ q ++ ": " ++ name ++ "\n")
        return 1
      | some _, some _ =>
        let (x, y) := (below p name, below q name)
        match d.isDirectory (pathOf x), d.isDirectory (pathOf y) with
        | true, true =>
          if o.has "r" then diffDirectories c o flags n x y
          else
            say ("Common subdirectories: " ++ x ++ " and " ++ y ++ "\n")
            return 0
        | true, false =>
          say ("File " ++ x ++ " is a directory while file " ++ y ++ " is a regular file\n")
          return 1
        | false, true =>
          say ("File " ++ x ++ " is a regular file while file " ++ y ++ " is a directory\n")
          return 1
        | false, false =>
          match d.read (pathOf x), d.read (pathOf y) with
          | .ok a, .ok b =>
            let command := "diff" ++ flags ++ " " ++ x ++ " " ++ y
            diffContents o command x y (time d x, time d y) a b
          | _, _ => return 2
where
  /-- The time of the last change of a file. -/
  time (d : Disk) (p : String) : Int :=
    (d.modifiedAt (pathOf p)).toOption.getD d.now

/-- Compares files line by line. -/
def diff : Utility := fun c => do
  let forms := [flag "u", valued "U", ⟨"unified", ["unified"], .maybe⟩, flag "c", valued "C",
    ⟨"context", ["context"], .maybe⟩, flag "y" ["side-by-side"], valued "W" ["width"],
    flag "t" ["expand-tabs"], flag "suppress" ["suppress-common-lines"], flag "left" ["left-column"],
    flag "e" ["ed"], flag "n" ["rcs"], flag "q" ["brief"], flag "s" ["report-identical-files"],
    flag "r" ["recursive"], flag "i" ["ignore-case"], flag "w" ["ignore-all-space"],
    flag "b" ["ignore-space-change"], flag "B" ["ignore-blank-lines"], flag "N" ["new-file"],
    flag "a" ["text"], flag "d" ["minimal"], valued "L" ["label"], flag "normal" ["normal"],
    flag "strip" ["strip-trailing-cr"], ⟨"color", ["color"], .maybe⟩]
  let misuse (message : String) : Action Nat := do
    c.report message
    complain (c.name ++ ": Try '" ++ c.name ++ " --help' for more information.\n")
    return 2
  match Options.parse forms true c.arguments with
  | .error m => misuse m.message
  | .ok o =>
    if hasStyles o then return ← misuse "conflicting output style options"
    match o.last? "W" with
    | some w => if ((number? w).getD 0) == 0 then return ← misuse ("invalid width " ++ quoted w)
    | none => pure ()
    match o.operands with
    | [] => misuse ("missing operand after " ++ quoted c.name)
    | [p] => misuse ("missing operand after " ++ quoted p)
    | _ :: _ :: extra :: _ => misuse ("extra operand " ++ quoted extra)
    | [p, q] =>
      let d ← disk
      let isThere (p : String) : Bool := p == "-" || (device? p).isSome || (d.resolve (pathOf p)).toBool
      let directories := (d.isDirectory (pathOf p), d.isDirectory (pathOf q))
      let flags := String.join ((c.arguments.filter fun a => Text.beginsWith "-" a && a != "-").map (" " ++ ·))
      match directories with
      | (true, true) => diffDirectories c o flags (d.depth + 1) p q
      | (isDirectory, isDirectory') =>
        let p := if isDirectory then below p (lastName q) else p
        let q := if isDirectory' then below q (lastName p) else q
        let load (p : String) : Action (Except String Bytes) := do
          if !isThere p && o.has "N" then return .ok ByteArray.empty
          read p
        match ← load p, ← load q with
        | .ok a, .ok b =>
          let command := if isDirectory || isDirectory' then "diff" ++ flags ++ " " ++ p ++ " " ++ q else ""
          diffContents o command p q
            (diffDirectories.time d p, diffDirectories.time d q) a b
        | a, b =>
          for (p, found) in [(p, a), (q, b)] do
            match found with
            | .error why => c.report (p ++ ": " ++ why)
            | .ok _ => pure ()
          return 2

end Buildwright.Shell.Utility
