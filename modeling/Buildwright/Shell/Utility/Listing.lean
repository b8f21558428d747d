-- SUMMARY: Programs that show what lies in directories.
import Buildwright.Shell.Format
import Buildwright.Shell.Utility.Files
import Buildwright.Text.Grid

/-!
# Listings

`ls` shows names, `stat` what is known of single files. Files that may be executed show the mode 755 and
others 644; everything belongs to `root`.
-/
namespace Buildwright.Shell.Utility

open Shell.Action

/-! ## What is known of entries -/

/-- The size of a directory, as it is shown. -/
def directorySize : Nat := 4096

/-- The size of an entry in bytes. -/
def sizeOfEntry : Entry → Nat
  | .file f => f.content.size
  | .directory _ | .closed => directorySize
  | .link target => target.text.utf8ByteSize

/-- The letter that stands for the kind of an entry. -/
def kindOfEntry : Entry → Char
  | .file _ => '-'
  | .directory _ | .closed => 'd'
  | .link _ => 'l'

/-- The mode of an entry, in octal digits. -/
def modeOfEntry : Entry → String
  | .file f => if f.executable then "755" else "644"
  | .directory _ => "755"
  | .closed => "000"
  | .link _ => "777"

/-- The letters of a mode. -/
def modeLetters (mode : String) : String :=
  String.ofList (mode.toList.flatMap fun c =>
    let n := c.toNat - '0'.toNat
    [if n / 4 % 2 == 1 then 'r' else '-', if n / 2 % 2 == 1 then 'w' else '-',
      if n % 2 == 1 then 'x' else '-'])

/-- The time of the last change of an entry. -/
def timeOfEntry (d : Disk) (e : Entry) : Int := (Disk.Entry.modified? e).getD d.now

/-! ## Dates -/

/-- A date and a time of the day. -/
structure Moment where
  year : Int
  month : Nat
  day : Nat
  second : Nat

/-- The moment of a time in seconds since the beginning of 1970. -/
def momentOf (seconds : Int) : Moment :=
  let days := seconds / 86400
  let z := days + 719468
  let era := z / 146097
  let ofEra := z % 146097
  let yearOfEra := (ofEra - ofEra / 1460 + ofEra / 36524 - ofEra / 146096) / 365
  let ofYear := ofEra - (365 * yearOfEra + yearOfEra / 4 - yearOfEra / 100)
  let m := (5 * ofYear + 2) / 153
  let month := if m < 10 then m + 3 else m - 9
  let year := yearOfEra + era * 400 + if month ≤ 2 then 1 else 0
  ⟨year, month.toNat, (ofYear - (153 * m + 2) / 5 + 1).toNat, (seconds % 86400).toNat⟩

/-- A number with at least two digits. -/
def twoDigits (n : Nat) : String := if n < 10 then "0" ++ toString n else toString n

/-- The short names of the months. -/
def monthNames : List String :=
  ["Jan", "Feb", "Mar", "Apr", "May", "Jun", "Jul", "Aug", "Sep", "Oct", "Nov", "Dec"]

/-- A text filled up with blanks on the left. -/
def padLeft (width : Nat) (s : String) : String :=
  String.ofList (List.replicate (width - s.length) ' ') ++ s

/-- A text filled up with blanks on the right. -/
def padRight (width : Nat) (s : String) : String :=
  s ++ String.ofList (List.replicate (width - s.length) ' ')

/-- The hour and the minute of a moment. -/
def Moment.clock (m : Moment) : String :=
  twoDigits (m.second / 3600) ++ ":" ++ twoDigits (m.second / 60 % 60)

/-- A moment as listings show it: with the time of the day if it is not long past. -/
def Moment.shown (m : Moment) (recent : Bool) : String :=
  (monthNames[m.month - 1]?).getD "" ++ " " ++ padLeft 2 (toString m.day) ++ " " ++
    if recent then m.clock else padLeft 5 (toString m.year)

/-! ## `ls` -/

/-- A name in a listing, with the entry and its place. -/
structure Listed where
  name : String
  place : Location
  entry : Entry

/-- The sign behind a name that shows what it names. -/
def classSign (o : Options) (x : Listed) : String :=
  if o.has "F" then
    match x.entry with
    | .directory _ | .closed => "/"
    | .link _ => if o.has "l" then "" else "@"
    | .file f => if f.executable then "*" else ""
  else if o.has "p" then
    match x.entry with
    | .directory _ | .closed => "/"
    | _ => ""
  else ""

/-- The number of links to an entry. -/
def linksTo (d : Disk) (x : Listed) : Nat :=
  match x.entry with
  | .directory _ => 2 + ((d.entriesIn x.place).filter fun (_, e) => kindOfEntry e == 'd').length
  | _ => 1

/-- The line of an entry in a long listing; `widths` are those of the number of links and of the size. -/
def longLine (o : Options) (d : Disk) (linkWidth sizeWidth : Nat) (x : Listed) : String :=
  let t := timeOfEntry d x.entry
  let recent := decide (t ≤ d.now) && decide (d.now - t < 15778476 * 1000000000)
  let target :=
    match x.entry with
    | .link p => " -> " ++ Text.toBytewise p.text
    | _ => ""
  let owner := if o.has "n" then "0" else "root"
  String.singleton (kindOfEntry x.entry) ++ modeLetters (modeOfEntry x.entry) ++ " " ++
    padLeft linkWidth (toString (linksTo d x)) ++
    (if o.has "g" then "" else " " ++ owner) ++ (if o.has "o" then "" else " " ++ owner) ++ " " ++
    padLeft sizeWidth (toString (sizeOfEntry x.entry)) ++ " " ++
    (momentOf (t / 1000000000)).shown recent ++ " " ++ x.name ++ classSign o x ++ target

/-- The number of blocks of 1024 bytes that an entry takes. -/
def blocksOf : Entry → Nat
  | .file f => (f.content.size + 4095) / 4096 * 4
  | .directory _ | .closed => 4
  | .link _ => 0

/-- The order of a listing. -/
def inOrder (o : Options) (d : Disk) (xs : List Listed) : List Listed :=
  let byName (x y : Listed) : Bool := decide (x.name ≤ y.name)
  let sorted :=
    match o.lastOf? ["t", "S", "U", "f"] with
    | some "t" =>
      xs.mergeSort fun x y =>
        let (a, b) := (timeOfEntry d x.entry, timeOfEntry d y.entry)
        decide (b < a) || (a == b && byName x y)
    | some "S" =>
      xs.mergeSort fun x y =>
        let (a, b) := (sizeOfEntry x.entry, sizeOfEntry y.entry)
        decide (b < a) || (a == b && byName x y)
    | some _ => xs
    | none => xs.mergeSort byName
  if o.has "r" then sorted.reverse else sorted

/-- How names are arranged, by the letter of the option. -/
def arrangement (o : Options) : Option String :=
  let chosen := o.given.filterMap fun (key, value) =>
    if ["1", "m", "C", "x"].contains key then some key
    else if key == "format" then
      ([("commas", "m"), ("vertical", "C"), ("across", "x"), ("horizontal", "x"), ("single-column", "1")].find?
        fun f => Text.beginsWith value f.1).map (·.2)
    else none
  chosen.getLast?

/-- The columns in which names stand. -/
def gridOf (o : Options) (isAcross : Bool) : Text.Grid :=
  let number (key : String) (otherwise : Nat) : Nat := ((o.last? key).bind number?).getD otherwise
  { width := number "w" 80, tab := number "T" 8, isAcross }

/-- Entries as a listing shows them. -/
def listed (o : Options) (d : Disk) (total : Bool) (xs : List Listed) : String :=
  let xs := inOrder o d xs
  if o.hasAny ["l", "n", "g", "o"] then
    let linkWidth := xs.foldl (fun n x => max n (toString (linksTo d x)).length) 1
    let sizeWidth := xs.foldl (fun n x => max n (toString (sizeOfEntry x.entry)).length) 1
    let blocks := xs.foldl (fun n x => n + blocksOf x.entry) 0
    (if total then "total " ++ toString blocks ++ "\n" else "") ++
      ended (xs.map (longLine o d linkWidth sizeWidth))
  else
    let names := xs.map fun x =>
      (if o.has "s" then toString (blocksOf x.entry) ++ " " else "") ++
        (if o.has "Q" then "\x22" ++ x.name ++ "\x22" else x.name) ++ classSign o x
    match arrangement o with
    | some "m" => if names.isEmpty then "" else String.ofList ((gridOf o false).listed 0 names) ++ "\n"
    | some "C" => ended ((gridOf o false).lines names)
    | some "x" => ended ((gridOf o true).lines names)
    | _ => ended names

/-- What a listing shows of a directory. -/
def insideOf (o : Options) (d : Disk) (place : Location) : List Listed :=
  let dots : List Listed :=
    if o.hasAny ["a", "f"] then
      [⟨".", place, .directory d.now⟩, ⟨"..", place.dropLast, .directory d.now⟩]
    else []
  let found := (d.entriesIn place).map fun (name, e) =>
    (⟨Text.toBytewise name, place ++ [name], e⟩ : Listed)
  let ignored := (o.all "I").map NamePattern.ofText
  dots ++ found.filter fun x =>
    (o.hasAny ["a", "A", "f"] || !Text.beginsWith "." x.name) &&
      !ignored.any fun p => p.describes x.name.toList

/-- The listings of a directory and of those below it, at most `n` deep, with their paths. -/
def listingsBelow (o : Options) (d : Disk) : Nat → String → Location → List (String × String)
  | 0, _, _ => []
  | n + 1, shown, place =>
    let xs := insideOf o d place
    (shown, listed o d true xs) ::
      if o.has "R" then
        (inOrder o d xs).flatMap fun x =>
          match x.entry with
          | .directory _ =>
            if x.name == "." || x.name == ".." then []
            else listingsBelow o d n (below shown x.name) x.place
          | _ => []
      else []

/-- Writes files, and then the names in directories, with headings if there are several of them. -/
def ls : Utility :=
  withOptions
    [flag "1", flag "a" ["all"], flag "A" ["almost-all"], flag "d" ["directory"], flag "l",
      flag "R" ["recursive"], flag "r" ["reverse"], flag "t", flag "S", flag "U", flag "f",
      ⟨"F", ["classify"], .maybe⟩, flag "p", flag "h" ["human-readable"], flag "n" ["numeric-uid-gid"],
      flag "i" ["inode"], flag "s" ["size"], flag "m", flag "C", flag "x", flag "q", flag "N" ["literal"],
      flag "Q" ["quote-name"], flag "b" ["escape"], flag "g", flag "o", flag "G" ["no-group"],
      flag "k" ["kibibytes"], flag "L" ["dereference"], flag "H", flag "c", flag "u", flag "v", flag "X",
      flag "Z" ["context"], flag "B" ["ignore-backups"], valued "I" ["ignore"], valued "w" ["width"],
      valued "T" ["tabsize"], valued "format" ["format"],
      ⟨"color", ["color"], .maybe⟩, valued "sort" ["sort"], valued "time" ["time"],
      flag "full" ["full-time"], valued "style" ["time-style"],
      flag "first" ["group-directories-first"]] run 2
where
  /-- Writes the listings of paths. -/
  run (c : Call) (o : Options) : Action Nat := do
    let d ← disk
    let o :=
      match (← valueOf? "COLUMNS").bind number? with
      | some n => if o.has "w" || n == 0 then o else o.give "w" (toString n)
      | none => o
    let paths := if o.operands.isEmpty then ["."] else o.operands
    let follows := !o.hasAny ["l", "n", "g", "o", "d", "F"] || o.hasAny ["L", "H"]
    let look (p : String) : Except IoError Listed :=
      let found : Except IoError (Location × Entry) :=
        match d.locate (pathOf p) false with
        | .ok (.present place e) =>
          match e, follows with
          | .link _, true =>
            match d.resolve (pathOf p) with
            | .ok found => .ok found
            | .error _ => .ok (place, e)
          | _, _ => .ok (place, e)
        | .ok (.absent _ _) => .error OsError.notFound
        | .error e => .error e
      found.map fun (place, e) => ⟨p, place, e⟩
    let status ← eachOf paths fun p => do
      match look p with
      | .ok _ => return 0
      | .error e => c.fail ("cannot access " ++ quotedName p ++ ": " ++ wording e) 2
    let all := inOrder o d (paths.filterMap fun p => (look p).toOption)
    let isShownInside (x : Listed) : Bool :=
      match x.entry with
      | .directory _ => !o.has "d"
      | _ => false
    let files := all.filter (!isShownInside ·)
    let directories := all.filter isShownInside
    let listings := directories.flatMap fun x => listingsBelow o d (d.depth + 1) x.name x.place
    let headed := paths.length != 1 || o.has "R"
    let blocks := listings.map fun (p, text) => (if headed then p ++ ":\n" else "") ++ text
    say (Text.joined "\n" ((if files.isEmpty then [] else [listed o d false files]) ++ blocks))
    return status

/-- Writes names in columns. -/
def dir : Utility := fun c =>
  ls { c with arguments := "-C" :: "-b" :: c.arguments }

/-! ## `stat` -/

/-- The name of the kind of an entry. -/
def kindName : Entry → String
  | .file f => if f.content.size == 0 then "regular empty file" else "regular file"
  | .directory _ | .closed => "directory"
  | .link _ => "symbolic link"

/-- A moment with all its parts. -/
def fullMoment (t : Int) : String :=
  let m := momentOf (t / 1000000000)
  let fraction := toString (1000000000 + (t % 1000000000).toNat)
  toString m.year ++ "-" ++ twoDigits m.month ++ "-" ++ twoDigits m.day ++ " " ++ m.clock ++ ":" ++
    twoDigits (m.second % 60) ++ "." ++ String.ofList (fraction.toList.drop 1) ++ " +0000"

/-- What a letter behind a percent sign shows of an entry. -/
def statField (d : Disk) (p : String) (e : Entry) : Char → String
  | 'n' => p
  | 'N' =>
    match e with
    | .link target => quotedName p ++ " -> " ++ quotedName (Text.toBytewise target.text)
    | _ => quotedName p
  | 's' => toString (sizeOfEntry e)
  | 'F' => kindName e
  | 'a' => modeOfEntry e
  | 'A' => String.singleton (kindOfEntry e) ++ modeLetters (modeOfEntry e)
  | 'f' =>
    match kindOfEntry e with
    | 'd' => "41ed"
    | 'l' => "a1ff"
    | _ => if modeOfEntry e == "755" then "81ed" else "81a4"
  | 'Y' | 'X' | 'Z' | 'W' => toString (timeOfEntry d e / 1000000000)
  | 'y' | 'x' | 'z' | 'w' => fullMoment (timeOfEntry d e)
  | 'u' | 'g' => "0"
  | 'U' | 'G' => "root"
  | 'h' => "1"
  | 'b' => toString (2 * blocksOf e)
  | 'B' => "512"
  | 'o' => "4096"
  | '%' => "%"
  | c => "?" ++ String.singleton c

/-- A format of `stat` with the fields of an entry; `escapes` tells whether backslashes count. -/
def statText (escapes : Bool) (field : Char → String) : List Char → String
  | '%' :: c :: cs => field c ++ statText escapes field cs
  | '\x5c' :: 'n' :: cs => (if escapes then "\n" else "\x5cn") ++ statText escapes field cs
  | '\x5c' :: 't' :: cs => (if escapes then "\t" else "\x5ct") ++ statText escapes field cs
  | c :: cs => String.singleton c ++ statText escapes field cs
  | [] => ""

/-- Shows what is known of files. -/
def stat : Utility :=
  withOptions
    [valued "c" ["format"], valued "printf" ["printf"], flag "L" ["dereference"], flag "t" ["terse"],
      flag "f" ["file-system"]] fun c o => do
    if o.operands.isEmpty then return ← c.misused "missing operand"
    eachOf o.operands fun p => do
      let d ← disk
      let found : Except IoError Entry :=
        match d.locate (pathOf p) (o.has "L") with
        | .ok (.present _ e) => .ok e
        | .ok (.absent _ _) => .error OsError.notFound
        | .error e => .error e
      match found with
      | .error e =>
        c.fail ("cannot statx " ++ quotedName p ++ ": " ++ wording e)
      | .ok e =>
        match o.last? "printf", o.last? "c" with
        | some f, _ => say (statText true (statField d p e) f.toList)
        | none, some f => say (statText false (statField d p e) f.toList ++ "\n")
        | none, none =>
          say ("  File: " ++ statField d p e 'N' ++ "\n  Size: " ++ toString (sizeOfEntry e) ++ "\n")
        return 0

end Buildwright.Shell.Utility
