-- SUMMARY: Programs that pass on lines: all of them, the first or the last ones, or in another form.
import Buildwright.Shell.Regex.Reader
import Buildwright.Shell.Utility.Listing
import Buildwright.Shell.Utility.Print

/-!
# Passing lines on

Programs that read files one after the other and write their lines, some of them, or their number.
-/
namespace Buildwright.Shell.Utility

open Shell.Action

/-! ## `cat` and `tee` -/

/-- A character as it is shown where all are to be visible; tabulators and line ends are not changed. -/
def visible (c : Char) : String :=
  let low (n : Nat) : String :=
    if n == 9 || n == 10 then String.singleton (Char.ofNat n)
    else if n < 32 then "^" ++ String.singleton (Char.ofNat (n + 64))
    else if n == 127 then "^?"
    else String.singleton (Char.ofNat n)
  if c.toNat < 128 then low c.toNat
  else
    match c.toNat - 128 with
    | 9 => "M-^I"
    | 10 => "M-^J"
    | n => "M-" ++ low n

/-- How lines are shown by `cat`. -/
structure Showing where
  numbered : Bool
  /-- Whether only lines with something in them have numbers. -/
  filled : Bool
  squeezed : Bool
  ends : Bool
  tabs : Bool
  allVisible : Bool

namespace Showing

/-- A line as it is shown, without its end. -/
def line (k : Showing) (cs : List Char) : String :=
  String.join (cs.map fun c =>
    if c == '\t' && k.tabs then "^I"
    else if k.allVisible then visible c
    else String.singleton c)

/-- Lines as they are shown, the next number being `n`; `blank` tells whether the line before was
    empty. -/
def lines (k : Showing) : Nat → Bool → List (List Char × Bool) → String
  | _, _, [] => ""
  | n, blank, (cs, ended) :: rest =>
    if k.squeezed && blank && cs.isEmpty && ended then lines k n true rest
    else
      let counts := k.numbered && !(k.filled && cs.isEmpty)
      let number := if counts then padLeft 6 (toString n) ++ "\t" else ""
      number ++ line k cs ++ (if ended then (if k.ends then "$\n" else "\n") else "") ++
        lines k (if counts then n + 1 else n) (cs.isEmpty && ended) rest

end Showing

/-- Writes the contents of files. -/
def cat : Utility :=
  withOptions
    [flag "n" ["number"], flag "b" ["number-nonblank"], flag "s" ["squeeze-blank"],
      flag "E" ["show-ends"], flag "T" ["show-tabs"], flag "v" ["show-nonprinting"],
      flag "A" ["show-all"], flag "e", flag "t", flag "u"] fun c o => do
    let k : Showing :=
      { numbered := o.hasAny ["n", "b"], filled := o.has "b", squeezed := o.has "s",
        ends := o.hasAny ["E", "A", "e"], tabs := o.hasAny ["T", "A", "t"],
        allVisible := o.hasAny ["v", "A", "e", "t"] }
    if k.numbered || k.squeezed || k.ends || k.tabs || k.allVisible then
      let (b, status) ← contents c o.operands
      let (pieces, ended) := piecesUpTo '\n' (Text.bytewise b).toList
      let marked := (pieces.zipIdx).map fun (cs, i) => (cs, ended || i + 1 != pieces.length)
      say (k.lines 1 false marked)
      return status
    else
      eachOf (if o.operands.isEmpty then ["-"] else o.operands) fun p => do
        match ← source p with
        | .error why => c.fail (shownName p ++ ": " ++ why)
        | .ok channel =>
          match (← get).channels[channel]? with
          | some .zeros => repeatedly ⟨Array.replicate chunk 0⟩ 4096
          | _ =>
            match ← drain channel with
            | .error why => c.fail (shownName p ++ ": " ++ why)
            | .ok b =>
              if (← channelOf? 1).isNone then c.fail "standard output: Bad file descriptor"
              else
                emit 1 b
                return 0

/-- Writes the standard input to files and to the output. -/
def tee : Utility :=
  withOptions
    [flag "a" ["append"], flag "i" ["ignore-interrupts"], ⟨"p", ["output-error"], .maybe⟩] fun c o => do
    let b ←
      match ← drainStream 0 with
      | .ok b => pure b
      | .error _ => pure ByteArray.empty
    let status ← eachOf o.operands fun p =>
      save c p (if o.has "a" then .appending else .emptied) b
    emit 1 b
    return status

/-! ## Beginnings and ends -/

/-- How much of a file is passed on. -/
structure Amount where
  bytes : Bool
  n : Nat
  /-- For beginnings, that so much is left out at the end; for ends, that they begin there. -/
  other : Bool

/-- The place behind a number of lines, among at most `k` bytes from a place on. -/
def afterLines (b : Bytes) : Nat → Nat → Nat → Nat
  | 0, _, i => i
  | _, 0, i => i
  | k + 1, n + 1, i => if b.get! i == 10 then afterLines b k n (i + 1) else afterLines b k (n + 1) (i + 1)

/-- The number of lines of bytes, one without an end included. -/
def lineCount (b : Bytes) : Nat :=
  let ends := b.foldl (fun n x => if x == 10 then n + 1 else n) 0
  if b.size != 0 && b.get! (b.size - 1) != 10 then ends + 1 else ends

/-- The length of the beginning of bytes. -/
def headLength (k : Amount) (b : Bytes) : Nat :=
  if k.bytes then if k.other then b.size - k.n else min b.size k.n
  else afterLines b b.size (if k.other then lineCount b - k.n else k.n) 0

/-- The place where the end of bytes begins. -/
def tailStart (k : Amount) (b : Bytes) : Nat :=
  if k.bytes then if k.other then min b.size (k.n - 1) else b.size - k.n
  else afterLines b b.size (if k.other then k.n - 1 else lineCount b - k.n) 0

/-- The units of amounts. -/
def amountOf? (s : String) : Option Nat := sizeOf? s

/-- The arguments with a number behind a dash as a value of `-n`; it has to be the first one. -/
def withOldNumber (signs : List Char) : List String → List String
  | a :: rest =>
    match a.toList with
    | s :: d :: cs =>
      if signs.contains s && d.isDigit then
        let digits := (d :: cs).takeWhile Char.isDigit
        let letters := (d :: cs).drop digits.length
        let sign := if s == '+' then "+" else ""
        let key := if letters.contains 'c' then "-c" else "-n"
        let others := letters.filter ['q', 'v', 'f'].contains
        [key, sign ++ String.ofList digits] ++
          (if others.isEmpty then [] else [String.ofList ('-' :: others)]) ++ rest
      else a :: rest
    | _ => a :: rest
  | [] => []

/-- The amount that options ask for, or what is wrong with it. -/
def amountOf (o : Options) (otherSign : Char) : Except String Amount :=
  let bytes := o.lastOf? ["n", "c"] == some "c"
  let text := (if bytes then o.last? "c" else o.last? "n").getD "10"
  let (other, digits) :=
    match text.toList with
    | s :: cs =>
      if s == otherSign then (true, String.ofList cs)
      else if s == '-' || s == '+' then (false, String.ofList cs)
      else (false, text)
    | [] => (false, text)
  match amountOf? digits with
  | some n => .ok ⟨bytes, n, other⟩
  | none => .error ("invalid number of " ++ (if bytes then "bytes" else "lines") ++ ": " ++ quoted digits)

/-- Does something with the channel of each file, with headings if there are several or if they are
    asked for. -/
def eachSource (c : Call) (o : Options) (f : Nat → Action (Except String Unit)) : Action Nat := do
  let files := if o.operands.isEmpty then ["-"] else o.operands
  let headed :=
    match o.lastOf? ["q", "v"] with
    | some "q" => false
    | some _ => true
    | none => 1 < files.length
  let (status, _) ← files.foldlM (fun (status, first) p => do
    match ← source p with
    | .error why =>
      c.report ("cannot open " ++ quotedName p ++ " for reading: " ++ why)
      return (1, first)
    | .ok channel =>
      if headed then
        let shown := if p == "-" then "standard input" else p
        say ((if first then "" else "\n") ++ "==> " ++ shown ++ " <==\n")
      match ← f channel with
      | .ok () => return (status, false)
      | .error why =>
        c.report ("error reading " ++ quotedName (if p == "-" then "standard input" else p) ++ ": " ++ why)
        return (1, false)) (0, true)
  return status

/-- The number of bytes that are read at once. -/
def block : Nat := 8192

/-- Writes the first lines or bytes of files. -/
def head : Utility := fun c => do
  let forms := [valued "n" ["lines"], valued "c" ["bytes"], flag "q" ["quiet", "silent"],
    flag "v" ["verbose"], flag "z" ["zero-terminated"]]
  withOptions forms (fun c o => do
    match amountOf o '-' with
    | .error message => c.fail message
    | .ok k =>
      eachSource c o fun channel => do
        match (← get).channels[channel]? with
        | some .zeros =>
          if k.bytes && !k.other then
            emit 1 ⟨Array.replicate k.n 0⟩
            return .ok ()
          else throw .endless
        | some .directory => return .error OsError.isADirectory.wording
        | some from' =>
          let (b, place) := readable (← get) from'
          let rest := b.extract place b.size
          let n := headLength k rest
          let used :=
            match from' with
            | .file _ _ _ => n
            | _ => if k.bytes || k.other then n else (n + block - 1) / block * block
          let short := n == rest.size && (k.other || (if k.bytes then n < k.n else lineCount rest < k.n))
          moveTo channel (min b.size (place + used)) short
          emit 1 (rest.extract 0 n)
          return .ok ()
        | none => return .ok ())
    1 { c with arguments := withOldNumber ['-'] c.arguments }

/-- The digits, of which none is an option. -/
def digitOptions : List String := "0123456789".toList.map String.singleton

/-- Whether the first argument may be a number behind a sign: then, there is at most one file. -/
def isOldTail : List String → Bool
  | [a] => isOldNumber a
  | [a, "--"] | [a, "--", _] => isOldNumber a
  | [a, file] => isOldNumber a && (file == "-" || !Text.beginsWith "-" file)
  | _ => false
where
  /-- Whether an argument is a number behind a sign, with a letter for its unit and one to go on reading. -/
  isOldNumber (a : String) : Bool :=
    let letters := (a.toList.drop 1).dropWhile Char.isDigit
    letters.isEmpty || [['c'], ['l'], ['b'], ['f'], ['c', 'f'], ['l', 'f']].contains letters

/-- Writes the last lines or bytes of files. -/
def tail : Utility := fun c => do
  let forms := [valued "n" ["lines"], valued "c" ["bytes"], flag "q" ["quiet", "silent"],
    flag "v" ["verbose"], flag "z" ["zero-terminated"], ⟨"f", ["follow"], .nothing⟩, flag "F",
    flag "retry" ["retry"], valued "s" ["sleep-interval"], valued "pid" ["pid"]] ++
    digitOptions.map (flag ·)
  withOptions forms (fun c o => do
    match amountOf o '+', o.given.find? fun g => digitOptions.contains g.1 with
    | _, some g => c.fail ("option used in invalid context -- " ++ g.1)
    | .error message, none => c.fail message
    | .ok k, none =>
      eachSource c o fun channel => do
        match ← drain channel with
        | .error why => return .error why
        | .ok b =>
          emit 1 (b.extract (tailStart k b) b.size)
          return .ok ())
    1 { c with arguments := if isOldTail c.arguments then withOldNumber ['-', '+'] c.arguments else c.arguments }

/-! ## Counts -/

/-- What is counted in a text: lines, words, characters, bytes, and the length of the longest line. -/
structure Counts where
  lines : Nat := 0
  words : Nat := 0
  bytes : Nat := 0
  longest : Nat := 0

namespace Counts

/-- Counts while they grow: with whether the word at hand counts, and the length of the line at hand. -/
structure Growing where
  counts : Counts
  inWord : Bool := false
  column : Nat := 0

/-- The counts with a byte more. -/
def Growing.add (g : Growing) (x : UInt8) : Growing :=
  let k := g.counts
  let k := { k with bytes := k.bytes + 1 }
  let ended (k : Counts) : Counts := if g.inWord then { k with words := k.words + 1 } else k
  if x == 10 then
    ⟨ended { k with lines := k.lines + 1, longest := max k.longest g.column }, false, 0⟩
  else if x == 9 then ⟨ended k, false, (g.column / 8 + 1) * 8⟩
  else if x == 13 || x == 12 then ⟨ended { k with longest := max k.longest g.column }, false, 0⟩
  else if x == 32 then ⟨ended k, false, g.column + 1⟩
  else if x == 11 then ⟨ended k, false, g.column⟩
  else if 33 ≤ x && x ≤ 126 then ⟨k, true, g.column + 1⟩
  else ⟨k, g.inWord, g.column⟩

/-- The counts of bytes. -/
def ofBytes (b : Bytes) : Counts :=
  let g := b.foldl Growing.add ⟨{}, false, 0⟩
  let k := { g.counts with longest := max g.counts.longest g.column }
  if g.inWord then { k with words := k.words + 1 } else k

/-- The sums of counts. -/
def add (a b : Counts) : Counts :=
  ⟨a.lines + b.lines, a.words + b.words, a.bytes + b.bytes, max a.longest b.longest⟩

/-- The counts that options ask for, in the order in which they are shown. -/
def shown (o : Options) (k : Counts) : List Nat :=
  let all := [("l", k.lines), ("w", k.words), ("m", k.bytes), ("c", k.bytes), ("L", k.longest)]
  if o.hasAny ["l", "w", "m", "c", "L"] then (all.filter fun (key, _) => o.has key).map (·.2)
  else [k.lines, k.words, k.bytes]

end Counts

/-- The size of a file by which the width of counts is chosen; nothing if it is no file. -/
def fileSize? (p : String) : Action (Option (Option Nat)) := do
  let s ← get
  let ofChannel : Option Channel → Option (Option Nat)
    | some (.file place _ _) => some (some (contentAt s.disk place).size)
    | some _ => some none
    | none => none
  if p == "-" then
    match ← channelOf? 0 with
    | some n => return ofChannel s.channels[n]?
    | none => return none
  match device? p with
  | some (.stream n) =>
    match ← channelOf? n with
    | some n => return ofChannel s.channels[n]?
    | none => return none
  | some _ => return some none
  | none =>
    match s.disk.resolve (pathOf p) with
    | .ok (_, .file f) => return some (some f.content.size)
    | .ok _ => return some none
    | .error _ => return none

/-- Counts lines, words and bytes. -/
def wc : Utility :=
  withOptions
    [flag "l" ["lines"], flag "w" ["words"], flag "m" ["chars"], flag "c" ["bytes"],
      flag "L" ["max-line-length"], valued "files0" ["files0-from"], valued "total" ["total"]]
    fun c o => do
      let files := if o.operands.isEmpty then ["-"] else o.operands
      let kinds := ["l", "w", "m", "c", "L"].filter o.has
      let sizes ← files.mapM fileSize?
      let single := files.length == 1 && kinds.length == 1
      let known := sizes.filterMap id
      let width :=
        if single || (sizes.head?.bind id).isNone then 1
        else
          let total := known.foldl (fun n s => n + s.getD 0) 0
          max (toString total).length (if known.any Option.isNone then 7 else 1)
      let line (k : Counts) (name : String) : String :=
        Text.joined " " ((k.shown o).map fun n => padLeft width (toString n)) ++ name ++ "\n"
      let totals := (o.last? "total").getD "auto"
      let (all, status) ← files.foldlM (fun (all, status) p => do
        let name := if o.operands.isEmpty then "" else " " ++ p
        match ← source p with
        | .error why =>
          c.report (shownName p ++ ": " ++ why)
          return (all, 1)
        | .ok channel =>
          match ← drain channel with
          | .error why =>
            c.report (shownName p ++ ": " ++ why)
            if totals != "only" then say (line {} name)
            return (all, 1)
          | .ok b =>
            let k := Counts.ofBytes b
            if totals != "only" then say (line k name)
            return (Counts.add all k, status)) (({} : Counts), 0)
      match totals with
      | "only" => say (Text.joined " " ((all.shown o).map toString) ++ "\n")
      | "always" => say (line all " total")
      | "never" => pure ()
      | _ => if 1 < files.length then say (line all " total")
      return status

/-! ## Other forms -/

/-- Writes the lines of files, the last one first. -/
def tac : Utility :=
  withOptions [flag "b" ["before"], flag "r" ["regex"], valued "s" ["separator"]] fun c o => do
    eachOf (if o.operands.isEmpty then ["-"] else o.operands) fun p => do
      match ← read p with
      | .error why => c.fail ("failed to open " ++ quotedName p ++ " for reading: " ++ why)
      | .ok b =>
        let (lines, isEnded) := linesOf b
        if isEnded then sayLines lines.reverse
        else say (String.join (((lines.dropLast.map (· ++ "\n")) ++ [lines.getLast?.getD ""]).reverse))
        return 0

/-- Writes lines with their characters from the last to the first. -/
def rev : Utility :=
  withOptions [] fun c o => do
    eachOf (if o.operands.isEmpty then ["-"] else o.operands) fun p => do
      match ← read p with
      | .error why => c.fail ("cannot open " ++ p ++ ": " ++ why)
      | .ok b =>
        let (lines, isEnded) := linesOf b
        sayLinesAs (lines.map fun l => String.ofList l.toList.reverse) isEnded
        return 0

/-- The column behind a character. -/
def columnAfter (column : Nat) (c : Char) : Nat :=
  if c == '\t' then (column / 8 + 1) * 8
  else if c == '\x08' then column - 1
  else if c == '\r' then 0
  else column + 1

/-- A line cut into pieces of a width: the pieces, with the characters of the last one, the last first,
    and its width. -/
structure Folding where
  done : List String := []
  current : List Char := []
  column : Nat := 0

/-- Whether a line can be cut behind a character. -/
def isFoldable (c : Char) : Bool := c == ' ' || c == '\t'

/-- The folding with a character more. -/
def Folding.add (width : Nat) (bytes spaces : Bool) (f : Folding) (c : Char) : Folding :=
  let after (column : Nat) := if bytes then column + 1 else columnAfter column c
  let measure (cs : List Char) : Nat :=
    if bytes then cs.length else cs.foldl columnAfter 0
  if width < after f.column && !f.current.isEmpty then
    let word := f.current.takeWhile (!isFoldable ·)
    if spaces && word.length < f.current.length then
      let kept := f.current.drop word.length
      let current := c :: word
      ⟨String.ofList kept.reverse :: f.done, current, measure current.reverse⟩
    else ⟨String.ofList f.current.reverse :: f.done, [c], after 0⟩
  else { f with current := c :: f.current, column := after f.column }

/-- Cuts long lines. -/
def fold : Utility := fun c => do
  let old : List String :=
    match c.arguments with
    | a :: rest =>
      match a.toList with
      | '-' :: ds => if !ds.isEmpty && ds.all Char.isDigit then "-w" :: String.ofList ds :: rest else a :: rest
      | _ => a :: rest
    | [] => []
  withOptions [valued "w" ["width"], flag "s" ["spaces"], flag "b" ["bytes"]] (fun c o => do
    let given := (o.last? "w").getD "80"
    match number? given with
    | none => c.fail ("invalid number of columns: " ++ quoted given)
    | some 0 => c.fail ("invalid number of columns: " ++ quoted given ++ ": Numerical result out of range")
    | some width =>
      let (b, status) ← contents c o.operands
      let (lines, isEnded) := linesOf b
      let cut (l : String) : String :=
        let f := l.toList.foldl (Folding.add width (o.has "b") (o.has "s")) {}
        Text.joined "\n" ((String.ofList f.current.reverse :: f.done).reverse)
      sayLinesAs (lines.map cut) isEnded
      return status) 1 { c with arguments := old }

/-! ## Tabulators -/

/-- The columns at which tabulators end: certain ones, and behind them those at a distance from each other,
    counted from a column on. -/
structure TabStops where
  columns : List Nat
  every : Option (Nat × Nat)

namespace TabStops

/-- The stops at equal distances. -/
def ofWidth (width : Nat) : TabStops := ⟨[], some (width, 0)⟩

/-- The first stop behind a column. -/
def next? (t : TabStops) (column : Nat) : Option Nat :=
  match t.columns.find? (column < ·) with
  | some stop => some stop
  | none => t.every.map fun (width, start) => start + ((column - start) / width + 1) * width

/-- The column to which a tabulator leads. -/
def next (t : TabStops) (column : Nat) : Nat := (t.next? column).getD (column + 1)

/-- The stops behind a column and not behind another one. -/
def between (t : TabStops) : Nat → Nat → Nat → List Nat
  | 0, _, _ => []
  | n + 1, column, stop =>
    match t.next? column with
    | some k => if k ≤ stop then k :: t.between n k stop else []
    | none => []

/-- The stops that a text lists, or what is wrong with it. -/
def ofText (s : String) : Except String TabStops := do
  let items := (Text.pieces ',' (Text.replaceChars (· == ' ') ',' s)).filter (· != "")
  let size (cs : List Char) : Except String Nat :=
    match Text.digits? cs with
    | some 0 => .error "tab size cannot be 0"
    | some n => .ok n
    | none => .error ("tab size contains invalid character(s): " ++
        quoted (String.ofList (cs.dropWhile Char.isDigit)))
  let single (item : String) : Bool := item.toList.all Char.isDigit
  let columns ← (items.takeWhile single).mapM fun item => size item.toList
  let last := columns.getLast?.getD 0
  if (columns.zip (columns.drop 1)).any fun (a, b) => b ≤ a then .error "tab sizes must be ascending"
  match items.dropWhile single, columns with
  | [], [] => return ofWidth 8
  | [], [n] => return ofWidth n
  | [], _ => return ⟨columns, none⟩
  | item :: _, _ =>
    match item.toList with
    | '/' :: cs => return ⟨columns, some (← size cs, 0)⟩
    | '+' :: cs => return ⟨columns, some (← size cs, last)⟩
    | cs => return ofWidth (← size cs)

/-- The stops that options list. -/
def ofOptions (o : Options) : Except String TabStops :=
  ofText (Text.joined "," (o.all "t"))

end TabStops

/-- The arguments with old options for tabulators, a dash with numbers, in their usual form. -/
def withoutOldTabs (arguments : List String) : List String :=
  arguments.flatMap fun a =>
    match a.toList with
    | '-' :: d :: cs =>
      if d.isDigit && cs.all fun c => c.isDigit || c == ',' then ["-t", String.ofList (d :: cs)] else [a]
    | _ => [a]

/-- Writes blanks in place of tabulators. -/
def expand : Utility := fun c =>
  withOptions [valued "t" ["tabs"], flag "i" ["initial"]] (fun c o => do
    match TabStops.ofOptions o with
    | .error why => c.fail why
    | .ok stops =>
      let (b, status) ← contents c o.operands
      let initial := o.has "i"
      let (out, _) := (Text.bytewise b).toList.foldl
        (fun ((out, column, leading) : List Char × Nat × Bool) ch =>
          if ch == '\n' then ('\n' :: out, 0, true)
          else if initial && !leading then (ch :: out, column, false)
          else if ch == '\t' then
            let stop := stops.next column
            (List.replicate (stop - column) ' ' ++ out, stop, leading)
          else if ch == '\x08' then (ch :: out, column - 1, false)
          else (ch :: out, column + 1, leading && ch == ' ')) ([], 0, true)
      say (String.ofList out.reverse)
      return status) 1 { c with arguments := withoutOldTabs c.arguments }

/-- A line with tabulators in place of blanks, from a column on. -/
def unexpandedFrom (stops : TabStops) (all : Bool) : Nat → Nat → List Char → List Char
  | 0, _, cs => cs
  | n + 1, column, cs =>
    let blanks := cs.takeWhile fun c => c == ' ' || c == '\t'
    let rest := cs.drop blanks.length
    let stop := blanks.foldl (fun k c => if c == '\t' then stops.next k else k + 1) column
    let passed := stops.between (stop + 1) column stop
    let shown :=
      if blanks == [' '] || passed.isEmpty then blanks
      else List.replicate passed.length '\t' ++ List.replicate (stop - passed.getLast?.getD stop) ' '
    match rest with
    | [] => shown
    | c :: more =>
      if all then shown ++ c :: unexpandedFrom stops all n (stop + 1) more else shown ++ rest

/-- Writes tabulators in place of blanks. -/
def unexpand : Utility := fun c =>
  withOptions [valued "t" ["tabs"], flag "a" ["all"], flag "first" ["first-only"]] (fun c o => do
    match TabStops.ofOptions o with
    | .error why => c.fail why
    | .ok stops =>
      let (b, status) ← contents c o.operands
      let (lines, isEnded) := linesOf b
      let all := o.hasAny ["a", "t"] && !o.has "first"
      let shown := lines.map fun l =>
        String.ofList (unexpandedFrom stops all (l.length + 1) 0 l.toList)
      sayLinesAs shown isEnded
      return status) 1 { c with arguments := withoutOldTabs c.arguments }

end Buildwright.Shell.Utility
