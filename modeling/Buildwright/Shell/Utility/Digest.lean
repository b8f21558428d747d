-- SUMMARY: Programs that take digests of files and check them, and programs that write bytes in an alphabet.
import Buildwright.Shell.Digest
import Buildwright.Shell.Utility.Options
import Buildwright.Text.Radix

/-!
# Digests of files

A digest stands in front of the name of its file. Lines of this form can be checked against the files.
-/
namespace Buildwright.Shell.Utility

open Shell.Action

/-! ## Kinds of digests -/

/-- A kind of digest: its name, how many characters it has, and how it is taken. -/
structure DigestKind where
  name : String
  length : Nat
  take : Bytes → String

/-- The kinds of digests. -/
def digestMd5 : DigestKind := ⟨"MD5", 32, fun b => Digest.hex (Digest.Md5.digest b)⟩
@[inherit_doc digestMd5] def digestSha1 : DigestKind :=
  ⟨"SHA1", 40, fun b => Digest.hex (Digest.Sha.digestOfOne b)⟩
@[inherit_doc digestMd5] def digestSha (m : Digest.Sha.Member) : DigestKind :=
  ⟨"SHA" ++ toString (8 * m.size), 2 * m.size, fun b => Digest.hex (m.digest b)⟩
@[inherit_doc digestMd5] def digestBlake (bits : Nat) : DigestKind :=
  ⟨"BLAKE2b" ++ (if bits == 512 then "" else "-" ++ toString bits), bits / 4,
    fun b => Digest.hex (Digest.Blake.digest (bits / 8) b)⟩

/-! ## Lines -/

/-- A name as it stands in a line, and whether characters of it are written as escapes. -/
def escapedName (name : String) : String × Bool :=
  let cs := name.toList.flatMap fun c =>
    if c == '\x5c' then ['\x5c', '\x5c'] else if c == '\n' then ['\x5c', 'n'] else [c]
  (String.ofList cs, cs.length != name.length)

/-- A name that is written with escapes. -/
def plainName : List Char → List Char
  | '\x5c' :: 'n' :: cs => '\n' :: plainName cs
  | '\x5c' :: '\x5c' :: cs => '\x5c' :: plainName cs
  | c :: cs => c :: plainName cs
  | [] => []

/-- The line for a digest of a file. -/
def digestLine (k : DigestKind) (tagged binary zero : Bool) (digest name : String) : String :=
  let (shown, isEscaped) := if zero then (name, false) else escapedName name
  let line :=
    if tagged then k.name ++ " (" ++ shown ++ ") = " ++ digest
    else digest ++ (if binary then " *" else "  ") ++ shown
  (if isEscaped then "\x5c" else "") ++ line ++ (if zero then "\x00" else "\n")

/-- The digest and the name that stand in a line. -/
def readDigestLine (k : DigestKind) (line : String) : Option (String × String) :=
  let (isEscaped, cs) :=
    match line.toList.dropWhile Text.isSpace with
    | '\x5c' :: rest => (true, rest)
    | cs => (false, cs)
  let name (cs : List Char) := String.ofList (if isEscaped then plainName cs else cs)
  let isDigest (ds : List Char) : Bool := ds.length == k.length && ds.all (Text.isDigitOf 16)
  match (k.name ++ " (").toList.isPrefixOf? cs with
  | some rest =>
    match Text.cutLast? ')' rest with
    | some (file, after) =>
      match after with
      | ' ' :: '=' :: ' ' :: ds =>
        if isDigest ds then some ((String.ofList ds).map Char.toLower, name file) else none
      | _ => none
    | none => none
  | none =>
    let ds := cs.take k.length
    match cs.drop k.length with
    | ' ' :: c :: file =>
      if isDigest ds && (c == ' ' || c == '*') && !file.isEmpty then
        some ((String.ofList ds).map Char.toLower, name file)
      else none
    | _ => none

/-! ## Checking -/

/-- How digests are checked. -/
structure Checking where
  isSilent : Bool
  isQuiet : Bool
  warns : Bool
  isStrict : Bool
  ignoresMissing : Bool

/-- What has been found so far: lines that are wrong, files that cannot be read, digests that differ,
    digests that were looked at, and those that agree. -/
structure Found where
  wrongLines : Nat := 0
  unreadable : Nat := 0
  different : Nat := 0
  lines : Nat := 0
  right : Nat := 0

/-- Checks a line with a number. -/
def checkLine (c : Call) (k : DigestKind) (g : Checking) (source : String) (f : Found)
    (numbered : String × Nat) : Action Found := do
  let (line, number) := numbered
  match readDigestLine k line with
  | none =>
    if line == "" || line.toList.head? == some '#' then return f
    if g.warns then
      c.report (source ++ ": " ++ toString number ++ ": improperly formatted " ++ k.name ++
        " checksum line")
    return { f with wrongLines := f.wrongLines + 1 }
  | some (digest, name) =>
    let f := { f with lines := f.lines + 1 }
    let missing := ((← disk).resolve (pathOf name)).toOption.isNone && name != "-"
    if missing && g.ignoresMissing then return f
    match ← read name with
    | .error why =>
      c.report (name ++ ": " ++ why)
      unless g.isSilent do say (name ++ ": FAILED open or read\n")
      return { f with unreadable := f.unreadable + 1 }
    | .ok b =>
      if k.take b == digest then
        unless g.isSilent || g.isQuiet do say (name ++ ": OK\n")
        return { f with right := f.right + 1 }
      else
        unless g.isSilent do say (name ++ ": FAILED\n")
        return { f with different := f.different + 1 }

/-- Checks the lines of a file. -/
def checkFile (c : Call) (k : DigestKind) (g : Checking) (p : String) : Action Nat := do
  let source := if p == "-" then "'standard input'" else p
  match ← read p with
  | .error why => c.fail (shownName p ++ ": " ++ why)
  | .ok b =>
    let (lines, _) := linesOf b
    let numbered := lines.zipIdx.map fun (l, i) => (l, i + 1)
    let f ← numbered.foldlM (checkLine c k g source) {}
    if f.lines == 0 then c.fail (source ++ ": no properly formatted checksum lines found")
    else
      let warning (n : Nat) (one many : String) : Action Unit := do
        if n != 0 && !g.isSilent then
          c.report ("WARNING: " ++ toString n ++ " " ++ if n == 1 then one else many)
      warning f.wrongLines "line is improperly formatted" "lines are improperly formatted"
      warning f.unreadable "listed file could not be read" "listed files could not be read"
      warning f.different "computed checksum did NOT match" "computed checksums did NOT match"
      if g.ignoresMissing && f.right + f.different + f.unreadable == 0 then
        c.report (source ++ ": no file was verified")
        return 1
      let isRight := f.unreadable == 0 && f.different == 0 && (!g.isStrict || f.wrongLines == 0)
      return if isRight then 0 else 1

/-! ## Programs -/

/-- The options of programs that take digests. -/
def digestForms : List Form :=
  [flag "b" ["binary"], flag "c" ["check"], flag "t" ["text"], flag "w" ["warn"], flag "z" ["zero"],
    flag "tag" ["tag"], flag "quiet" ["quiet"], flag "status" ["status"], flag "strict" ["strict"],
    flag "missing" ["ignore-missing"]]

/-- Takes digests of files or checks them. -/
def digestFiles (k : DigestKind) (c : Call) (o : Options) : Action Nat := do
  let files := if o.operands.isEmpty then ["-"] else o.operands
  if o.has "c" then
    let g : Checking :=
      { isSilent := o.has "status", isQuiet := o.has "quiet", warns := o.has "w"
        isStrict := o.has "strict", ignoresMissing := o.has "missing" }
    eachOf files (checkFile c k g)
  else
    eachOf files fun p => do
      match ← content? c p with
      | some b =>
        say (digestLine k (o.has "tag") (o.lastOf? ["b", "t"] == some "b") (o.has "z") (k.take b) p)
        return 0
      | none => return 1

/-- A program that takes digests of a kind. -/
def digestProgram (k : DigestKind) : Utility :=
  withOptions digestForms (digestFiles k)

/-- A program that takes digests of a number of bits that can be chosen. -/
def b2sum : Utility :=
  withOptions (valued "l" ["length"] :: digestForms) fun c o =>
    digestFiles (digestBlake (((o.last? "l").bind number?).getD 512)) c o

/-- Writes a number that is filled up on the left. -/
def filledNumber (fill : Char) (width n : Nat) : String :=
  let ds := (toString n).toList
  String.ofList (List.replicate (width - ds.length) fill ++ ds)

/-- How often a size holds a unit, rounded up. -/
def unitsIn (unit size : Nat) : Nat := (size + unit - 1) / unit

/-- Writes something for each of some files, with its name unless the standard input is read for want of
    a name. -/
def sumFiles (c : Call) (files : List String) (shown : Bytes → String) : Action Nat :=
  eachOf (if files.isEmpty then ["-"] else files) fun p => do
    match ← content? c p with
    | some b =>
      say (shown b ++ (if files.isEmpty then "" else " " ++ p) ++ "\n")
      return 0
    | none => return 1

/-- The line for a sum that turns, and for one that folds. -/
def turningLine (b : Bytes) : String :=
  filledNumber '0' 5 (Digest.Checksum.turning b) ++ " " ++ filledNumber ' ' 5 (unitsIn 1024 b.size)
@[inherit_doc turningLine] def foldingLine (b : Bytes) : String :=
  toString (Digest.Checksum.folding b) ++ " " ++ toString (unitsIn 512 b.size)

/-- Writes sums of files. -/
def sum : Utility :=
  withOptions [flag "r", flag "s" ["sysv"]] fun c o =>
    sumFiles c o.operands (if o.lastOf? ["r", "s"] == some "s" then foldingLine else turningLine)

/-- Writes remainders of files, or digests of a kind that is chosen. -/
def cksum : Utility :=
  withOptions ([valued "a" ["algorithm"], valued "l" ["length"], flag "untagged" ["untagged"]] ++ digestForms)
    fun c o => do
      let tagged (k : DigestKind) : Action Nat :=
        digestFiles k c (if o.has "untagged" then o else o.give "tag" "")
      match (o.last? "a").getD "crc" with
      | "crc" => sumFiles c o.operands fun b =>
          toString (Digest.Checksum.remainder b) ++ " " ++ toString b.size
      | "bsd" => sumFiles c o.operands turningLine
      | "sysv" => sumFiles c o.operands foldingLine
      | "md5" => tagged digestMd5
      | "sha1" => tagged digestSha1
      | "sha224" => tagged (digestSha .sha224)
      | "sha256" => tagged (digestSha .sha256)
      | "sha384" => tagged (digestSha .sha384)
      | "sha512" => tagged (digestSha .sha512)
      | "blake2b" => tagged (digestBlake (((o.last? "l").bind number?).getD 512))
      | other => c.misused ("invalid argument " ++ quoted other ++ " for '--algorithm'")

/-! ## Alphabets -/

/-- Lines of at most a number of characters. -/
def wrapped (width : Nat) : Nat → List Char → List String
  | 0, _ | _, [] => []
  | n + 1, cs => String.ofList (cs.take width) :: wrapped width n (cs.drop width)

/-- Writes a file with the characters of an alphabet, or reads such characters. -/
def alphabetProgram (a : Text.Alphabet) : Utility :=
  withOptions [flag "d" ["decode"], flag "i" ["ignore-garbage"], valued "w" ["wrap"]] fun c o => do
    match o.operands with
    | _ :: extra :: _ => c.misused ("extra operand " ++ quoted extra)
    | files =>
      match ← read (files.headD "-") with
      | .error why => c.fail (files.headD "-" ++ ": " ++ why)
      | .ok b =>
        if o.has "d" then
          let all := (Text.bytewise b).toList.filter (· != '\n')
          let cs :=
            if o.has "i" then all.filter fun ch => a.chars.contains ch || ch == Text.Alphabet.filler else all
          let (bytes, isRight) := a.decode cs
          emit 1 ⟨bytes.toArray⟩
          if isRight then return 0 else c.fail "invalid input"
        else
          let text := a.encode b
          match (o.last? "w").map number? with
          | some none => c.fail ("invalid wrap size: " ++ quoted ((o.last? "w").getD ""))
          | some (some 0) =>
            say text
            return 0
          | width =>
            sayLines (wrapped ((width.getD none).getD 76) (text.length + 1) text.toList)
            return 0

end Buildwright.Shell.Utility
