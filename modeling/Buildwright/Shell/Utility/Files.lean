-- SUMMARY: Programs that create, remove, copy, move and mark files and directories.
import Buildwright.Binary64
import Buildwright.Shell.Utility.Paths

/-!
# Files and directories

Programs that change what lies on the disk. All of them go on after a failure and report it.
-/
namespace Buildwright.Shell.Utility

open Shell.Action

/-- What lies at a path; a link at its end is not followed. -/
def entryAt? (p : String) : Action (Except IoError (Location × Entry)) := do
  match (← disk).locate (pathOf p) false with
  | .ok (.present place e) => return .ok (place, e)
  | .ok (.absent _ _) => return .error OsError.notFound
  | .error e => return .error e

/-- The place and the entry to which a path leads. -/
def resolved (p : String) : Action (Except OsError (Location × Entry)) := do
  return (← disk).resolve (pathOf p)

/-- Whether a path leads to a directory. -/
def isDirectory (p : String) : Action Bool := do
  return (← disk).isDirectory (pathOf p)

/-- Changes the disk. -/
def changeDisk (f : Disk → Disk) : Action Unit := do
  setDisk (f (← disk))

/-! ## Directories -/

/-- The prefixes of a path that end in front of slashes, and the path itself. -/
def ancestors (p : String) : List String :=
  let pieces := Text.pieces '/' p
  let starts := (List.range pieces.length).map fun n => Text.joined "/" (pieces.take (n + 1))
  starts.filter fun q => q != "" && !Text.endsWith "/" q

/-- Creates the directories of a path, and says so. -/
def makeAll (c : Call) (verbose : Bool) (p : String) : List String → Action Nat
  | [] => return 0
  | q :: rest => do
    if ← isDirectory q then makeAll c verbose p rest
    else
      match ← onDisk (Disk.change (·.createDirectory (pathOf q))) with
      | .ok () =>
        if verbose then say (c.name ++ ": created directory " ++ quotedName q ++ "\n")
        makeAll c verbose p rest
      | .error e =>
        let why : IoError :=
          if e.kind == .alreadyExists && !rest.isEmpty then OsError.notADirectory else e
        c.fail ("cannot create directory " ++ quotedName q ++ ": " ++ wording why)

/-- Creates directories. -/
def mkdir : Utility :=
  withOptions
    [flag "p" ["parents"], flag "v" ["verbose"], valued "m" ["mode"], ⟨"Z", ["context"], .maybe⟩]
    fun c o => do
      if o.operands.isEmpty then return ← c.misused "missing operand"
      eachOf o.operands fun p => do
        let all := ancestors p
        if o.has "p" && !all.isEmpty then makeAll c (o.has "v") p all
        else
          let status ← attempt c ("cannot create directory " ++ quotedName p)
            (Disk.change (·.createDirectory (pathOf p)))
          if status == 0 && o.has "v" then
            say (c.name ++ ": created directory " ++ quotedName p ++ "\n")
          return status

/-- Removes a directory in which there is nothing. -/
def removeEmpty (p : String) : Action (Except OsError Unit) := do
  match ← entryAt? p with
  | .error (.system e) => return .error e
  | .error _ => return .error .notFound
  | .ok (place, .directory _) =>
    if ((← disk).entriesIn place).isEmpty then
      changeDisk (·.removeAll (pathOf p))
      return .ok ()
    else return .error .directoryNotEmpty
  | .ok _ => return .error .notADirectory

/-- Removes directories in which there is nothing. -/
def rmdir : Utility :=
  withOptions
    [flag "p" ["parents"], flag "v" ["verbose"], flag "ignore" ["ignore-fail-on-non-empty"]]
    fun c o => do
      if o.operands.isEmpty then return ← c.misused "missing operand"
      let remove (first : Bool) (p : String) : Action Nat := do
        if o.has "v" then say (c.name ++ ": removing directory, " ++ quotedName p ++ "\n")
        match ← removeEmpty p with
        | .ok () => return 0
        | .error e =>
          if o.has "ignore" && e == .directoryNotEmpty then return 0
          let what := if first then "failed to remove " else "failed to remove directory "
          c.fail (what ++ quotedName p ++ ": " ++ e.wording)
      eachOf o.operands fun p => do
        let status ← remove true p
        if status != 0 || !o.has "p" then return status
        (ancestors p).dropLast.reverse.foldlM (fun status q => do
          if status != 0 then return status else remove false q) 0

/-! ## Removal -/

/-- Says what is removed from an entry, at most `n` directories deep. -/
def sayRemoved (d : Disk) : Nat → String → Location → Entry → Action Unit
  | 0, _, _, _ => return ()
  | n + 1, p, place, e => do
    match e with
    | .directory _ =>
      for (name, below') in d.entriesIn place do
        sayRemoved d n (below p (Text.toBytewise name)) (place ++ [name]) below'
      say ("removed directory " ++ quotedName p ++ "\n")
    | _ => say ("removed " ++ quotedName p ++ "\n")

/-- What a question calls an entry that is no directory. -/
def kindAsked : Entry → String
  | .file f => if f.content.size == 0 then "regular empty file" else "regular file"
  | .link _ => "symbolic link"
  | _ => "file"

/-- Removes an entry, at most `n` directories deep, as far as the answers to questions allow that. -/
def removeAsking (c : Call) (verbose : Bool) : Nat → String → Location → Entry → Action Nat
  | 0, _, _, _ => return 0
  | n + 1, p, place, e => do
    match e with
    | .directory _ =>
      let inside := (← disk).entriesIn place
      if !inside.isEmpty then
        if !(← agrees c ("descend into directory " ++ quotedName p)) then return 0
      let status ← eachOf inside fun (name, e) =>
        removeAsking c verbose n (below p (Text.toBytewise name)) (place ++ [name]) e
      if !(← agrees c ("remove directory " ++ quotedName p)) then return status
      match ← removeEmpty p with
      | .ok () =>
        if verbose then say ("removed directory " ++ quotedName p ++ "\n")
        return status
      | .error e => c.fail ("cannot remove " ++ quotedName p ++ ": " ++ e.wording)
    | e =>
      if ← agrees c ("remove " ++ kindAsked e ++ " " ++ quotedName p) then
        changeDisk (·.removeAll (pathOf p))
        if verbose then say ("removed " ++ quotedName p ++ "\n")
      return 0

/-- When a program asks before it removes something. -/
inductive Caution where
  | never
  | once
  | always
  deriving DecidableEq

/-- When `rm` asks, by the last option that says so. -/
def cautionOf (o : Options) : Caution :=
  match o.lastOf? ["f", "i", "I", "interactive"] with
  | some "i" => .always
  | some "I" => .once
  | some "interactive" =>
    match (o.last? "interactive").getD "" with
    | "never" | "no" | "none" => .never
    | "once" => .once
    | _ => .always
  | _ => .never

/-- Whether a path ends in a dot or two. -/
def endsInDots (p : String) : Bool :=
  lastName p == "." || lastName p == ".."

/-- Removes files and directories. -/
def rm : Utility :=
  withOptions
    [flag "f" ["force"], flag "r" ["recursive"], flag "R", flag "d" ["dir"], flag "v" ["verbose"],
      flag "i", flag "I", ⟨"interactive", ["interactive"], .maybe⟩, flag "one" ["one-file-system"],
      ⟨"preserve", ["preserve-root"], .maybe⟩, flag "nopreserve" ["no-preserve-root"]] fun c o => do
    let force := o.has "f"
    let recursive := o.hasAny ["r", "R"]
    if o.operands.isEmpty then
      if force then return 0
      return ← c.misused "missing operand"
    let caution := cautionOf o
    let count := o.operands.length
    if caution == .once && (recursive || 3 < count) then
      let what := toString count ++ (if count == 1 then " argument" else " arguments")
      if !(← agrees c ("remove " ++ what ++ if recursive then " recursively" else "")) then return 0
    let asks := caution == .always
    eachOf o.operands fun p => do
      let refuse (e : OsError) : Action Nat :=
        c.fail ("cannot remove " ++ quotedName p ++ ": " ++ e.wording)
      match ← entryAt? p with
      | .error (.system e) =>
        if force && (e == .notFound || e == .notADirectory) then return 0 else refuse e
      | .error _ => refuse .notFound
      | .ok (place, e) =>
        match e, recursive with
        | .directory _, false =>
          if o.has "d" then
            if asks then
              if !(← agrees c ("remove directory " ++ quotedName p)) then return 0
            match ← removeEmpty p with
            | .ok () =>
              if o.has "v" then say ("removed directory " ++ quotedName p ++ "\n")
              return 0
            | .error e => refuse e
          else refuse .isADirectory
        | .directory _, true =>
          if endsInDots p then
            c.fail ("refusing to remove '.' or '..' directory: skipping " ++ quotedName p)
          else
            let d ← disk
            if asks then return ← removeAsking c (o.has "v") (d.depth + 1) p place e
            if o.has "v" then sayRemoved d d.depth p place e
            changeDisk (·.removeAll (pathOf p))
            return 0
        | _, _ =>
          if asks then return ← removeAsking c (o.has "v") 1 p place e
          changeDisk (·.removeAll (pathOf p))
          if o.has "v" then say ("removed " ++ quotedName p ++ "\n")
          return 0

/-- Removes a file. -/
def unlink : Utility :=
  withOptions [] fun c o => do
    match o.operands with
    | [] => c.misused "missing operand"
    | _ :: extra :: _ => c.misused ("extra operand " ++ quoted extra)
    | [p] =>
      match ← entryAt? p with
      | .error e => c.fail ("cannot unlink " ++ quotedName p ++ ": " ++ wording e)
      | .ok (_, .directory _) =>
        c.fail ("cannot unlink " ++ quotedName p ++ ": " ++ OsError.isADirectory.wording)
      | .ok _ =>
        changeDisk (·.removeAll (pathOf p))
        return 0

/-! ## Sources and targets -/

/-- The options of programs that put sources at targets. -/
def targetForms : List Form :=
  [valued "t" ["target-directory"], flag "T" ["no-target-directory"], flag "f" ["force"],
    flag "i" ["interactive"], flag "n" ["no-clobber"], flag "v" ["verbose"], flag "b",
    ⟨"backup", ["backup"], .maybe⟩, valued "S" ["suffix"], ⟨"u", ["update"], .maybe⟩,
    flag "slashes" ["strip-trailing-slashes"]]

/-- Does something with each source and its target, which lies in a directory if one is named. -/
def toTargets (c : Call) (o : Options) (f : String → String → Action Nat) : Action Nat := do
  let into (directory : String) (sources : List String) : Action Nat :=
    eachOf sources fun p => f p (below directory (lastName p))
  match o.last? "t", o.operands with
  | _, [] => c.misused "missing file operand"
  | some directory, sources =>
    match ← resolved directory with
    | .ok (_, .directory _) => into directory sources
    | .ok _ => c.fail ("target directory " ++ quotedName directory ++ ": " ++ OsError.notADirectory.wording)
    | .error e => c.fail ("target directory " ++ quotedName directory ++ ": " ++ e.wording)
  | none, [p] => c.misused ("missing destination file operand after " ++ quotedName p)
  | none, [source, target] =>
    if !o.has "T" && (← isDirectory target) then into target [source] else f source target
  | none, all =>
    let target := all.getLast?.getD ""
    if o.has "T" then c.misused ("extra operand " ++ quoted ((all.drop 2).headD ""))
    else
      match ← resolved target with
      | .ok (_, .directory _) => into target all.dropLast
      | .ok _ => c.fail ("target " ++ quotedName target ++ ": " ++ OsError.notADirectory.wording)
      | .error e => c.fail ("target " ++ quotedName target ++ ": " ++ e.wording)

/-- A path without the slashes at its end. -/
def withoutSlashes (p : String) : String :=
  let cs := p.toList.reverse.dropWhile (· == '/')
  if cs.isEmpty && p != "" then "/" else String.ofList cs.reverse

/-! ## Copies -/

/-- Which copies are made, and how. -/
structure Copying where
  recursive : Bool
  /-- Whether links are copied and not what they lead to. -/
  links : Bool
  /-- Whether copies are as old as what they are copies of. -/
  times : Bool
  verbose : Bool
  /-- Whether it is asked before a file is replaced. -/
  asks : Bool

/-- The place where a new file may be put at a path, and whether one is there already. -/
def placeForFile (p : String) : Action (Except IoError (Location × Bool)) := do
  let d ← disk
  match d.placeToWrite (pathOf p) with
  | .ok (.present place _) => return .ok (place, true)
  | .ok (.absent directory name) => return .ok (directory ++ [name], false)
  | .error .isADirectory => return .error OsError.notADirectory
  | .error e => return .error e

/-- Copies an entry to a path, at most `n` directories deep. -/
def copyEntry (c : Call) (k : Copying) : Nat → String → String → Action Nat
  | 0, _, _ => return 0
  | n + 1, source, target => do
    let found ← if k.links then entryAt? source else do
      match ← resolved source with
      | .ok found => pure (.ok found)
      | .error e => pure (.error e)
    match found with
    | .error e => c.fail ("cannot stat " ++ quotedName source ++ ": " ++ wording e)
    | .ok (place, e) =>
      let told : Action Unit := do
        if k.verbose then say (quotedName source ++ " -> " ++ quotedName target ++ "\n")
      match e with
      | .directory t =>
        if !k.recursive then c.fail ("-r not specified; omitting directory " ++ quotedName source)
        else
          let d ← disk
          let inside :=
            match d.locate (pathOf target) true with
            | .ok (.present there _) => place.isPrefixOf there
            | .ok (.absent directory _) => place.isPrefixOf directory
            | .error _ => false
          if inside then
            c.fail ("cannot copy a directory, " ++ quotedName (withoutSlashes source) ++ ", into itself, " ++
              quotedName target)
          else
            match d.resolve (pathOf target) with
            | .ok (_, .directory _) => copyAll n (d.entriesIn place) source target
            | .ok _ =>
              c.fail ("cannot overwrite non-directory " ++ quotedName target ++ " with directory " ++
                quotedName source)
            | .error _ =>
              let status ← attempt c ("cannot create directory " ++ quotedName target)
                (Disk.change (·.createDirectory (pathOf target)))
              if status != 0 then return status
              told
              let status ← copyAll n (d.entriesIn place) source target
              if k.times then changeDisk (·.setModified (pathOf target) t)
              return status
      | .closed => c.fail ("cannot open " ++ quotedName source ++ ": " ++ OsError.permissionDenied.wording)
      | .link pointed =>
        changeDisk fun d => if d.isDirectory (pathOf target) then d else d.removeAll (pathOf target)
        told
        attempt c ("cannot create symbolic link " ++ quotedName target)
          (Disk.change (·.createLink (pathOf target) pointed))
      | .file f =>
        if ← isDirectory target then
          return ← c.fail ("cannot overwrite directory " ++ quotedName target ++ " with non-directory")
        match ← placeForFile target with
        | .error e => c.fail ("cannot create regular file " ++ quotedName target ++ ": " ++ wording e)
        | .ok (there, isThere) =>
          if there == place then
            c.fail (quotedName source ++ " and " ++ quotedName target ++ " are the same file")
          else
            if k.asks && isThere then
              if !(← agrees c ("overwrite " ++ quotedName target)) then return 1
            told
            changeDisk fun d =>
              let before : File :=
                match d.find? there with
                | some (.file f) => f
                | _ => default
              let executable := if isThere && !k.times then before.executable else f.executable
              let copy : File := ⟨f.content, if k.times then f.modified else d.now, executable⟩
              let d := d.put there (.file copy)
              if isThere then d else d.touchDirectory there.dropLast
            return 0
where
  /-- Copies the entries of a directory into another one. -/
  copyAll (n : Nat) (found : List (String × Entry)) (source target : String) : Action Nat :=
    eachOf found fun (name, _) => do
      let name := Text.toBytewise name
      copyEntry c k n (below source name) (below target name)

/-- Whether what lies at a target is to be kept. -/
def keepsTarget (o : Options) (source target : String) : Action Bool := do
  let d ← disk
  let isThere := (d.locate (pathOf target) true).toOption.any fun p =>
    match p with
    | .present _ _ => true
    | _ => false
  if !isThere then return false
  if o.lastOf? ["i", "n"] == some "n" then return true
  if !o.has "u" then return false
  match (o.last? "u").getD "" with
  | "none" => return true
  | "all" => return false
  | _ =>
    match d.modifiedAt (pathOf source), d.modifiedAt (pathOf target) with
    | .ok old, .ok new => return decide (old ≤ new)
    | _, _ => return false

/-- Copies files and directories. -/
def cp : Utility :=
  withOptions
    (targetForms ++
      [flag "r" ["recursive"], flag "R", flag "a" ["archive"], flag "p", flag "d", flag "L" ["dereference"],
        flag "P" ["no-dereference"], flag "H", flag "l" ["link"], flag "s" ["symbolic-link"],
        flag "x" ["one-file-system"], ⟨"preserve", ["preserve"], .maybe⟩, flag "parents" ["parents"],
        ⟨"reflink", ["reflink"], .maybe⟩, flag "removal" ["remove-destination"]]) fun c o => do
    let recursive := o.hasAny ["r", "R", "a"]
    let links :=
      match o.lastOf? ["L", "P", "d", "a"] with
      | some "L" => false
      | some _ => true
      | none => recursive
    let asks := o.lastOf? ["i", "n"] == some "i"
    let k : Copying := ⟨recursive, links, o.hasAny ["p", "a", "preserve"], o.has "v", asks⟩
    toTargets c o fun source target => do
      if ← keepsTarget o source target then return 0
      let d ← disk
      if o.has "s" then
        attempt c ("cannot create symbolic link " ++ quotedName target)
          (Disk.change (·.createLink (pathOf target) (pathOf source)))
      else copyEntry c k (d.depth + 1) source target

/-! ## Moves -/

/-- Moves an entry to a path. -/
def relocate (c : Call) (verbose : Bool) (source target : String) : Action Nat := do
  let refuse (message : String) : Action Nat := c.fail message
  match ← entryAt? source with
  | .error e => refuse ("cannot stat " ++ quotedName source ++ ": " ++ wording e)
  | .ok (place, e) =>
    let cannotMove (why : String) : Action Nat :=
      refuse ("cannot move " ++ quotedName source ++ " to " ++ quotedName target ++ ": " ++ why)
    let isDirectory :=
      match e with
      | .directory _ => true
      | _ => false
    let d ← disk
    let go : Action Nat := do
      match ← onDisk (Disk.change (·.rename (pathOf source) (pathOf target))) with
      | .ok () =>
        if verbose then say ("renamed " ++ quotedName source ++ " -> " ++ quotedName target ++ "\n")
        return 0
      | .error e => cannotMove (wording e)
    match d.locateName (pathOf target) with
    | .error e => cannotMove e.wording
    | .ok (.absent directory _) =>
      if isDirectory && place.isPrefixOf directory then
        refuse ("cannot move " ++ quotedName source ++ " to a subdirectory of itself, " ++ quotedName target)
      else if !isDirectory && Text.endsWith "/" target then cannotMove OsError.notADirectory.wording
      else go
    | .ok (.present there e') =>
      let thereIsDirectory :=
        match e' with
        | .directory _ => true
        | _ => false
      if there == place then
        if isDirectory then
          refuse ("cannot move " ++ quotedName source ++ " to a subdirectory of itself, " ++
            quotedName (below target (lastName source)))
        else refuse (quotedName source ++ " and " ++ quotedName target ++ " are the same file")
      else if isDirectory && place.isPrefixOf there then
        refuse ("cannot move " ++ quotedName source ++ " to a subdirectory of itself, " ++ quotedName target)
      else
        match isDirectory, thereIsDirectory with
        | true, false =>
          refuse ("cannot overwrite non-directory " ++ quotedName target ++ " with directory " ++
            quotedName source)
        | false, true => refuse ("cannot overwrite directory " ++ quotedName target ++ " with non-directory")
        | true, true =>
          if (d.entriesIn there).isEmpty then go
          else refuse ("cannot overwrite " ++ quotedName target ++ ": " ++ OsError.directoryNotEmpty.wording)
        | false, false => if Text.endsWith "/" target then cannotMove OsError.notADirectory.wording else go

/-- Moves files and directories. -/
def mv : Utility :=
  withOptions targetForms fun c o =>
    toTargets c o fun source target => do
      if ← keepsTarget o source target then return 0
      let same ← do
        match ← entryAt? source, (← disk).resolve (pathOf (directoryOf target)) with
        | .ok (place, .directory _), .ok (there, _) => pure (place == there)
        | _, _ => pure false
      if same then
        c.fail ("cannot move " ++ quotedName source ++ " to a subdirectory of itself, " ++ quotedName target)
      else
        let isThere := ((← disk).locate (pathOf target) false).toOption.any fun p =>
          match p with
          | .present _ _ => true
          | _ => false
        if isThere && o.lastOf? ["i", "f", "n"] == some "i" then
          if !(← agrees c ("overwrite " ++ quotedName target)) then return 1
        relocate c (o.has "v") source target

/-! ## Links -/

/-- Places links. -/
def ln : Utility :=
  withOptions
    (targetForms ++
      [flag "s" ["symbolic"], flag "r" ["relative"], flag "n" ["no-dereference"], flag "L" ["logical"],
        flag "P" ["physical"], flag "d" ["directory"], flag "F"]) fun c o => do
    let symbolic := o.has "s"
    let kind := if symbolic then "symbolic link " else "hard link "
    let place (target link : String) : Action Nat := do
      let d ← disk
      let cannot (why : String) : Action Nat :=
        let shown :=
          if symbolic && target != "" && why != OsError.notFound.wording then quotedName link
          else if symbolic then quotedName link ++ " -> " ++ quotedName target
          else if why == OsError.notFound.wording then quotedName link ++ " => " ++ quotedName target
          else quotedName link
        c.fail ("failed to create " ++ kind ++ shown ++ ": " ++ why)
      let isThere :=
        match d.locate (pathOf link) false with
        | .ok (.present _ _) => true
        | _ => false
      let text ←
        if symbolic && o.has "r" then
          match placeOf d .nothing target, d.resolve (pathOf (directoryOf link)) with
          | .ok place, .ok (directory, _) => pure (relativePath directory place)
          | _, _ => pure target
        else pure target
      let told : Action Unit := do
        if o.has "v" then
          say (quotedName link ++ (if symbolic then " -> " else " => ") ++ quotedName text ++ "\n")
      let replaces := o.hasAny ["f", "i"]
      if isThere && o.lastOf? ["f", "i"] == some "i" then
        if !(← agrees c ("replace " ++ quotedName link)) then return 1
      if symbolic then
        if target == "" then return ← cannot OsError.notFound.wording
        if isThere then
          if replaces && !d.isDirectory (pathOf link) || (replaces && o.has "n") then
            changeDisk (·.removeAll (pathOf link))
          else return ← cannot OsError.alreadyExists.wording
        match ← onDisk (Disk.change (·.createLink (pathOf link) (pathOf text))) with
        | .ok () =>
          told
          return 0
        | .error e => cannot (wording e)
      else
        match d.resolve (pathOf target) with
        | .error e => c.fail ("failed to access " ++ quotedName target ++ ": " ++ e.wording)
        | .ok (_, .file f) =>
          if isThere then
            if replaces then changeDisk (·.removeAll (pathOf link))
            else return ← cannot OsError.alreadyExists.wording
          match (← disk).locateName (pathOf link) with
          | .ok (.absent directory name) =>
            changeDisk (·.addIn directory name (.file f))
            told
            return 0
          | .ok _ => cannot OsError.alreadyExists.wording
          | .error e => cannot e.wording
        | .ok _ => c.fail (target ++ ": hard link not allowed for directory")
    match o.operands, o.has "t" || o.has "T" with
    | [target], false => place target (below "." (lastName target))
    | [target, link], false =>
      let d ← disk
      let isLink :=
        match d.locate (pathOf link) false with
        | .ok (.present _ (.link _)) => true
        | _ => false
      if d.isDirectory (pathOf link) && !(o.has "n" && isLink) then
        place target (below link (lastName target))
      else place target link
    | _, _ => toTargets c o place

/-! ## Times and modes -/

/-- The number of days from the first of January 1970 to a day. -/
def daysTo (year month day : Nat) : Int :=
  let y : Int := if month ≤ 2 then year - 1 else year
  let m : Int := if month ≤ 2 then month + 9 else month - 3
  365 * y + y / 4 - y / 100 + y / 400 + (153 * m + 2) / 5 + day - 719469

/-- The time of the parts of a date, in seconds since the beginning of 1970. -/
def secondsAt (year month day hour minute second : Nat) : Int :=
  (daysTo year month day * 24 + hour) * 3600 + minute * 60 + second

/-- The numbers in a text. -/
def numbersIn (s : String) : List Nat :=
  let pieces := s.toList.splitBy fun a b => a.isDigit == b.isDigit
  pieces.filterMap fun cs => Text.digits? cs

/-- The time that a text names, in nanoseconds since the beginning of 1970. -/
def timeOf? (now : Int) (s : String) : Option Int :=
  let scale : Int := 1000000000
  match s.toList with
  | '@' :: cs =>
    (Text.leadingInteger? (Text.leadingDigits? 10) cs).bind fun (n, rest) =>
      match rest with
      | [] => some (n * scale)
      | '.' :: ds =>
        (Text.digits? (ds.take 9)).map fun f =>
          n * scale + f * Binary64.tenTo (9 - (ds.take 9).length)
      | _ => none
  | _ =>
    if s == "now" || s == "" then some now
    else
      match numbersIn s with
      | [y, m, d] => if 1000 ≤ y then some (secondsAt y m d 0 0 0 * scale) else none
      | [y, m, d, h, min] => if 1000 ≤ y then some (secondsAt y m d h min 0 * scale) else none
      | y :: m :: d :: h :: min :: sec :: _ =>
        if 1000 ≤ y then some (secondsAt y m d h min sec * scale) else none
      | _ => none

/-- The time that a stamp of the form `[[CC]YY]MMDDhhmm[.ss]` names, in nanoseconds. -/
def timeOfStamp? (s : String) : Option Int :=
  match Text.pieces '.' s with
  | digits :: rest =>
    let second := ((rest.head?).bind fun t => Text.digits? t.toList).getD 0
    let two (n : Nat) : Nat := (Text.digits? ((digits.toList.drop n).take 2)).getD 0
    let at' (year start : Nat) : Option Int :=
      some (secondsAt year (two start) (two (start + 2)) (two (start + 4)) (two (start + 6)) second *
        1000000000)
    if !digits.toList.all Char.isDigit then none
    else
      match digits.length with
      | 12 => at' (two 0 * 100 + two 2) 4
      | 10 => at' (if two 0 < 69 then 2000 + two 0 else 1900 + two 0) 2
      | 8 => at' 2026 0
      | _ => none
  | [] => none

/-- Creates files that are missing, and sets the times of the others. -/
def touch : Utility :=
  withOptions
    [flag "a", flag "m", flag "c" ["no-create"], valued "d" ["date"], flag "f",
      flag "h" ["no-dereference"], valued "r" ["reference"], valued "t", valued "time" ["time"]]
    fun c o => do
      if o.operands.isEmpty then return ← c.misused "missing file operand"
      let now := (← disk).now
      let time : Except String Int ←
        match o.last? "d", o.last? "t", o.last? "r" with
        | some s, _, _ =>
          pure (match timeOf? now s with
            | some t => .ok t
            | none => .error ("invalid date format " ++ quoted s))
        | none, some s, _ =>
          pure (match timeOfStamp? s with
            | some t => .ok t
            | none => .error ("invalid date format " ++ quoted s))
        | none, none, some p => do
          match (← disk).modifiedAt (pathOf p) with
          | .ok t => pure (.ok t)
          | .error e =>
            pure (.error ("failed to get attributes of " ++ quotedName p ++ ": " ++ wording e))
        | none, none, none => pure (.ok now)
      match time with
      | .error message => c.fail message
      | .ok t =>
        eachOf o.operands fun p => do
          let set : Action Unit := do
            unless o.has "a" && !o.has "m" do changeDisk (·.setModified (pathOf p) t)
          match ← resolved p with
          | .ok _ =>
            set
            return 0
          | .error e =>
            if o.has "c" && (e == .notFound || e == .notADirectory) then return 0
            else if e == .notFound then
              match ← onDisk (Disk.change (·.write (pathOf p) ByteArray.empty)) with
              | .ok () =>
                set
                return 0
              | .error e =>
                let e : IoError := if p == "" then OsError.notFound else e
                c.fail ("cannot touch " ++ quotedName p ++ ": " ++ wording e)
            else c.fail ("cannot touch " ++ quotedName p ++ ": " ++ e.wording)

/-- Whether a file may be executed after a change of its mode, or nothing if the mode makes no sense. -/
def executableBy? (mode : String) (before : Bool) : Option Bool :=
  let cs := mode.toList
  if cs.isEmpty then none
  else if cs.all isOctal then
    if cs.length ≤ 4 then some ((cs.reverse.take 3).any fun c => (c.toNat - '0'.toNat) % 2 == 1) else none
  else
    (Text.pieces ',' mode).foldlM (fun now clause =>
      let who := clause.toList.takeWhile ['u', 'g', 'o', 'a'].contains
      match clause.toList.drop who.length with
      | op :: perms =>
        if ['+', '-', '='].contains op && perms.all ['r', 'w', 'x', 'X', 's', 't', 'u', 'g', 'o'].contains
        then
          let x := perms.contains 'x' || (perms.contains 'X' && now)
          let copied := perms.any ['u', 'g', 'o'].contains
          match op with
          | '+' => some (now || x)
          | '-' => some (now && !x)
          | _ => if copied then some now else some x
        else none
      | [] => none) before
where
  /-- Octal digits of modes. -/
  isOctal (c : Char) : Bool := '0' ≤ c && c ≤ '7'

/-- The paths below a directory and its own, at most `n` directories deep. -/
def treeOf (d : Disk) : Nat → String → List String
  | 0, p => [p]
  | n + 1, p =>
    match d.locate (pathOf p) false with
    | .ok (.present place (.directory _)) =>
      p :: (d.entriesIn place).flatMap fun (name, _) => treeOf d n (below p (Text.toBytewise name))
    | _ => [p]

/-- Changes the modes of files. -/
def chmod : Utility := fun c => do
  let isMode (a : String) : Bool :=
    match a.toList with
    | '-' :: cs => !cs.isEmpty && cs.all ['r', 'w', 'x', 'X', 's', 't', ','].contains
    | _ => false
  let given := c.arguments.takeWhile fun a => Text.beginsWith "-" a && !isMode a && a != "--"
  let rest := c.arguments.drop given.length
  let rest := if rest.head? == some "--" then rest.drop 1 else rest
  let forms :=
    [flag "R" ["recursive"], flag "v" ["verbose"], flag "c" ["changes"], flag "f" ["silent", "quiet"],
      valued "reference" ["reference"]]
  match Options.parse forms true given with
  | .error m => c.misused m.message
  | .ok o =>
    match rest with
    | [] => c.misused "missing operand"
    | [mode] =>
      c.misused ("missing operand after " ++ quoted mode)
    | mode :: files =>
      if (executableBy? mode false).isNone then c.misused ("invalid mode: " ++ quoted mode)
      else
        eachOf files fun p => do
          let d ← disk
          let all := if o.has "R" then treeOf d d.depth p else [p]
          eachOf all fun p => do
            match ← resolved p with
            | .ok (place, .file f) =>
              changeDisk (·.put place
                (.file { f with executable := (executableBy? mode f.executable).getD false }))
              return 0
            | .ok _ => return 0
            | .error e =>
              if o.has "f" then return 1
              c.fail ("cannot access " ++ quotedName p ++ ": " ++ e.wording)

/-- Accepts changes of owners, which nothing depends on. -/
def chown : Utility :=
  withOptions
    [flag "R" ["recursive"], flag "v" ["verbose"], flag "c" ["changes"], flag "f" ["silent", "quiet"],
      flag "h" ["no-dereference"]] fun c o =>
    match o.operands with
    | [] => c.misused "missing operand"
    | [a] => c.misused ("missing operand after " ++ quoted a)
    | _ :: files =>
      eachOf files fun p => do
        match ← resolved p with
        | .ok _ => return 0
        | .error e => c.fail ("cannot access " ++ quotedName p ++ ": " ++ e.wording)

/-- Gives a file another name. -/
def link : Utility :=
  withOptions [] fun c o => do
    match o.operands with
    | [target, name] =>
      let cannot (why : String) : Action Nat :=
        c.fail ("cannot create link " ++ quotedName name ++ " to " ++ quotedName target ++ ": " ++ why)
      match (← disk).resolve (pathOf target), (← disk).locateName (pathOf name) with
      | .error e, _ | _, .error e => cannot e.wording
      | .ok (_, .file f), .ok (.absent directory last) =>
        changeDisk (·.addIn directory last (.file f))
        return 0
      | .ok (_, .file _), .ok _ => cannot OsError.alreadyExists.wording
      | .ok _, .ok _ => cannot "Operation not permitted"
    | [] => c.misused "missing operand"
    | [a] => c.misused ("missing operand after " ++ quoted a)
    | _ :: _ :: extra :: _ => c.misused ("extra operand " ++ quoted extra)

/-! ## Sizes -/

/-- A number of bytes with a unit. -/
def sizeOf? (s : String) : Option Nat := do
  let digits := s.toList.takeWhile Char.isDigit
  let n ← Text.digits? digits
  let factor ←
    match String.ofList (s.toList.drop digits.length) with
    | "" | "c" => some 1
    | "b" => some 512
    | "kB" => some 1000
    | "K" | "k" | "KiB" => some 1024
    | "MB" => some 1000000
    | "M" | "m" | "MiB" => some 1048576
    | "G" | "GiB" => some 1073741824
    | _ => none
  return n * factor

/-- Sets the sizes of files. -/
def truncate : Utility :=
  withOptions
    [valued "s" ["size"], flag "c" ["no-create"], valued "r" ["reference"], flag "o" ["io-blocks"]]
    fun c o => do
      match o.last? "s" with
      | none =>
        if (o.last? "r").isNone then
          return ← c.misused "you must specify either '--size' or '--reference'"
        return 1
      | some s =>
        if o.operands.isEmpty then return ← c.misused "missing file operand"
        let (sign, digits) :=
          match s.toList with
          | '+' :: cs => ('+', String.ofList cs)
          | '-' :: cs => ('-', String.ofList cs)
          | '<' :: cs => ('<', String.ofList cs)
          | '>' :: cs => ('>', String.ofList cs)
          | _ => ('=', s)
        match sizeOf? digits with
        | none => c.fail ("Invalid number: " ++ quoted s)
        | some n =>
          eachOf o.operands fun p => do
            let before := ((← disk).read (pathOf p)).toOption
            if before.isNone && o.has "c" then return 0
            let b := before.getD ByteArray.empty
            let size :=
              match sign with
              | '+' => b.size + n
              | '-' => b.size - n
              | '<' => min b.size n
              | '>' => max b.size n
              | _ => n
            let content := b.extract 0 size ++ ⟨Array.replicate (size - b.size) 0⟩
            attempt c ("cannot open " ++ quotedName p ++ " for writing")
              (Disk.change (·.write (pathOf p) content))

/-- Copies files and makes them executable, or creates directories. -/
def install : Utility :=
  withOptions
    (targetForms ++
      [valued "m" ["mode"], flag "d" ["directory"], flag "D", flag "c", valued "o" ["owner"],
        valued "g" ["group"], flag "p" ["preserve-timestamps"], flag "s" ["strip"]]) fun c o => do
    let executable := ((o.last? "m").bind fun m => executableBy? m true).getD true
    if o.has "d" then
      if o.operands.isEmpty then return ← c.misused "missing file operand"
      eachOf o.operands fun p => makeAll c (o.has "v") p (ancestors p)
    else
      if o.has "D" then
        match o.last? "t", o.operands.getLast? with
        | some directory, _ => do let _ ← makeAll c false directory (ancestors directory)
        | none, some target => do
          let directory := directoryOf target
          let _ ← makeAll c false directory (ancestors directory)
        | none, none => pure ()
      toTargets c o fun source target => do
        let status ← copyEntry c ⟨false, false, o.has "p", o.has "v", false⟩ 1 source target
        if status == 0 then
          match ← resolved target with
          | .ok (place, .file f) => changeDisk (·.put place (.file { f with executable }))
          | _ => pure ()
        return status

end Buildwright.Shell.Utility
