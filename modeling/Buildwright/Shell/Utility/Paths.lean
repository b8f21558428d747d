-- SUMMARY: Programs that take paths apart and follow them.
import Buildwright.Shell.Utility.Options

/-!
# Paths

Programs that write parts of paths, the targets of links, and the places to which paths lead.
-/
namespace Buildwright.Shell.Utility

open Shell.Action

/-- Writes texts, each with its end. -/
def sayEach (ending : String) (texts : List String) : Action Unit :=
  say (String.join (texts.map (· ++ ending)))

/-- The path of a place. -/
def pathAt (place : Location) : String :=
  Text.toBytewise ("/" ++ Text.joined "/" place)

/-- A name without an ending, unless nothing would be left. -/
def withoutEnding (name ending : String) : String :=
  if name == ending || name == "/" then name else (Text.before? ending name).getD name

/-- Writes the last names of paths, without an ending. -/
def basename : Utility :=
  withLeadingOptions
    [flag "a" ["multiple"], valued "s" ["suffix"], flag "z" ["zero"]] fun c o => do
    let ending := if o.has "z" then "\x00" else "\n"
    if o.operands.isEmpty then return ← c.misused "missing operand"
    if o.hasAny ["a", "s"] then
      sayEach ending (o.operands.map fun p => withoutEnding (lastName p) ((o.last? "s").getD ""))
      return 0
    match o.operands with
    | [p] =>
      sayEach ending [lastName p]
      return 0
    | [p, suffix] =>
      sayEach ending [withoutEnding (lastName p) suffix]
      return 0
    | _ => c.misused ("extra operand " ++ quoted ((o.operands.drop 2).headD ""))

/-- Writes the paths of the directories of paths. -/
def dirname : Utility :=
  withOptions [flag "z" ["zero"]] fun c o => do
    if o.operands.isEmpty then return ← c.misused "missing operand"
    sayEach (if o.has "z" then "\x00" else "\n") (o.operands.map directoryOf)
    return 0

/-- Writes the path of the working directory. -/
def pwd : Utility :=
  withOptions [flag "L" ["logical"], flag "P" ["physical"]] fun _ _ => do
    say (pathAt (← disk).workingDirectory ++ "\n")
    return 0

/-- How much of a path has to be there. -/
inductive Presence where
  | all
  /-- All but the last name. -/
  | directories
  | nothing
  deriving DecidableEq

/-- The place to which a path leads or would lead. -/
def placeOf (d : Disk) (presence : Presence) (p : String) : Except IoError Location :=
  match d.locate (pathOf p) true with
  | .ok (.present place _) => .ok place
  | .ok (.absent directory name) =>
    if presence == .all then .error OsError.notFound else .ok (directory ++ [name])
  | .error e =>
    if presence == .nothing then
      .ok (Disk.start d.workingDirectory (pathOf p) ++ Disk.names (pathOf p))
    else .error e

/-- Writes the targets of links. -/
def readlink : Utility :=
  withOptions
    [flag "f" ["canonicalize"], flag "e" ["canonicalize-existing"], flag "m" ["canonicalize-missing"],
      flag "n" ["no-newline"], flag "q" ["quiet"], flag "s" ["silent"], flag "v" ["verbose"],
      flag "z" ["zero"]] fun c o => do
    if o.operands.isEmpty then return ← c.misused "missing operand"
    let ending :=
      if o.has "n" && o.operands.length == 1 then "" else if o.has "z" then "\x00" else "\n"
    eachOf o.operands fun p => do
      let d ← disk
      let found : Except IoError String :=
        match o.lastOf? ["f", "e", "m"] with
        | some key =>
          (placeOf d (if key == "f" then .directories else if key == "e" then .all else .nothing) p).map
            pathAt
        | none =>
          match d.locate (pathOf p) false with
          | .ok (.present _ (.link target)) => .ok (Text.toBytewise target.text)
          | .ok (.present _ _) => .error (.other "Invalid argument")
          | .ok (.absent _ _) => .error OsError.notFound
          | .error e => .error e
      match found with
      | .ok text =>
        say (text ++ ending)
        return 0
      | .error e =>
        if o.has "v" then c.report (shownName p ++ ": " ++ wording e)
        return 1

/-- The path from a directory to a place. -/
def relativePath (directory place : Location) : String :=
  let shared := ((directory.zip place).takeWhile fun (a, b) => a == b).length
  let names := List.replicate (directory.length - shared) ".." ++ place.drop shared
  if names.isEmpty then "." else Text.toBytewise (Text.joined "/" names)

/-- Writes the places to which paths lead. -/
def realpath : Utility :=
  withOptions
    [flag "e" ["canonicalize-existing"], flag "m" ["canonicalize-missing"], flag "L" ["logical"],
      flag "P" ["physical"], flag "q" ["quiet"], flag "s" ["strip", "no-symlinks"], flag "z" ["zero"],
      valued "relative-to" ["relative-to"], valued "relative-base" ["relative-base"]] fun c o => do
    if o.operands.isEmpty then return ← c.misused "missing operand"
    let presence : Presence :=
      match o.lastOf? ["e", "m"] with
      | some "e" => .all
      | some _ => .nothing
      | none => .directories
    eachOf o.operands fun p => do
      let d ← disk
      match placeOf d presence p with
      | .ok place =>
        let base := (o.last? "relative-to").bind fun b => (placeOf d .nothing b).toOption
        let text :=
          match base with
          | some directory => relativePath directory place
          | none => pathAt place
        say (text ++ if o.has "z" then "\x00" else "\n")
        return 0
      | .error e =>
        if o.has "q" then return 1
        c.fail (shownName p ++ ": " ++ wording e)

/-- Creates a file or a directory with a new name. -/
def mktemp : Utility :=
  withOptions
    [flag "d" ["directory"], flag "u" ["dry-run"], flag "q" ["quiet"], valued "p", flag "t",
      ⟨"tmpdir", ["tmpdir"], .maybe⟩, valued "suffix" ["suffix"]] fun c o => do
    let template := o.operands.headD "tmp.XXXXXXXXXX"
    let inDirectory := o.operands.isEmpty || o.hasAny ["p", "t", "tmpdir"]
    let directory := (o.last? "p").getD "/tmp"
    let xs := (template.toList.reverse.dropWhile (· != 'X')).takeWhile (· == 'X')
    if xs.length < 3 then return ← c.fail ("too few X's in template " ++ quoted template)
    let behind := template.toList.reverse.takeWhile (· != 'X')
    let stem := (template.toList.reverse.drop (behind.length + xs.length)).reverse
    let d ← disk
    let name (n : Nat) : String :=
      let digits := (toString n).toList
      let fill := List.replicate (xs.length - digits.length) 'A'
      String.ofList (stem ++ fill ++ digits ++ behind.reverse) ++ (o.last? "suffix").getD ""
    let path (n : Nat) : String := if inDirectory then below directory (name n) else name n
    let free := (List.range (d.entries.length + 1)).find? fun n =>
      match d.locate (pathOf (path n)) false with
      | .ok (.present _ _) => false
      | _ => true
    let p := path (free.getD 0)
    let kind := if o.has "d" then "directory" else "file"
    let made ←
      if o.has "u" then pure (.ok ())
      else if o.has "d" then onDisk (Disk.change (·.createDirectory (pathOf p)))
      else onDisk (Disk.change (·.write (pathOf p) ByteArray.empty))
    match made with
    | .ok () =>
      say (p ++ "\n")
      return 0
    | .error e =>
      if o.has "q" then return 1
      let shown := if inDirectory then below directory template else template
      c.fail ("failed to create " ++ kind ++ " via template " ++ quoted shown ++ ": " ++ wording e)

end Buildwright.Shell.Utility
