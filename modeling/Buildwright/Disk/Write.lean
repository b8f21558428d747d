-- SUMMARY: Changing the disk: directories, files, removal and renaming.
import Buildwright.Disk.Basic

/-!
# Changes to the disk

Single changes are functions that give the changed disk or a report. Creating a directory with its
parents, and writing a file with its directories, may change something and then fail, so they are
computations that leave a disk behind in either case.
-/
namespace Buildwright.Disk

/-! ## Single changes -/

/-- The disk on which the directory at a place has just been changed. -/
def touchDirectory (d : Disk) (place : Location) : Disk :=
  if place = [] then d else d.put place (.directory d.now)

/-- The disk with a new entry in a directory. -/
def addIn (d : Disk) (directory : Location) (name : String) (e : Entry) : Disk :=
  (d.put (directory ++ [name]) e).touchDirectory directory

/-- Creates a directory, whose parent has to be there. -/
def createDirectory (d : Disk) (p : Path) : Except IoError Disk :=
  match d.locateName p with
  | .ok (.present _ _) => .error OsError.alreadyExists
  | .ok (.absent directory name) => .ok (d.addIn directory name (.directory d.now))
  | .error e => .error e

/-- The fewest links with which a walk ends as it does with `n` links, where a link at its end is not
    followed. -/
def linksTaken (d : Disk) (n : Nat) (here : Location) (names : List String) : Nat :=
  ((List.range n).find? fun k =>
    (walk d false k here names).toOption = (walk d false n here names).toOption).getD n

/-- The place of a file that is to be written, through at most `n` links at the end of its path and at most
    `left` links in all. A path that ends in a slash names no file, whatever its last name leads to. -/
def fileToWrite (d : Disk) : Nat → Nat → Location → Path → Except OsError Place
  | 0, _, _, _ => .error .tooManyLinks
  | n + 1, left, directory, p =>
    let here := start directory p
    if Text.endsWith "/" p.text then
      match walk d true left here ((names p).dropLast ++ ["."]) with
      | .ok _ => .error .isADirectory
      | .error e => .error e
    else
      match walk d false left here (names p) with
      | .ok (.present place (.link target)) =>
        match left - d.linksTaken left here (names p) with
        | 0 => .error .tooManyLinks
        | left + 1 => fileToWrite d n left place.dropLast target
      | found => found

/-- The place of a file that is to be written, if a path leads to one. -/
def placeToWrite (d : Disk) (p : Path) : Except OsError Place :=
  checkLength p >>= fun _ => d.fileToWrite (mostLinks + 1) mostLinks d.workingDirectory p

/-- Writes a file, whose directory has to be there. A file that is there already is replaced and
    stays executable if it was. -/
def write (d : Disk) (p : Path) (content : Bytes) : Except IoError Disk :=
  match d.placeToWrite p with
  | .ok (.present here (.file f)) => .ok (d.put here (.file { f with content, modified := d.now }))
  | .ok (.present _ _) => .error OsError.isADirectory
  | .ok (.absent directory name) => .ok (d.addIn directory name (.file ⟨content, d.now, false⟩))
  | .error e => .error e

/-- Removes what a path leads to, with everything below it. A link at the end of the path is removed
    itself, and a path that leads nowhere removes nothing. -/
def removeAll (d : Disk) (p : Path) : Disk :=
  match d.locateName p with
  | .ok (.present here _) => (d.dropWhere here.isPrefixOf).touchDirectory here.dropLast
  | _ => d

/-- The place `place` as it is after everything at `source` has moved to `target`. -/
def movedPlace (source target place : Location) : Location :=
  match source.isPrefixOf? place with
  | some rest => target ++ rest
  | none => place

/-- Moves what a path leads to, with everything below it and with its times, to another path. -/
def rename (d : Disk) (source target : Path) : Except IoError Disk :=
  match d.locateName source, d.locateName target with
  | .ok (.present here _), .ok there =>
    let (directory, name, cleared) :=
      match there with
      | .absent directory name => (directory, name, d)
      | .present place _ =>
        (place.dropLast, place.getLast?.getD "", d.dropWhere fun x => place.isPrefixOf x)
    let moved := cleared.entries.map fun x => (movedPlace here (directory ++ [name]) x.1, x.2)
    .ok (({ d with entries := moved }.touchDirectory here.dropLast).touchDirectory directory)
  | .ok (.absent _ _), _ => .error OsError.notFound
  | .error e, _ => .error e
  | _, .error e => .error e

/-- Places a link at a path, in a directory that has to be there. -/
def createLink (d : Disk) (p target : Path) : Except IoError Disk :=
  match d.locateName p with
  | .ok (.present _ _) => .error OsError.alreadyExists
  | .ok (.absent directory name) => .ok (d.addIn directory name (.link target))
  | .error e => .error e

/-- Sets the time of the last change of what a path leads to. -/
def setModified (d : Disk) (p : Path) (time : Int) : Disk :=
  match d.resolve p with
  | .ok (here, .file f) => d.put here (.file { f with modified := time })
  | .ok (here, .directory _) => if here = [] then d else d.put here (.directory time)
  | _ => d

/-- Makes the file that a path leads to executable. -/
def setExecutable (d : Disk) (p : Path) : Disk :=
  match d.resolve p with
  | .ok (here, .file f) => d.put here (.file { f with executable := true })
  | _ => d

/-! ## Changes that may stop halfway -/

/-- Makes a single change. -/
def change (f : Disk → Except IoError Disk) : DiskM Unit := fun d =>
  match f d with
  | .ok d' => .ok () d'
  | .error e => .error e d

/-- Reads without changing anything. -/
def look {α : Type} (f : Disk → Except IoError α) : DiskM α := fun d =>
  match f d with
  | .ok a => .ok a d
  | .error e => .error e d

/-- Accepts a failure to create a directory if the directory is there. -/
def unlessDirectory (p : Path) (e : IoError) : DiskM Unit := do
  unless (← get).isDirectory p do throw e

/-- Creates the directory of a path with `n` components, with its parents. -/
def createDirectoriesFrom : Nat → Path → DiskM Unit
  | 0, _ => pure ()
  | n + 1, p =>
    tryCatch (change (·.createDirectory p)) fun e =>
      if e.kind = .notFound then
        match p.parent? with
        | none => throw .noRoot
        | some parent => do
          createDirectoriesFrom n parent
          tryCatch (change (·.createDirectory p)) (unlessDirectory p)
      else unlessDirectory p e

/-- Creates a directory with those of its parents that are missing. -/
def createDirectories (p : Path) : DiskM Unit :=
  createDirectoriesFrom p.components.length p

/-- Writes a file, with those of its directories that are missing. -/
def writeWithDirectories (p : Path) (content : Bytes) : DiskM Unit := do
  match p.parent? with
  | some parent => if parent.text != "" then createDirectories parent
  | none => pure ()
  change (·.write p content)

/-- A path of a temporary directory that is free on a disk. -/
def freeTemporary (d : Disk) (label : String) : Path :=
  let free := (List.range (d.entries.length + 1)).find? fun n =>
    (d.find? ["tmp", label ++ toString n]).isNone
  ⟨"/tmp/" ++ label ++ toString (free.getD 0)⟩

end Buildwright.Disk
