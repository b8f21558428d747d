-- SUMMARY: Finding the files below a directory, by extension, and listing them with their content.
import Buildwright.Disk.Basic
import Buildwright.SortedMap

/-!
# Files below a directory

`filesWithExtension` finds the regular files with an extension below a directory, without following
the links it meets there. `listing` shows every file below a directory with its content.
-/
namespace Buildwright.Disk

/-- Puts a path in front of the first of a sorted list that it does not come after. -/
def insertPath (p : Path) : List Path → List Path
  | [] => [p]
  | q :: rest => if compare p q = .gt then q :: insertPath p rest else p :: q :: rest

/-- The paths in the order of their components. -/
def sortPaths (ps : List Path) : List Path :=
  ps.foldr insertPath []

/-- A number that no chain of directories on the disk is as long as. -/
def depth (d : Disk) : Nat :=
  d.entries.foldl (fun n x => max n x.1.length) 0 + 1

/-- The regular files at most `n` directories below a directory that have a given extension. -/
def filesWithin (d : Disk) (extension : String) : Nat → Path → Except IoError (List Path)
  | 0, _ => .ok []
  | n + 1, directory =>
    match d.readDirectory directory with
    | .error e => if e.kind = .notFound then .ok [] else .error e
    | .ok found => do
      let below ← found.mapM fun (name, e) =>
        let p := directory.join ⟨name⟩
        match e with
        | .directory _ | .closed => d.filesWithin extension n p
        | .file _ => .ok (if p.extension? = some extension then [p] else [])
        | .link _ => .ok []
      .ok below.flatten

/-- The regular files below a directory that have a given extension, in the order of their
    components. Links that lead out of a directory are not followed, leading dots of the extension do
    not count, and a path that leads to no directory has no files below it. -/
def filesWithExtension (d : Disk) (root : Path) (extension : String) : Except IoError (List Path) :=
  if d.isDirectory root then
    (d.filesWithin (Text.dropLeading '.' extension) d.depth root).map sortPaths
  else .ok []

/-- What a listing shows of a directory at most `n` directories deep: its files with their content,
    and the directories in which there is nothing. -/
def listingWithin (d : Disk) : Nat → String → Location → List (String × Option Bytes)
  | 0, _, _ => []
  | n + 1, shown, directory =>
    match d.entriesIn directory with
    | [] => [(shown ++ "/", none)]
    | found => found.flatMap fun (name, e) =>
      let below := shown ++ "/" ++ name
      match e with
      | .directory _ => d.listingWithin n below (directory ++ [name])
      | .file f => [(below, some f.content)]
      | .link _ =>
        match d.read ⟨below⟩ with
        | .ok content => [(below, some content)]
        | .error _ => []
      | .closed => []

/-- The files below a directory with their content, and the empty directories with a slash, in the
    order of their paths. -/
def listing (d : Disk) (directory : Path) : List (String × Option Bytes) :=
  match d.resolve directory with
  | .ok (place, .directory _) =>
    let shown := (withoutFinalSlash directory.text)
    (SortedMap.ofList (d.listingWithin d.depth shown place)).entries
  | _ => []
where
  /-- A text without one slash at its end. -/
  withoutFinalSlash (s : String) : String := (Text.before? "/" s).getD s

end Buildwright.Disk
