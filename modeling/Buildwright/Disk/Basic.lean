-- SUMMARY: The disk: what lies at which place, and how a path leads to a place.
import Buildwright.Disk.Error
import Buildwright.Path
import Buildwright.Text.Utf8

/-!
# The disk

A disk is the list of what lies on it, each entry at a place given by the names that lead to it from
the root. The order of the list is the order in which directories show their entries, and nothing
else depends on it.

`locate` follows a path: it goes from name to name, through symbolic links, and ends at an entry, or
at a free name in a directory.
-/
namespace Buildwright

/-- A place on the disk: the names that lead to it from the root, outermost first. -/
abbrev Location := List String

/-- A regular file. Times are nanoseconds since the epoch. -/
structure File where
  content : Bytes
  modified : Int
  executable : Bool
  deriving DecidableEq, Inhabited

/-- What lies at a place. -/
inductive Entry where
  | file (f : File)
  | directory (modified : Int)
  | link (target : Path)
  /-- A directory that may be neither read nor entered. -/
  | closed
  deriving DecidableEq, Inhabited

/-- A disk: its entries, the directory that relative paths start from, and the time of every change
    made to it. -/
structure Disk where
  entries : List (Location × Entry)
  workingDirectory : Location
  now : Int
  deriving DecidableEq, Inhabited

/-- A computation that reads and changes the disk. -/
abbrev DiskM := EStateM IoError Disk

namespace Disk

/-! ## Entries -/

/-- What lies at a place; the root is a directory of every disk. -/
def find? (d : Disk) (place : Location) : Option Entry :=
  if place = [] then some (.directory d.now) else d.entries.lookup place

/-- The entries with `e` at a place. -/
def putEntry (place : Location) (e : Entry) : List (Location × Entry) → List (Location × Entry)
  | [] => [(place, e)]
  | x :: rest => if x.1 = place then (place, e) :: rest else x :: putEntry place e rest

/-- The disk with `e` at a place. -/
def put (d : Disk) (place : Location) (e : Entry) : Disk :=
  { d with entries := putEntry place e d.entries }

/-- The disk without the entries for whose places `p` holds. -/
def dropWhere (d : Disk) (p : Location → Bool) : Disk :=
  { d with entries := d.entries.filter fun x => !p x.1 }

/-- The last name of a place, when the place lies directly in a directory. -/
def nameIn? (directory place : Location) : Option String :=
  match directory.isPrefixOf? place with
  | some [name] => some name
  | _ => none

/-- The entries directly in a directory, in the order of the disk. -/
def entriesIn (d : Disk) (directory : Location) : List (String × Entry) :=
  d.entries.filterMap fun (place, e) => (nameIn? directory place).map (·, e)

private theorem lookup_entry_cons (x : Location × Entry) (es : List (Location × Entry))
    (place : Location) :
    (x :: es).lookup place = if place = x.1 then some x.2 else es.lookup place := by
  obtain ⟨at', e⟩ := x
  rw [List.lookup_cons]
  by_cases h : place = at'
  · simp [h]
  · simp [h, beq_eq_false_iff_ne.2 h]

theorem lookup_putEntry (es : List (Location × Entry)) (place place' : Location) (e : Entry) :
    (putEntry place e es).lookup place' = if place' = place then some e else es.lookup place' := by
  induction es with
  | nil => simp [putEntry, lookup_entry_cons]
  | cons x rest ih =>
    by_cases hk : x.1 = place
    · by_cases h : place' = place <;> simp [putEntry, lookup_entry_cons, hk, h]
    · by_cases h : place' = x.1
      · simp [putEntry, lookup_entry_cons, hk, h]
      · simp [putEntry, lookup_entry_cons, hk, h, ih]

/-- An entry that is put at a place lies there, and all other places stay as they are. -/
theorem find?_put (d : Disk) {place : Location} (h : place ≠ []) (place' : Location) (e : Entry) :
    (d.put place e).find? place' = if place' = place then some e else d.find? place' := by
  by_cases h' : place' = []
  · subst h'; simp [find?, put, Ne.symm h]
  · simp [find?, put, h', lookup_putEntry]

/-! ## Following a path -/

/-- Where a path leads. -/
inductive Place where
  /-- To an entry. -/
  | present (place : Location) (e : Entry)
  /-- To a name that is free in a directory. -/
  | absent (directory : Location) (name : String)
  deriving DecidableEq

/-- The names that a path goes through. -/
def names (p : Path) : List String :=
  (Text.pieces '/' p.text).filter (· != "")

/-- The names that a path goes through, with `.` at the end for a path that ends in a slash: what it
    leads to has to be a directory. -/
def steps (p : Path) : List String :=
  if names p != [] && Text.endsWith "/" p.text then names p ++ ["."] else names p

/-- The place from which a path starts, in a directory. -/
def start (directory : Location) (p : Path) : Location :=
  if p.isAbsolute then [] else directory

/-- The longest name of a file, in bytes. -/
def longestName : Nat := 255

/-- The longest path, in bytes. -/
def longestPath : Nat := 4095

/-- The number of links that a path may go through. -/
def mostLinks : Nat := 40

/-- Goes from the directory `here` along the given names. A link is handed to `onLink`, together with
    the names that remain; the last one only if `follow` holds. -/
def walkWith (d : Disk) (follow : Bool) (onLink : Location → List String → Except OsError Place) :
    Location → List String → Except OsError Place
  | here, [] => .ok (.present here ((d.find? here).getD (.directory d.now)))
  | here, name :: rest =>
    if name = "." then walkWith d follow onLink here rest
    else if name = ".." then walkWith d follow onLink here.dropLast rest
    else if longestName < name.utf8ByteSize then .error .nameTooLong
    else
      let next := here ++ [name]
      match d.find? next with
      | none => if rest = [] then .ok (.absent here name) else .error .notFound
      | some (.directory _) => walkWith d follow onLink next rest
      | some .closed => if rest = [] then .ok (.present next .closed) else .error .permissionDenied
      | some (.file f) => if rest = [] then .ok (.present next (.file f)) else .error .notADirectory
      | some (.link target) =>
        if rest = [] ∧ follow = false then .ok (.present next (.link target))
        else onLink (start here target) (steps target ++ rest)

/-- Goes from a directory along the given names, through at most `n` links. -/
def walk (d : Disk) (follow : Bool) : Nat → Location → List String → Except OsError Place
  | 0 => walkWith d follow fun _ _ => .error .tooManyLinks
  | n + 1 => walkWith d follow (walk d follow n)

/-- Checks that a path is neither empty nor too long. -/
def checkLength (p : Path) : Except OsError Unit :=
  if p.text = "" then .error .notFound
  else if longestPath < p.text.utf8ByteSize then .error .nameTooLong
  else .ok ()

/-- Where a path leads; a link at its end is followed if `follow` holds. -/
def locate (d : Disk) (p : Path) (follow : Bool) : Except OsError Place := do
  checkLength p
  walk d follow mostLinks (start d.workingDirectory p) (steps p)

/-- Where the last name of a path lies, whether it is a link or not and whether or not a slash follows
    it. -/
def locateName (d : Disk) (p : Path) : Except OsError Place := do
  checkLength p
  walk d false mostLinks (start d.workingDirectory p) (names p)

/-! ## Looking -/

/-- The place and the entry to which a path leads. -/
def resolve (d : Disk) (p : Path) : Except OsError (Location × Entry) :=
  match d.locate p true with
  | .ok (.present place e) => .ok (place, e)
  | .ok (.absent _ _) => .error .notFound
  | .error e => .error e

/-- Whether a path leads to a directory. -/
def isDirectory (d : Disk) (p : Path) : Bool :=
  match d.resolve p with
  | .ok (_, .directory _) | .ok (_, .closed) => true
  | _ => false

/-- Whether a path leads to a regular file. -/
def isFile (d : Disk) (p : Path) : Bool :=
  match d.resolve p with
  | .ok (_, .file _) => true
  | _ => false

/-- The path from the root that leads to the same place through no link. -/
def canonical (d : Disk) (p : Path) : Except IoError Path :=
  match d.resolve p with
  | .ok (place, _) => .ok ⟨"/" ++ Text.joined "/" place⟩
  | .error e => .error e

/-- The time at which an entry was changed, if it has one of its own. -/
def Entry.modified? : Entry → Option Int
  | .file f => some f.modified
  | .directory t => some t
  | .link _ | .closed => none

/-- The time of the last change, in nanoseconds since the epoch. -/
def modifiedAt (d : Disk) (p : Path) : Except IoError Int :=
  match d.resolve p with
  | .ok (_, e) => .ok ((Entry.modified? e).getD d.now)
  | .error e => .error e

/-- The latest time in milliseconds since the epoch. -/
def lastMillis : Nat := UInt64.size - 1

/-- A time in whole milliseconds since the epoch; times before the epoch count as the epoch. -/
def millisOf (nanoseconds : Int) : Nat :=
  min (nanoseconds.toNat / 1000000) lastMillis

/-- The time of the last change in milliseconds since the epoch. -/
def modifiedMillis (d : Disk) (p : Path) : Except IoError Nat :=
  (d.modifiedAt p).map millisOf

/-- The content of a file. -/
def read (d : Disk) (p : Path) : Except IoError Bytes :=
  match d.resolve p with
  | .ok (_, .file f) => .ok f.content
  | .ok (_, _) => .error OsError.isADirectory
  | .error e => .error e

/-- The content of a file that has to be text. -/
def readText (d : Disk) (p : Path) : Except IoError String := do
  match Text.decode? (← d.read p) with
  | some text => .ok text
  | none => .error .invalidText

/-- The entries of a directory, in the order of the disk. -/
def readDirectory (d : Disk) (p : Path) : Except IoError (List (String × Entry)) :=
  match d.resolve p with
  | .ok (place, .directory _) => .ok (d.entriesIn place)
  | .ok (_, .closed) => .error OsError.permissionDenied
  | .ok (_, _) => .error OsError.notADirectory
  | .error e => .error e

end Disk
end Buildwright
