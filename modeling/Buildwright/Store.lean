-- SUMMARY: The memory store: named byte sequences in the order of their names, and its passage to and from the disk.
import Buildwright.Disk.Scan
import Buildwright.Disk.Write

/-!
# The memory store

A store maps names to contents. Staged sources and compiler output live in stores, and `writeTo` and
`loadFrom` take them to the disk and back. Names are relative paths with slashes, but nothing in the
store itself depends on that.
-/
namespace Buildwright

/-- Contents by name, in the order of the names. -/
structure Store where
  files : SortedMap String Bytes
  deriving DecidableEq, Inhabited

/-- The way in which reading from a store fails. -/
inductive StoreError where
  | missing (name : String)
  deriving DecidableEq, Repr

/-- The wording of a failure. -/
def StoreError.message : StoreError → String
  | missing name => "no such file in memory store: " ++ name

namespace Store

/-- The store without contents. -/
def empty : Store := ⟨.empty⟩

/-- The store with `content` under a name, in place of what was there. -/
def write (s : Store) (name : String) (content : Bytes) : Store :=
  ⟨s.files.insert name content⟩

/-- The content under a name. -/
def read (s : Store) (name : String) : Except StoreError Bytes :=
  match s.files.find? name with
  | some content => .ok content
  | none => .error (.missing name)

/-- Whether there is a content under a name. -/
def contains (s : Store) (name : String) : Bool :=
  s.files.contains name

/-- The names in order. -/
def names (s : Store) : List String :=
  s.files.keys

/-- The names with their contents, in the order of the names. -/
def entries (s : Store) : List (String × Bytes) :=
  s.files.entries

/-- The number of names. -/
def size (s : Store) : Nat :=
  s.files.size

/-- Whether the store has no contents. -/
def isEmpty (s : Store) : Bool :=
  s.files.isEmpty

/-- The number of bytes of all contents. -/
def byteCount (s : Store) : Nat :=
  s.entries.foldl (fun n e => n + e.2.size) 0

/-- The store that arises from writing the given contents in turn. -/
def ofList (es : List (String × Bytes)) : Store :=
  es.foldl (fun s e => s.write e.1 e.2) empty

/-- A written content can be read, and other names are as before. -/
theorem read_write (s : Store) (name name' : String) (content : Bytes) :
    (s.write name content).read name' = if name' = name then .ok content else s.read name' := by
  simp only [read, write, SortedMap.find?_insert, Std.LawfulEqOrd.compare_eq_iff_eq]
  by_cases h : name' = name <;> simp [h]

/-! ## On the disk -/

/-- Writes every content to the path of its name below a directory, in the order of the names. -/
def writeTo (s : Store) (root : Path) : DiskM Unit :=
  s.entries.forM fun (name, content) => Disk.writeWithDirectories (root.join ⟨name⟩) content

/-- The store with the content of a file under its path from `root`. -/
def writeFile (d : Disk) (root : Path) (s : Store) (file : Path) : Except IoError Store :=
  match file.relativeTo? root with
  | none => .ok s
  | some relative => (d.read file).map (s.write relative.slashed)

/-- The store of the files with a given extension below a directory, each under its path from
    there. -/
def loadFrom (d : Disk) (root : Path) (extension : String) : Except IoError Store := do
  (← d.filesWithExtension root extension).foldlM (writeFile d root) empty

end Store
end Buildwright
