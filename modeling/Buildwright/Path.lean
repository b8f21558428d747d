-- SUMMARY: Paths: a text with a view as a list of components, and the operations that keep its spelling.
import Buildwright.Text.Pieces

/-!
# Paths

A path is a text. Its meaning is the list of its components: an absolute path begins with the root,
empty pieces and pieces `.` count for nothing except for a leading `.`, and `..` is a component that
is never resolved. Order and comparison go by components, so `a//b` and `a/b` compare equal, while
the text keeps the spelling it was given.
-/
namespace Buildwright

/-- A path as it is spelled. -/
structure Path where
  text : String
  deriving DecidableEq, Inhabited, Repr

instance : Coe String Path := ⟨Path.mk⟩

namespace Path

/-! ## Components -/

/-- One step of a path. -/
inductive Component where
  | root
  | current
  | parent
  | named (name : String)
  deriving DecidableEq, Repr

namespace Component

/-- A component as it is written. -/
def text : Component → String
  | root => "/"
  | current => "."
  | parent => ".."
  | named name => name

/-- The name of a component that is one. -/
def name? : Component → Option String
  | named name => some name
  | _ => none

/-- The place of a component's kind in the order of components. -/
def rank : Component → Nat
  | root => 0
  | current => 1
  | parent => 2
  | named _ => 3

/-- Components are ordered by kind, and names among themselves by their characters. -/
instance : Ord Component where
  compare := compareLex (compareOn rank) (compareOn text)

instance : Std.TransOrd Component :=
  inferInstanceAs (Std.TransCmp (compareLex (compareOn rank) (compareOn text)))

/-- The component that a piece of a path stands for, when it is not the first piece. -/
def ofPiece? (piece : String) : Option Component :=
  if piece = "" ∨ piece = "." then none
  else if piece = ".." then some parent
  else some (named piece)

end Component

/-- Whether a piece counts for nothing. -/
def idle (piece : String) : Bool :=
  piece = "" || piece = "."

/-- The pieces of a path between slashes, taken apart into the head, which is `/` for an absolute
    path and `.` for one that begins with that piece, and the pieces of the text behind the head. -/
def anatomy (p : Path) : String × List String :=
  match Text.pieces '/' p.text with
  | "" :: next :: rest => ("/", next :: rest)
  | ["."] => (".", [])
  | "." :: rest => (".", "" :: rest)
  | pieces => ("", pieces)

/-- The component that the head of a path stands for. -/
def headComponents (head : String) : List Component :=
  if head = "/" then [.root] else if head = "." then [.current] else []

/-- The components of a path. -/
def components (p : Path) : List Component :=
  headComponents p.anatomy.1 ++ p.anatomy.2.filterMap Component.ofPiece?

/-- The names among the components. -/
def names (p : Path) : List String :=
  p.components.filterMap Component.name?

/-- The texts of the components with slashes between them. -/
def slashed (p : Path) : String :=
  Text.joined "/" (p.components.map Component.text)

/-- Paths are ordered by their components. -/
instance : Ord Path where
  compare p q := List.compareLex compare p.components q.components

instance : Std.TransOrd Path :=
  letI : Ord (List Component) := ⟨List.compareLex compare⟩
  inferInstanceAs (Std.TransCmp (compareOn components))

/-- Whether two paths have the same components. -/
def same (p q : Path) : Bool :=
  p.components = q.components

/-- Whether a path begins at the root. -/
def isAbsolute (p : Path) : Bool :=
  Text.beginsWith "/" p.text

/-! ## Joining -/

/-- The path `q` below the path `p`; an absolute `q` stands for itself. -/
def join (p q : Path) : Path :=
  if q.isAbsolute then q
  else if p.text = "" ∨ Text.endsWith "/" p.text then ⟨p.text ++ q.text⟩
  else ⟨p.text ++ "/" ++ q.text⟩

instance : HDiv Path Path Path := ⟨join⟩

/-! ## Leading and trailing components -/

/-- The pieces up to the last that counts. -/
def upToLast (pieces : List String) : List String :=
  (pieces.reverse.dropWhile idle).reverse

/-- The pieces behind the first `n` that count, from the next that counts. -/
def behind : Nat → List String → List String
  | 0, pieces => pieces.dropWhile idle
  | n + 1, pieces =>
    match pieces.dropWhile idle with
    | [] => []
    | _ :: rest => behind n rest

/-- The path with a given head and given pieces behind it. -/
def assemble (head : String) (pieces : List String) : Path :=
  ⟨head ++ Text.joined "/" pieces⟩

/-- The path without its last component, spelled as the beginning of the path. -/
def parent? (p : Path) : Option Path :=
  let (head, body) := p.anatomy
  match upToLast body with
  | [] => if head = "." then some ⟨""⟩ else none
  | kept => some (assemble head (upToLast kept.dropLast))

/-- Whether the components of `base` begin those of `p`. -/
def startsWith (p base : Path) : Bool :=
  base.components.isPrefixOf p.components

/-- Whether the components of `ending` end those of `p`. -/
def endsWith (p ending : Path) : Bool :=
  ending.components.isSuffixOf p.components

/-- The rest of `p` behind the components of `base`, when they begin those of `p`. -/
def relativeTo? (p base : Path) : Option Path :=
  if p.startsWith base then
    let (head, body) := p.anatomy
    match base.components.length with
    | 0 => some (assemble head (upToLast body))
    | n + 1 =>
      let dropped := if head = "" then n + 1 else n
      some (assemble "" (upToLast (behind dropped body)))
  else none

/-- The last component, when it is a name. -/
def fileName? (p : Path) : Option String :=
  p.components.getLast?.bind Component.name?

/-! ## Extensions -/

/-- A name in front of its last dot and behind it. A dot that begins the name does not count. -/
def splitName (name : String) : String × Option String :=
  match Text.cutLast? '.' name.toList with
  | some (c :: cs, extension) => (String.ofList (c :: cs), some (String.ofList extension))
  | _ => (name, none)

/-- The file name in front of its extension. -/
def fileStem? (p : Path) : Option String :=
  p.fileName?.map fun name => (splitName name).1

/-- The extension of the file name, without a dot. -/
def extension? (p : Path) : Option String :=
  p.fileName?.bind fun name => (splitName name).2

/-- The extension of the file name, with its dot. -/
def dottedExtension? (p : Path) : Option String :=
  p.extension?.map ("." ++ ·)

/-- The path with `extension` in place of the extension of its file name; an empty one leaves no
    dot. A path without file name stays as it is. -/
def withExtension (p : Path) (extension : String) : Path :=
  match p.fileStem? with
  | none => p
  | some stem =>
    let (head, body) := p.anatomy
    let name := if extension = "" then stem else stem ++ "." ++ extension
    assemble head ((upToLast body).dropLast ++ [name])

end Path
end Buildwright
