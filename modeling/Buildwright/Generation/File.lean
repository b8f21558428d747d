-- SUMMARY: Generated files, the bootstrap source, and the errors of generation.
import Buildwright.ClassName
import Buildwright.Disk.Error
import Buildwright.Text.Utf8

/-!
# Generated files

A generated file has a relative path and a content. A file with the ending of sources is compiled,
and its path determines its class. A bootstrap source is added to what generators produce, under a
class name that is reserved for it.
-/
namespace Buildwright

/-- What a generated file is for. -/
inductive FileKind where
  | generic
  /-- A source of a class that serves REST requests. -/
  | rest
  deriving DecidableEq, Repr

/-- The kinds of files with their names. -/
def FileKind.named : List (String × FileKind) :=
  [("generic", generic), ("rest", rest)]

/-- A file that a generator produces. -/
structure GeneratedFile where
  kind : FileKind
  path : String
  content : Bytes
  deriving DecidableEq

namespace GeneratedFile

/-- Whether a file is a source. -/
def isSource (f : GeneratedFile) : Bool :=
  Text.endsWith ClassName.sourceSuffix f.path

/-- The class that belongs to the path of a file. -/
def className (f : GeneratedFile) : String :=
  ClassName.ofPath f.path

/-- The path at which the class of a file is staged. -/
def stagingPath (f : GeneratedFile) : String :=
  ClassName.stagingPath f.className

/-- The path of a file without one leading `./`. -/
def bareTarget (f : GeneratedFile) : String :=
  Text.dropOnce "./" f.path

/-- A path without any of the `./` at its beginning. -/
def dropCurrent : List Char → List Char
  | '.' :: '/' :: rest => dropCurrent rest
  | path => path

/-- What a file must not share with another file of its batch: the staging path of a source, and the
    path of any other file without leading `./`. -/
def slot (f : GeneratedFile) : String :=
  if f.isSource then f.stagingPath else String.ofList (dropCurrent f.path.toList)

end GeneratedFile

/-- A source that is added to every batch that is not empty. -/
structure Bootstrap where
  className : String
  source : String
  deriving DecidableEq

/-- The file of a bootstrap source. -/
def Bootstrap.file (b : Bootstrap) : GeneratedFile :=
  { kind := .generic
    path := ClassName.slashed b.className ++ ClassName.sourceSuffix
    content := Text.encode b.source }

/-- The ways in which generation fails. -/
inductive GenerationError where
  /-- An asset cannot be read. -/
  | unreadable (path : Path) (cause : IoError)
  /-- A generator fails in its own words. -/
  | generator (name message : String)
  /-- Two files of a batch have one slot. -/
  | duplicatePath (path : String)
  /-- A generated class has the reserved name. -/
  | reservedName (name : String)
  /-- The reserved name is no class name. -/
  | invalidClassName (name : String)
  deriving DecidableEq, Repr

/-- The wording of a failure. -/
def GenerationError.message : GenerationError → String
  | unreadable path cause => "failed to read asset " ++ path.text ++ ": " ++ cause.message
  | generator name message => "generator `" ++ name ++ "` failed: " ++ message
  | duplicatePath path =>
    "generated file `" ++ path ++ "` is produced more than once in a single batch"
  | reservedName name =>
    "generated class `" ++ name ++ "` collides with the reserved bootstrap class"
  | invalidClassName name => "`" ++ name ++ "` is not a valid dotted class name"

end Buildwright
