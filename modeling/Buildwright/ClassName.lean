-- SUMMARY: Dotted class names and the relative paths of their sources and class files.
import Buildwright.Path

/-!
# Class names

A class name is a text with dots between its segments. `ofPath` reads it off a relative path, and
`stagingPath` and `classFilePath` give the paths at which its source is staged and its compiled form
is stored. `outputFile?` maps a source file to its compiled form by directories and extension.
-/
namespace Buildwright.ClassName

/-- The directory, with its slash, below which sources are staged. -/
def stagingRoot : String := "src/main/java/"

/-- The ending of source files. -/
def sourceSuffix : String := ".java"

/-- The ending of class files. -/
def classSuffix : String := ".class"

/-- The text with dots in place of its slashes and backslashes. -/
def dotted (path : String) : String :=
  Text.replaceChars (fun c => c == '/' || c == '\x5c') '.' path

/-- What a path names without its ending. The path of a source loses its ending and a leading staging
    directory, any other path the ending of a class file. -/
def stem (path : String) : String :=
  match Text.before? sourceSuffix path with
  | some source => Text.dropOnce stagingRoot source
  | none => (Text.before? classSuffix path).getD path

/-- The class name that belongs to a relative path. A leading `./` counts for nothing, endings are
    those of `stem`, and slashes and backslashes become dots. -/
def ofPath (path : String) : String :=
  dotted (stem (Text.dropOnce "./" path))

/-- The class name with slashes in place of its dots. -/
def slashed (name : String) : String :=
  Text.replaceChars (· == '.') '/' name

/-- The path at which the source of a class is staged. -/
def stagingPath (name : String) : String :=
  stagingRoot ++ slashed name ++ sourceSuffix

/-- The path of the class file of a class. -/
def classFilePath (name : String) : String :=
  slashed name ++ classSuffix

/-- Whether a character may begin a segment of a class name. -/
def isSegmentStart (c : Char) : Bool :=
  c.isAlpha || c == '_' || c == '$'

/-- Whether a character may stand in a segment of a class name. -/
def isSegmentChar (c : Char) : Bool :=
  c.isAlphanum || c == '_' || c == '$'

/-- Whether a text is a segment of a class name. -/
def isSegment (segment : String) : Bool :=
  match segment.toList with
  | [] => false
  | c :: cs => isSegmentStart c && cs.all isSegmentChar

/-- Whether a text is a class name: segments of ASCII letters, digits, `_` and `$`, none empty and
    none with a digit in front. -/
def isValid (name : String) : Bool :=
  name != "" && (Text.pieces '.' name).all isSegment

/-- The class file of a source file: its path relative to the sources, with the ending of class
    files in place of `extension`, below the classes. There is none for a file that is not below the
    sources, has another extension, or has nothing in front of it. -/
def outputFile? (resource sources classes : Path) (extension : String) : Option Path := do
  let relative ← resource.relativeTo? sources
  let stem ← Text.before? extension relative.text
  if stem = "" then none
  else some (classes.join ⟨stem ++ classSuffix⟩)

end Buildwright.ClassName
