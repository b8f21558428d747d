-- SUMMARY: The layout of a project: its root, and the directory of its compiled classes.
import Buildwright.Path

/-!
# Projects

A project keeps its compiled classes in a fixed directory below its root, from which the root can be
told.
-/
namespace Buildwright.Project

/-- The directory of the compiled classes, below the root of a project. -/
def classesDirectory : Path := ⟨"target/classes"⟩

/-- The root of the project with the given classes directory. A directory at another place than the
    usual one is a root itself. -/
def rootOf (classes : Path) : Path :=
  if classes.endsWith classesDirectory then
    (classes.parent?.bind Path.parent?).getD classes
  else classes

/-- The path `path` as seen from the root of a project. -/
def resolve (root path : Path) : Path :=
  if path.isAbsolute then path else root.join path

end Buildwright.Project
