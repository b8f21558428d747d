-- SUMMARY: Publishing to a directory: class files are written, and everything else is listed.
import Buildwright.Build.Publication
import Buildwright.Disk.Write
import Buildwright.Json

/-!
# Manifests

A build on the command line writes the classes that it publishes below the classes directory, and
lists what else it publishes. A class file that cannot be written is noted and does not stop the
others.
-/
namespace Buildwright.Cli

/-- What was published. -/
structure Manifest where
  written : List Path := []
  beans : List String := []
  reflectiveClasses : List String := []
  restResources : List String := []
  servletInitParams : List (String × String) := []
  watched : List Path := []
  features : List String := []
  /-- The messages about class files that could not be written. -/
  errors : List String := []

namespace Manifest

/-- Writes a class file below a directory. -/
def writeClass (classes : Path) (m : Manifest × Disk) (name : String) (content : Bytes) :
    Manifest × Disk :=
  let path := classes.join ⟨ClassName.classFilePath name⟩
  match Disk.writeWithDirectories path content m.2 with
  | .ok () d => ({ m.1 with written := m.1.written ++ [path] }, d)
  | .error e d =>
    let error := "failed to write " ++ path.text ++ ": " ++ e.message
    ({ m.1 with errors := m.1.errors ++ [error] }, d)

/-- Publishes to a directory. -/
def publish (classes : Path) (m : Manifest × Disk) : Publication → Manifest × Disk
  | .generatedClass name content _ => writeClass classes m name content
  | .generatedBean name content =>
    let (m, d) := writeClass classes m name content
    ({ m with beans := m.beans ++ [name] }, d)
  | .reflectiveClass name =>
    ({ m.1 with reflectiveClasses := m.1.reflectiveClasses ++ [name] }, m.2)
  | .restResource name => ({ m.1 with restResources := m.1.restResources ++ [name] }, m.2)
  | .servletInitParam key value =>
    ({ m.1 with servletInitParams := m.1.servletInitParams ++ [(key, value)] }, m.2)
  | .hotDeploymentWatch path => ({ m.1 with watched := m.1.watched ++ [path] }, m.2)
  | .feature name => ({ m.1 with features := m.1.features ++ [name] }, m.2)

/-- Publishes to a directory in turn. -/
def publishAll (classes : Path) (ps : List Publication) (d : Disk) : Manifest × Disk :=
  ps.foldl (publish classes) ({}, d)

/-- A manifest as a document. -/
def toJson (m : Manifest) : Json :=
  .object [
    ("written", .paths m.written),
    ("beans", .strings m.beans),
    ("reflective_classes", .strings m.reflectiveClasses),
    ("rest_resources", .strings m.restResources),
    ("servlet_init_params",
      .array (m.servletInitParams.map fun (key, value) => .strings [key, value])),
    ("watched", .paths m.watched),
    ("features", .strings m.features)]

end Manifest
end Buildwright.Cli
