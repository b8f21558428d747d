-- SUMMARY: Finding and reading the configuration of a project.
import Buildwright.Config.Basic
import Buildwright.Project
import Buildwright.Toml.Document

/-!
# Loading configurations

A project has its configuration in a file at its root, unless an environment variable names another
file. A second variable says where copies of generated files go, whatever the file says.
-/
namespace Buildwright

/-- The environment variables with their values. -/
abbrev Environment := List (String × String)

/-- The ways in which a configuration cannot be loaded. -/
inductive ConfigError where
  /-- The file cannot be read. -/
  | unreadable (path : Path) (e : IoError)
  /-- The text is not a TOML document. -/
  | notToml
  /-- The document does not describe a configuration. -/
  | misfit (e : Toml.DecodeError)

/-- The wording of an error. -/
def ConfigError.message : ConfigError → String
  | unreadable path e => "failed to read config file " ++ path.text ++ ": " ++ e.message
  | notToml => "failed to parse toml config: not a TOML document"
  | misfit e => "failed to parse toml config: " ++ e.message

namespace Config

/-- The name of the file at the root of a project. -/
def fileName : Path := ⟨"kiln.toml"⟩

/-- The variable that names another file. -/
def pathVariable : String := "KILN_CONFIG_PATH"

/-- The variable that says where copies of generated files go. -/
def debugVariable : String := "KILN_DEBUG_GENERATED_CLASSES_DIR"

/-- The configuration in a text. -/
def ofText (text : String) : Except ConfigError Config :=
  match Toml.parse? text with
  | none => .error .notToml
  | some entries => (ofTable entries).mapError .misfit

/-- The configuration in a file. -/
def load (d : Disk) (path : Path) : Except ConfigError Config :=
  match d.readText path with
  | .error e => .error (.unreadable path e)
  | .ok text => ofText text

/-- The file with the configuration of the project at a root, if there is one. -/
def discover (env : Environment) (d : Disk) (root : Path) : Option Path :=
  match env.lookup pathVariable with
  | some named => some (Project.resolve root ⟨named⟩)
  | none => some (root.join fileName) |>.filter d.isFile

/-- The configuration as the environment changes it. -/
def override (env : Environment) (c : Config) : Config :=
  match env.lookup debugVariable with
  | none | some "" => c
  | some directory => { c with build := { c.build with debugDirectory := some ⟨directory⟩ } }

/-- The configuration of the project at a root, and the file that it was read from. -/
def loadForProject (env : Environment) (d : Disk) (root : Path) :
    Except ConfigError (Config × Option Path) :=
  match discover env d root with
  | none => .ok (override env {}, none)
  | some path => (load d path).map fun c => (override env c, some path)

end Config
end Buildwright
