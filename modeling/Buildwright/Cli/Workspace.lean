-- SUMMARY: A workspace on which commands are carried out, and the document that describes one.
import Buildwright.Disk.Write
import Buildwright.Cli.Watch
import Buildwright.Toml.Document

/-!
# Workspaces

A workspace holds files, programs, environment variables, and the moves that are made while a project
is watched. It is described by a TOML document such as

    directories = ["p/target/classes"]
    moves = [["stage/B.java", "p/src/main/java/B.java"]]

    [files]
    "p/src/main/java/A.java" = "class A"

    [programs]
    "bin/javac" = "#!/bin/sh"

    [environment]
    KILN_CONFIG_PATH = "kiln.toml"
-/
namespace Buildwright.Cli

/-- What a workspace holds. -/
structure Workspace where
  files : List (String × String) := []
  programs : List (String × String) := []
  directories : List Path := []
  environment : Environment := []
  moves : List Move := []

namespace Workspace

open Toml

/-! ## The document -/

/-- Reads a table of texts. -/
def texts : Decoder (List (String × String))
  | .table entries => entries.mapM fun (key, v) => do return (key, ← Decoder.text "a text" v)
  | v => .error (.wrongType v "a table")

/-- Reads a move: a list of two paths. -/
def move : Decoder Move := fun v => do
  match ← Decoder.list Config.path v with
  | [source, target] => .ok ⟨source, target⟩
  | paths => .error (.tooShort paths.length "two paths")

/-- A workspace as a record. -/
def record : RecordType Workspace where
  name := "Workspace"
  start := {}
  fields := [
    .optional "files" texts fun x w => { w with files := x },
    .optional "programs" texts fun x w => { w with programs := x },
    .optional "directories" (.list Config.path) fun x w => { w with directories := x },
    .optional "environment" texts fun x w => { w with environment := x },
    .optional "moves" (.list move) fun x w => { w with moves := x }]

/-- The workspace that a text describes. -/
def ofText (text : String) : Except ConfigError Workspace :=
  match parse? text with
  | none => .error .notToml
  | some entries => (record.ofEntries entries).mapError .misfit

/-! ## The disk -/

/-- The directory in which commands are carried out. -/
def home : Location := ["work"]

/-- The time at which a workspace comes to be. -/
def creation : Int := 1000000000 * 1000000000

/-- A disk with nothing but directories that programs expect. -/
def bareDisk : Disk where
  entries := [home, ["tmp"]].map (·, .directory creation)
  workingDirectory := home
  now := creation

/-- The disk with a file; one that is not possible is left out. -/
def addFile (d : Disk) (e : String × String) : Disk :=
  match Disk.writeWithDirectories ⟨e.1⟩ (Text.encode e.2) d with
  | .ok () d => d
  | .error _ d => d

/-- The disk with a program. -/
def addProgram (d : Disk) (e : String × String) : Disk :=
  (addFile d e).setExecutable ⟨e.1⟩

/-- The disk with a directory. -/
def addDirectory (d : Disk) (p : Path) : Disk :=
  match Disk.createDirectories p d with
  | .ok () d => d
  | .error _ d => d

/-- The disk of a workspace. -/
def disk (w : Workspace) : Disk :=
  let d := w.directories.foldl addDirectory bareDisk
  w.programs.foldl addProgram (w.files.foldl addFile d)

end Workspace
end Buildwright.Cli
