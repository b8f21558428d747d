-- SUMMARY: The configuration of a project and its form in a TOML document.
import Buildwright.Build.Publication
import Buildwright.Dev.Staleness
import Buildwright.Generation.Generator
import Buildwright.Toml.Decode

/-!
# Configurations

A configuration has a section for logging, one for builds and one for the development loop. What a
document does not mention keeps its standard value; what no section knows is an error.
-/
namespace Buildwright

/-! ## Sections -/

/-- How the program reports what it does. -/
structure LoggingConfig where
  level : String := "info"
  json : Bool := false
  stderr : Bool := true
  deriving DecidableEq

/-- A source that is added to what generators produce. -/
structure BootstrapConfig where
  className : String
  sourcePath : Path
  deriving DecidableEq

/-- A generator that passes assets through as files. -/
structure GeneratorConfig where
  name : String
  extension : String
  root : Path := AssetGenerator.defaultRoot
  kind : FileKind := .generic
  deriving DecidableEq

/-- What is built, and how. -/
structure BuildConfig where
  appPackage : String := defaultAppPackage
  dependencyInjection : Bool := true
  debugDirectory : Option Path := none
  restPolicy : RestPolicy := .jaxRsResource
  bootstrap : Option BootstrapConfig := none
  generators : List GeneratorConfig := []
  classpath : List Path := []
  javac : Path := ⟨"javac"⟩
  deriving DecidableEq

/-- How the development loop works. -/
structure DevConfig where
  stalenessPolicy : StalenessPolicy := .standard
  javaRelease : Option String := none
  sourceRoots : List Path := [⟨"src/main/java"⟩, ⟨"src/main/resources"⟩]
  deriving DecidableEq

/-- The configuration of a project. -/
structure Config where
  logging : LoggingConfig := {}
  build : BuildConfig := {}
  dev : DevConfig := {}
  deriving DecidableEq

/-! ## The document

What a section says nothing about is what its record starts with, and a section that is missing is the
standard one. -/

open Toml

namespace Config

/-- Reads a text. -/
def text : Decoder String := .text "a string"

/-- Reads a path. -/
def path : Decoder Path := fun v => (Decoder.text "path string" v).map Path.mk

/-- The section on logging. -/
def loggingRecord : RecordType LoggingConfig where
  name := "LoggingConfig"
  start := { level := "info", json := false, stderr := true }
  fields := [
    .optional "level" text fun x c => { c with level := x },
    .optional "json" .boolean fun x c => { c with json := x },
    .optional "stderr" .boolean fun x c => { c with stderr := x }]

/-- The source that is added to what generators produce. -/
def bootstrapRecord : RecordType BootstrapConfig where
  name := "BootstrapConfig"
  start := ⟨"", ⟨""⟩⟩
  fields := [
    .mandatory "class_name" text fun x c => { c with className := x },
    .mandatory "source_path" path fun x c => { c with sourcePath := x }]

/-- A generator. -/
def generatorRecord : RecordType GeneratorConfig where
  name := "GeneratorConfig"
  start := { name := "", extension := "", root := AssetGenerator.defaultRoot, kind := .generic }
  fields := [
    .mandatory "name" text fun x c => { c with name := x },
    .mandatory "extension" text fun x c => { c with extension := x },
    .optional "root" path fun x c => { c with root := x },
    .optional "kind" (.choice FileKind.named) fun x c => { c with kind := x }]

/-- The section on builds. -/
def buildRecord : RecordType BuildConfig where
  name := "BuildConfig"
  start := {
    appPackage := defaultAppPackage
    dependencyInjection := true
    debugDirectory := none
    restPolicy := .jaxRsResource
    bootstrap := none
    generators := []
    classpath := []
    javac := ⟨"javac"⟩ }
  fields := [
    .optional "app_package" text fun x c => { c with appPackage := x },
    .optional "dependency_injection" .boolean fun x c => { c with dependencyInjection := x },
    .optional "debug_generated_classes_dir" path.present fun x c => { c with debugDirectory := x },
    .optional "rest_policy" (.choice RestPolicy.named) fun x c => { c with restPolicy := x },
    .optional "bootstrap" bootstrapRecord.decoder.present fun x c => { c with bootstrap := x },
    .optional "generators" (.list generatorRecord.decoder) fun x c => { c with generators := x },
    .optional "classpath" (.list path) fun x c => { c with classpath := x },
    .optional "javac" path fun x c => { c with javac := x }]

/-- The section on the development loop. -/
def devRecord : RecordType DevConfig where
  name := "DevModeConfig"
  start := {
    stalenessPolicy := .standard
    javaRelease := none
    sourceRoots := [⟨"src/main/java"⟩, ⟨"src/main/resources"⟩] }
  fields := [
    .optional "staleness_fail_mode" (.choice StalenessPolicy.named) fun x c =>
      { c with stalenessPolicy := x },
    .optional "java_release" text.present fun x c => { c with javaRelease := x },
    .optional "source_roots" (.list path) fun x c => { c with sourceRoots := x }]

/-- The whole document. -/
def record : RecordType Config where
  name := "KilnConfig"
  start := {}
  fields := [
    .optional "logging" loggingRecord.decoder fun x c => { c with logging := x },
    .optional "build" buildRecord.decoder fun x c => { c with build := x },
    .optional "devmode" devRecord.decoder fun x c => { c with dev := x }]

/-- The configuration that a document describes. -/
def ofTable (entries : Table) : Except DecodeError Config :=
  record.ofEntries entries

end Config
end Buildwright
