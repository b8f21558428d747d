-- SUMMARY: The command that builds a project.
import Buildwright.Build.Pipeline
import Buildwright.Cli.Manifest
import Buildwright.Cli.Terminal

/-!
# Building

The command runs the pipeline that the configuration of the project describes, publishes to the
classes directory, and reports in words or as a document. Errors that the compiler finds give an exit
code of their own.
-/
namespace Buildwright.Cli

/-! ## The pipeline of a project -/

/-- The generator that a configuration describes. -/
def generator (g : GeneratorConfig) : Generator :=
  (AssetGenerator.make g.name g.extension g.root (passThrough g.root g.kind)).toGenerator

/-- The bootstrap source of a project. -/
def bootstrap (c : Config) (root : Path) : CommandM (Option Bootstrap) :=
  match c.build.bootstrap with
  | none => return none
  | some b => do
    let path := Project.resolve root b.sourcePath
    let source ← CommandM.orFail ("failed to read bootstrap source " ++ path.text) ioCauses
      ((← CommandM.disk).readText path)
    return some ⟨b.className, source⟩

/-- The pipeline of a project. -/
def pipeline (around : Surroundings) (c : Config) (root : Path) : CommandM BuildPipeline := do
  return {
    pool := ⟨c.build.generators.map generator, ← bootstrap c root⟩
    compiler := javaCompiler around c
    restPolicy := c.build.restPolicy
    debugDump := ⟨c.build.debugDirectory.map (Project.resolve root)⟩
    appPackage := c.build.appPackage
    dependencyInjection := c.build.dependencyInjection
    classpath := classpath c root }

/-! ## Reports -/

/-- A diagnostic as a document. -/
def diagnosticJson (d : Diagnostic) : Json :=
  .object [
    ("file", .option .string d.file),
    ("line", .option .number d.line),
    ("severity", .string d.severity.text),
    ("message", .string d.message)]

/-- A report as a document. -/
def reportJson (r : BuildReport) : Json :=
  .object [
    ("project_root", .string r.projectRoot.text),
    ("generated_files", .number r.generatedFiles),
    ("debug_files_written", .number r.debugFilesWritten),
    ("registration", .object [
      ("classes", .strings r.registration.classes),
      ("beans", .strings r.registration.beans),
      ("rest_resources", .strings r.registration.restResources)]),
    ("watched_assets", .paths r.watchedAssets),
    ("warnings", .array (r.warnings.map diagnosticJson))]

/-- A report in words. -/
def reportLines (r : BuildReport) : List String :=
  if r.isEmpty then ["build: no generated files for " ++ r.projectRoot.text]
  else
    ["build: " ++ r.projectRoot.text,
      "  generated_files: " ++ toString r.generatedFiles,
      "  classes: " ++ toString r.registration.classes.length,
      "  beans: " ++ toString r.registration.beans.length,
      "  rest_resources: " ++ toString r.registration.restResources.length,
      "  watched_assets: " ++ toString r.watchedAssets.length] ++
      r.warnings.map (·.text)

/-- Writes a report. -/
def printReport (r : BuildReport) (m : Manifest) (json : Bool) : CommandM Unit :=
  if json then
    CommandM.print (Json.object [("report", reportJson r), ("published", m.toJson)]).text
  else (reportLines r).forM CommandM.print

/-! ## The command -/

/-- The causes of a failed build. -/
def buildCauses : BuildError → Complaint
  | .generation (.unreadable p e) => [(GenerationError.unreadable p e).message, e.message]
  | e => [e.message]

/-- Publishes what the session has published to the classes directory. -/
def publishTo (classes : Path) : CommandM Manifest := fun t =>
  let (m, d) := Manifest.publishAll classes t.session.published t.session.disk
  .ok m { t with session := { t.session with disk := d } }

/-- Builds the project that a classes directory belongs to, and gives the exit code. -/
def build (around : Surroundings) (classes : Path) (json : Bool) : CommandM Nat := do
  let root := Project.rootOf classes
  let c ← loadConfig around.environment root
  let p ← pipeline around c root
  match ← CommandM.inSession (p.run classes) with
  | .error (.compilation summary) =>
    CommandM.complain summary
    return 1
  | .error e => throw (buildCauses e)
  | .ok report =>
    let m ← publishTo classes
    m.errors.forM CommandM.complain
    printReport report m json
    return if m.errors.isEmpty then 0 else 2

end Buildwright.Cli
