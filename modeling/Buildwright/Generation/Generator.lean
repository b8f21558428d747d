-- SUMMARY: Generators, what they know of the project, and the generator that transforms assets.
import Buildwright.Disk.Scan
import Buildwright.Generation.File

/-!
# Generators

A generator produces files from what lies on the disk, and names the files to be watched. The asset
generator finds the assets with an extension below a directory and hands them to a transform.
-/
namespace Buildwright

/-- What a generator knows of the project. -/
structure GenerationContext where
  projectRoot : Path
  appPackage : String
  dependencyInjection : Bool
  deriving DecidableEq

/-- The package of an application that does not choose one. -/
def defaultAppPackage : String := "org.kie"

namespace GenerationContext

/-- The context of a project that chooses nothing. -/
def ofRoot (root : Path) : GenerationContext := ⟨root, defaultAppPackage, true⟩

/-- The path of a class that the project may bring itself. -/
def customClassPath (ctx : GenerationContext) (className : String) : Path :=
  ((ctx.projectRoot.join ⟨"src/main/java"⟩).join ⟨ClassName.classFilePath className⟩).withExtension
    "java"

/-- The class name, if the project brings a class of this name. -/
def customClass? (ctx : GenerationContext) (d : Disk) (className : String) : Option String :=
  if d.isFile (ctx.customClassPath className) then some className else none

end GenerationContext

/-- A source of generated files. -/
structure Generator where
  name : String
  generate : GenerationContext → Disk → Except GenerationError (List GeneratedFile)
  watchedAssets : GenerationContext → Disk → Except GenerationError (List Path)

/-- A way to turn assets into files. -/
abbrev AssetTransform :=
  GenerationContext → List Path → Disk → Except GenerationError (List GeneratedFile)

/-! ## The asset generator -/

/-- A generator that transforms the files with an extension below a directory of the project. -/
structure AssetGenerator where
  name : String
  extension : String
  root : Path
  transform : AssetTransform

namespace AssetGenerator

/-- The directory of the assets in a project that does not choose one. -/
def defaultRoot : Path := ⟨"src/main"⟩

/-- The asset generator for an extension, whose leading dots do not count. -/
def make (name extension : String) (root : Path) (transform : AssetTransform) : AssetGenerator :=
  { name, extension := Text.dropLeading '.' extension, root, transform }

/-- The assets of a project, in the order of their paths. -/
def discover (g : AssetGenerator) (ctx : GenerationContext) (d : Disk) :
    Except GenerationError (List Path) :=
  let root := ctx.projectRoot.join g.root
  match d.filesWithExtension root g.extension with
  | .ok assets => .ok assets
  | .error e => .error (.unreadable root e)

/-- The asset generator as a generator: it watches the assets that it finds, and does not call its
    transform when it finds none. -/
def toGenerator (g : AssetGenerator) : Generator where
  name := g.name
  generate ctx d := do
    let assets ← g.discover ctx d
    if assets = [] then .ok [] else g.transform ctx assets d
  watchedAssets := g.discover

end AssetGenerator

/-! ## Assets as they are -/

/-- The path of the file that an asset becomes: its path from a directory of the project, or its mere
    name when it is not below that directory. -/
def passedPath (root : Path) (ctx : GenerationContext) (asset : Path) : String :=
  match asset.relativeTo? (ctx.projectRoot.join root) with
  | some relative => relative.slashed
  | none =>
    match asset.fileName? with
    | some name => (Path.mk name).slashed
    | none => asset.slashed

/-- The transform that makes one file of each asset, with the content of the asset. -/
def passThrough (root : Path) (kind : FileKind) : AssetTransform := fun ctx assets d =>
  assets.mapM fun asset =>
    match d.read asset with
    | .ok content => .ok { kind, path := passedPath root ctx asset, content }
    | .error e => .error (.unreadable asset e)

end Buildwright
