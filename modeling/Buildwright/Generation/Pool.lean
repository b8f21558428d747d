-- SUMMARY: The generator pool, the batch of files it accepts, and the staging of its sources.
import Buildwright.Generation.Generator
import Buildwright.Store
import Buildwright.Text.Quoted

/-!
# The generator pool

A pool runs its generators in turn and accepts their files one by one. A file is refused when its
class has the reserved name, or when a file before it has the same slot. The accepted files form a
batch, to which the bootstrap source is added unless it is empty.
-/
namespace Buildwright

/-- Generators in the order of their registration, and the bootstrap source. -/
structure GeneratorPool where
  generators : List Generator
  bootstrap : Option Bootstrap

/-- The files of one run of a pool, and the reserved name when the bootstrap source is among them. -/
structure Batch where
  files : List GeneratedFile
  bootstrapClass : Option String
  deriving DecidableEq

/-- Sources in a store, and their names in the order of the batch. -/
structure StagedSources where
  store : Store
  names : List String

namespace Batch

/-- The sources of a batch. -/
def sources (b : Batch) : List GeneratedFile :=
  b.files.filter (·.isSource)

/-- Stages the sources of a batch. -/
def stage (b : Batch) : StagedSources where
  store := Store.ofList (b.sources.map fun f => (f.stagingPath, f.content))
  names := b.sources.map (·.stagingPath)

/-- The batch of the given files, with the bootstrap source behind them unless there are none. -/
def ofFiles (bootstrap : Option Bootstrap) (files : List GeneratedFile) : Batch :=
  match bootstrap with
  | some b => if files = [] then ⟨[], none⟩ else ⟨files ++ [b.file], some b.className⟩
  | none => ⟨files, none⟩

end Batch

namespace GeneratorPool

/-- Accepts a file behind the files that have been accepted, unless its class has the reserved name
    or its slot is taken. -/
def accept (reserved : Option String) (files : List GeneratedFile) (f : GeneratedFile) :
    Except GenerationError (List GeneratedFile) :=
  if f.isSource = true ∧ reserved = some f.className then .error (.reservedName f.className)
  else if f.slot ∈ files.map (·.slot) then .error (.duplicatePath f.path)
  else .ok (files ++ [f])

/-- Runs a generator and accepts its files behind those of the generators before it. -/
def runGenerator (reserved : Option String) (ctx : GenerationContext) (d : Disk)
    (files : List GeneratedFile) (g : Generator) : Except GenerationError (List GeneratedFile) := do
  (← g.generate ctx d).foldlM (accept reserved) files

/-- Fails for a bootstrap source whose class has no class name. -/
def checkBootstrap : Option Bootstrap → Except GenerationError Unit
  | some b => if ClassName.isValid b.className then .ok () else .error (.invalidClassName b.className)
  | none => .ok ()

/-- Runs all generators. -/
def generate (pool : GeneratorPool) (ctx : GenerationContext) (d : Disk) :
    Except GenerationError Batch := do
  checkBootstrap pool.bootstrap
  let reserved := pool.bootstrap.map (·.className)
  let files ← pool.generators.foldlM (runGenerator reserved ctx d) []
  .ok (Batch.ofFiles pool.bootstrap files)

/-- The files that any of the generators wants to be watched, each once and in the order of their
    paths. -/
def watchedAssets (pool : GeneratorPool) (ctx : GenerationContext) (d : Disk) :
    Except GenerationError (List Path) := do
  let found ← pool.generators.mapM fun g => g.watchedAssets ctx d
  .ok (SortedMap.setOf found.flatten).keys

/-- A pool in a form for developers. -/
def describe (pool : GeneratorPool) : String :=
  let bootstrap :=
    match pool.bootstrap with
    | some b => "Some(" ++ Text.quoted b.className ++ ")"
    | none => "None"
  "GeneratorPool \x7b generators: " ++ Text.quotedList (pool.generators.map (·.name)) ++
    ", bootstrap: " ++ bootstrap ++ " \x7d"

end GeneratorPool
end Buildwright
