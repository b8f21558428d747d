-- SUMMARY: The incremental recompiler: from changed files to the providers that compile them.
import Buildwright.Dev.Provider
import Buildwright.Text.Quoted
import Buildwright.Watch.Event

/-!
# Incremental recompilation

Changed files are evaluated one by one: a file without a provider or outside the source roots is
ignored, and any other is fresh or stale. Each provider then compiles its stale files in one run, and
a run that fails leaves the others alone.
-/
namespace Buildwright

/-- The providers by extension, in the order of the extensions. -/
structure ProviderRegistry where
  providers : SortedMap String CompilationProvider

namespace ProviderRegistry

/-- The registry without providers. -/
def empty : ProviderRegistry := ⟨.empty⟩

/-- The registry with one more provider, whose extension must be new. -/
def register (r : ProviderRegistry) (p : CompilationProvider) :
    Except RecompileError ProviderRegistry :=
  if r.providers.contains p.extension then .error (.duplicateProvider p.extension)
  else .ok ⟨r.providers.insert p.extension p⟩

/-- The provider of an extension. -/
def find? (r : ProviderRegistry) (extension : String) : Option CompilationProvider :=
  r.providers.find? extension

/-- The provider of a file. -/
def forPath? (r : ProviderRegistry) (p : Path) : Option CompilationProvider :=
  p.dottedExtension?.bind r.find?

/-- The extensions in order. -/
def extensions (r : ProviderRegistry) : List String :=
  r.providers.keys

/-- A registry in a form for developers. -/
def describe (r : ProviderRegistry) : String :=
  "ProviderRegistry \x7b extensions: " ++ Text.quotedList r.extensions ++ " \x7d"

end ProviderRegistry

/-- What the evaluation of changes has found. -/
structure Evaluation where
  states : SortedMap Path FileState
  ignored : List Path
  /-- The stale files by extension. -/
  stale : SortedMap String (SortedSet Path)

/-- One run of a provider. -/
structure ProviderRun where
  extension : String
  files : SortedSet Path
  outcome : Except RecompileError ProviderOutput

/-- What became of a group of changes. -/
structure RecompileReport where
  evaluation : Evaluation
  runs : List ProviderRun

namespace RecompileReport

/-- The state of a file. -/
def state (r : RecompileReport) (p : Path) : FileState :=
  (r.evaluation.states.find? p).getD .unknown

/-- The files written by all runs. -/
def written (r : RecompileReport) : List Path :=
  r.runs.flatMap fun run =>
    match run.outcome with
    | .ok o => o.written
    | .error _ => []

/-- The warnings of all runs. -/
def warnings (r : RecompileReport) : List Diagnostic :=
  r.runs.flatMap fun run =>
    match run.outcome with
    | .ok o => o.warnings
    | .error _ => []

/-- The failed runs, with their errors. -/
def failures (r : RecompileReport) : List (String × SortedSet Path × RecompileError) :=
  r.runs.filterMap fun run =>
    match run.outcome with
    | .ok _ => none
    | .error e => some (run.extension, run.files, e)

/-- Whether no run has failed. -/
def isSuccess (r : RecompileReport) : Bool :=
  r.failures.isEmpty

end RecompileReport

/-- The providers, the roots of the sources, and the context of the compilers. -/
structure IncrementalRecompiler where
  registry : ProviderRegistry
  sourceRoots : List Path
  context : CompileContext

namespace IncrementalRecompiler

/-! ## Evaluating changes -/

/-- The root with the most components among those given; of several, the last. -/
def deepest : List Path → Option Path
  | [] => none
  | root :: rest =>
    match deepest rest with
    | none => some root
    | some other =>
      if other.components.length < root.components.length then some root else some other

/-- The deepest source root that a file lies below. -/
def sourceRootOf (r : IncrementalRecompiler) (p : Path) : Option Path :=
  deepest (r.sourceRoots.filter p.startsWith)

/-- What the provider of a file and the root of its sources make of a change to it. -/
def evaluateWith (r : IncrementalRecompiler) (d : Disk) (acc : Evaluation) (p : Path)
    (provider : CompilationProvider) (sources : Path) : Evaluation :=
  match d.modifiedMillis p with
  | .error _ =>
    { acc with
      states := (acc.states.insert p .checked).erase p
      ignored := acc.ignored ++ [p] }
  | .ok time =>
    if provider.isStale d p sources r.context.output provider.extension time then
      { acc with
        states := (acc.states.insert p .checked).insert p .stale
        stale :=
          acc.stale.insert provider.extension
            (((acc.stale.find? provider.extension).getD .empty).add p) }
    else { acc with states := (acc.states.insert p .checked).insert p .fresh }

/-- Evaluates one more change. Deletions count for nothing. -/
def evaluateChange (r : IncrementalRecompiler) (d : Disk) (acc : Evaluation) (c : FileChange) :
    Evaluation :=
  if c.kind = .deleted then acc
  else
    match r.registry.forPath? c.path, r.sourceRootOf c.path with
    | some provider, some sources => r.evaluateWith d acc c.path provider sources
    | _, _ => { acc with ignored := acc.ignored ++ [c.path] }

/-- Evaluates changes in turn. -/
def evaluate (r : IncrementalRecompiler) (d : Disk) (changes : List FileChange) : Evaluation :=
  changes.foldl (r.evaluateChange d) ⟨.empty, [], .empty⟩

/-! ## Compiling -/

/-- Runs the provider of an extension on stale files. -/
def runProvider (r : IncrementalRecompiler) (extension : String) (files : SortedSet Path) :
    StateM Session (Option ProviderRun) := fun s =>
  match r.registry.find? extension with
  | none => (none, s)
  | some provider =>
    match provider.compile files r.context s with
    | .ok o s' => (some ⟨extension, files, .ok o⟩, s')
    | .error e s' => (some ⟨extension, files, .error e⟩, s')

/-- Runs the providers of stale files in the order of their extensions. -/
def runProviders (r : IncrementalRecompiler) :
    List (String × SortedSet Path) → StateM Session (List ProviderRun)
  | [] => pure []
  | (extension, files) :: rest => do
    let run ← r.runProvider extension files
    let others ← r.runProviders rest
    return run.toList ++ others

/-- Evaluates changes and compiles the stale files. -/
def process (r : IncrementalRecompiler) (changes : List FileChange) :
    StateM Session RecompileReport := do
  let evaluation := r.evaluate (← get).disk changes
  return ⟨evaluation, ← r.runProviders evaluation.stale.entries⟩

/-! ## Events -/

/-- The files with an extension below a source root, as changes. A root that cannot be read has
    none. -/
def changesBelow (d : Disk) (root : Path) (extension : String) : List FileChange :=
  match d.filesWithExtension root extension with
  | .ok files => files.map (⟨·, .modified⟩)
  | .error _ => []

/-- All files below the source roots that have a provider, as changes. -/
def scan (r : IncrementalRecompiler) (d : Disk) : List FileChange :=
  r.sourceRoots.flatMap fun root => r.registry.extensions.flatMap (changesBelow d root)

/-- Processes the changes of an event, or all files when changes may have gone unreported. -/
def processEvent (r : IncrementalRecompiler) : WatchEvent → StateM Session RecompileReport
  | .changes changes => r.process changes
  | .rescan => do r.process (r.scan (← get).disk)

end IncrementalRecompiler
end Buildwright
