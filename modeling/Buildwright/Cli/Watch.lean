-- SUMMARY: The command that watches a project and recompiles changed files.
import Buildwright.Cli.Terminal
import Buildwright.Dev.Recompiler

/-!
# Watching

The command watches the source roots of a project that are there when it starts. Files that move into
or out of one of them are events, which it processes one after the other.
-/
namespace Buildwright.Cli

/-! ## The recompiler of a project -/

/-- Whether a generator has changed files turned into sources: those for plain sources have not, for
    the Java provider compiles these. -/
def isIncremental (g : GeneratorConfig) : Bool :=
  CodegenProvider.dotted g.extension != ClassName.sourceSuffix

/-- The provider that a generator of a project stands for. -/
def codegenProvider (c : Config) (root : Path) (java : JavaProvider) (g : GeneratorConfig) :
    CompilationProvider :=
  CodegenProvider.toProvider
    { extension := g.extension
      transform := passThrough g.root g.kind
      appPackage := c.build.appPackage
      projectRoot := some root
      policy := c.dev.stalenessPolicy
      java }

/-- The providers of a project. -/
def registry (around : Surroundings) (c : Config) (root : Path) :
    Except RecompileError ProviderRegistry :=
  let java : JavaProvider := ⟨javaCompiler around c, c.dev.stalenessPolicy⟩
  let others := (c.build.generators.filter isIncremental).map (codegenProvider c root java)
  (java.toProvider :: others).foldlM ProviderRegistry.register .empty

/-- The recompiler of a project. -/
def recompiler (around : Surroundings) (c : Config) (root : Path) :
    Except RecompileError IncrementalRecompiler := do
  return {
    registry := ← registry around c root
    sourceRoots := c.dev.sourceRoots.map (Project.resolve root)
    context := CompileContext.make (root.join Project.classesDirectory) (classpath c root) }

/-! ## Events -/

/-- The moving of a file or a directory while a project is watched. -/
structure Move where
  source : Path
  target : Path

/-- A directory that is watched: its path, and the place where it lies. -/
abbrev WatchedRoot := Path × Location

/-- The source roots that are directories. -/
def watchedRoots (d : Disk) (roots : List Path) : List WatchedRoot :=
  roots.filterMap fun root =>
    match d.resolve root with
    | .ok (place, .directory _) => some (root, place)
    | _ => none

/-- The place that a path names, whether or not something lies there. -/
def placeOf (d : Disk) (p : Path) : Option Location :=
  match d.locate p false with
  | .ok (.present place _) => some place
  | .ok (.absent directory name) => some (directory ++ [name])
  | .error _ => none

/-- The path below a watched root that leads to a place. -/
def pathBelow? (place : Location) (root : WatchedRoot) : Option Path :=
  match root.2.isPrefixOf? place with
  | some (name :: rest) => some (root.1.join ⟨Text.joined "/" (name :: rest)⟩)
  | _ => none

/-- The path below a watched root at which a path is seen. Of several roots the last one counts. -/
def seenPath? (d : Disk) (roots : List WatchedRoot) (p : Path) : Option Path :=
  (placeOf d p).bind fun place => roots.reverse.findSome? (pathBelow? place)

/-- Files that have changed. -/
def modified (ps : List Path) : WatchEvent :=
  .changes (ps.map (⟨·, .modified⟩))

/-- The events that a move makes: what leaves a watched root is an event, and so is what comes into
    one. A move from a watched place to another is both, and then an event of the two paths. -/
def eventsOf (d : Disk) (roots : List WatchedRoot) (m : Move) : List WatchEvent :=
  match seenPath? d roots m.source, seenPath? d roots m.target with
  | some source, some target => [modified [source], modified [target], modified [source, target]]
  | some p, none | none, some p => [modified [p]]
  | none, none => []

/-- The disk after a move, and the events that it makes. What is not there does not move. -/
def afterMove (d : Disk) (roots : List WatchedRoot) (m : Move) : Disk × List WatchEvent :=
  match d.rename m.source m.target with
  | .ok d' => (d', eventsOf d roots m)
  | .error _ => (d, [])

/-! ## The command -/

/-- Writes what became of an event. -/
def printRecompile (r : RecompileReport) : CommandM Unit := do
  r.failures.forM fun (extension, files, e) =>
    CommandM.complain
      (extension ++ " (" ++ Text.joined ", " (files.keys.map (·.text)) ++ "): " ++ e.message)
  let recompiled := r.evaluation.stale.values.foldl (fun n files => n + files.size) 0
  if 0 < recompiled then
    CommandM.print
      ("recompiled " ++ toString recompiled ++ " file(s), wrote " ++ toString r.written.length ++
        " class file(s)")
  r.warnings.forM fun d => CommandM.print d.text

/-- Processes an event and writes what became of it. -/
def processAndPrint (r : IncrementalRecompiler) (e : WatchEvent) : CommandM Unit := do
  let report ← fun t =>
    let (report, s) := (r.processEvent e).run t.session
    EStateM.Result.ok report { t with session := s }
  printRecompile report

/-- Makes moves and processes the events that they make, as many of them as are wanted. -/
def processMoves (r : IncrementalRecompiler) (roots : List WatchedRoot) :
    Option Nat → List Move → CommandM Unit
  | _, [] => pure ()
  | wanted, m :: rest => do
    let (d, events) := afterMove (← CommandM.disk) roots m
    CommandM.setDisk d
    let taken := events.take (wanted.getD events.length)
    taken.forM (processAndPrint r)
    processMoves r roots (wanted.map (· - taken.length)) rest

/-- Watches a project while files move, and gives the exit code. -/
def watch (around : Surroundings) (project : Path) (mostEvents : Option Nat) (moves : List Move) :
    CommandM Nat := do
  let root ← CommandM.orFail ("failed to resolve " ++ project.text) ioCauses
    ((← CommandM.disk).canonical project)
  let c ← loadConfig around.environment root
  match recompiler around c root with
  | .error e => throw [e.message]
  | .ok r =>
    let roots := watchedRoots (← CommandM.disk) r.sourceRoots
    CommandM.print ("watching " ++ root.text)
    processMoves r roots mostEvents moves
    return 0

end Buildwright.Cli
