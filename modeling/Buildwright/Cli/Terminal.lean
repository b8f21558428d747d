-- SUMMARY: What commands work with: the disk, the environment, and the two streams that they write to.
import Buildwright.Build.Session
import Buildwright.Compile.JavaCompiler
import Buildwright.Config.Load

/-!
# Terminals

A command reads and changes a session and writes to two streams. It fails with a chain of causes, the
outermost first.
-/
namespace Buildwright.Cli

/-- What a command finds: the variables of the environment, and how programs are run. -/
structure Surroundings where
  environment : Environment
  runner : CommandRunner

/-- What a command changes. -/
structure Terminal where
  session : Session
  stdout : String
  stderr : String

/-- What went wrong, and the causes of it. -/
abbrev Complaint := List String

/-- A command while it runs. -/
abbrev CommandM := EStateM Complaint Terminal

namespace CommandM

/-- Writes a line to the first stream. -/
def print (line : String) : CommandM Unit :=
  modify fun t => { t with stdout := t.stdout ++ line ++ "\n" }

/-- Writes a line to the second stream. -/
def complain (line : String) : CommandM Unit :=
  modify fun t => { t with stderr := t.stderr ++ line ++ "\n" }

/-- The disk at the moment. -/
def disk : CommandM Disk := do
  return (← get).session.disk

/-- Replaces the disk. -/
def setDisk (d : Disk) : CommandM Unit :=
  modify fun t => { t with session := { t.session with disk := d } }

/-- The value of a result; a failure gets a context. -/
def orFail {ε α : Type} (context : String) (causes : ε → Complaint) : Except ε α → CommandM α
  | .ok a => pure a
  | .error e => throw (context :: causes e)

/-- Runs a computation in the session of the terminal, and gives its failure as a result. -/
def inSession {ε α : Type} (m : EStateM ε Session α) : CommandM (Except ε α) := fun t =>
  match m t.session with
  | .ok a s => .ok (.ok a) { t with session := s }
  | .error e s => .ok (.error e) { t with session := s }

end CommandM

/-- A complaint in one line. -/
def Complaint.text (c : Complaint) : String :=
  Text.joined ": " c

/-- The causes of a failure of input or output. -/
def ioCauses (e : IoError) : Complaint := [e.message]

/-- The causes of a failure to load a configuration. -/
def configCauses : ConfigError → Complaint
  | .unreadable p e => [(ConfigError.unreadable p e).message, e.message]
  | e => [e.message]

/-- The configuration of the project at a root. -/
def loadConfig (env : Environment) (root : Path) : CommandM Config := do
  let (c, _) ← CommandM.orFail ("failed to load configuration for " ++ root.text) configCauses
    (Config.loadForProject env (← CommandM.disk) root)
  return c

/-- The Java compiler of a project. -/
def javaCompiler (around : Surroundings) (c : Config) : Compiler :=
  JavaCompiler.toCompiler
    { program := c.build.javac
      release := c.dev.javaRelease
      runner := around.runner }

/-- The class path of a project. -/
def classpath (c : Config) (root : Path) : List Path :=
  c.build.classpath.map (Project.resolve root)

end Buildwright.Cli
