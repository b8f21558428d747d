-- SUMMARY: Copies of generated files for debugging.
import Buildwright.Disk.Write
import Buildwright.Generation.File

/-!
# Debug copies

Generated files can be copied to a directory where a developer can look at them. A copy that cannot
be written is left out.
-/
namespace Buildwright

/-- Where copies of generated files go, if anywhere. -/
structure DebugDump where
  directory : Option Path
  deriving DecidableEq

namespace DebugDump

/-- Writes the copy of one file, and counts it if that goes well. -/
def writeCopy (directory : Path) (acc : Nat × Disk) (f : GeneratedFile) : Nat × Disk :=
  match Disk.writeWithDirectories (directory.join ⟨f.bareTarget⟩) f.content acc.2 with
  | .ok () d => (acc.1 + 1, d)
  | .error _ d => (acc.1, d)

/-- Writes copies of files: the number of copies, and the disk afterwards. -/
def writeAll (dump : DebugDump) (files : List GeneratedFile) (d : Disk) : Nat × Disk :=
  match dump.directory with
  | some directory => files.foldl (writeCopy directory) (0, d)
  | none => (0, d)

end DebugDump
end Buildwright
