-- SUMMARY: Deciding whether the compiled form of a source is out of date.
import Buildwright.ClassName
import Buildwright.Disk.Basic

/-!
# Staleness

A source is fresh when its class file was changed at the same millisecond or later, and stale when
that file is older or missing. Where this cannot be told, a policy decides.
-/
namespace Buildwright

/-- What is known about a changed source. -/
inductive FileState where
  | unknown
  | checked
  | stale
  | fresh
  deriving DecidableEq, Repr

/-- A state as it is shown. -/
def FileState.text : FileState → String
  | unknown => "unknown"
  | checked => "checked"
  | stale => "stale"
  | fresh => "fresh"

/-- What to assume of a source when its state cannot be told. -/
inductive StalenessPolicy where
  | assumeStale
  | assumeFresh
  deriving DecidableEq, Repr

namespace StalenessPolicy

/-- The policies with their names. -/
def named : List (String × StalenessPolicy) :=
  [("assume-stale", assumeStale), ("assume-fresh", assumeFresh)]

/-- The policy of a project that does not choose one. -/
def standard : StalenessPolicy := assumeStale

/-- The state that a policy assumes. -/
def assumed : StalenessPolicy → FileState
  | assumeStale => .stale
  | assumeFresh => .fresh

/-- The state of a source whose last change was at `sourceTime`, given what is known of the time of
    its class file. -/
def judge (policy : StalenessPolicy) (sourceTime : Nat) : Except IoError Nat → FileState
  | .ok outputTime => if sourceTime ≤ outputTime then .fresh else .stale
  | .error e => if e.kind = .notFound then .stale else policy.assumed

/-- The state of a source with the given extension below a sources directory, whose last change was
    at `sourceTime`. -/
def check (policy : StalenessPolicy) (d : Disk) (resource sources classes : Path)
    (extension : String) (sourceTime : Nat) : FileState :=
  match ClassName.outputFile? resource sources classes extension with
  | none => policy.assumed
  | some classFile => policy.judge sourceTime (d.modifiedMillis classFile)

/-- Whether a source is stale. -/
def isStale (policy : StalenessPolicy) (d : Disk) (resource sources classes : Path)
    (extension : String) (sourceTime : Nat) : Bool :=
  policy.check d resource sources classes extension sourceTime = .stale

end StalenessPolicy
end Buildwright
