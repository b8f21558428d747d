-- SUMMARY: Compiler diagnostics, how they are shown, and how they decide the outcome of a compilation.
import Buildwright.Store

/-!
# Diagnostics

A diagnostic is an error or a warning, at a place in a source if the compiler names one. A single
error among the diagnostics makes a compilation fail.
-/
namespace Buildwright

/-- How serious a diagnostic is. -/
inductive Severity where
  | error
  | warning
  deriving DecidableEq, Repr

/-- A severity as it is shown. -/
def Severity.text : Severity → String
  | error => "error"
  | warning => "warning"

/-- A message of a compiler. -/
structure Diagnostic where
  file : Option String
  line : Option Nat
  severity : Severity
  message : String
  deriving DecidableEq, Repr

namespace Diagnostic

/-- An error without a place. -/
def ofError (message : String) : Diagnostic := ⟨none, none, .error, message⟩

/-- Whether a diagnostic is an error. -/
def isError (d : Diagnostic) : Bool :=
  d.severity = .error

/-- The place that a diagnostic shows in front of its severity. -/
def place (d : Diagnostic) : String :=
  match d.file, d.line with
  | some file, some line => file ++ ":" ++ toString line ++ ": "
  | some file, none => file ++ ": "
  | none, _ => ""

/-- A diagnostic as it is shown. -/
def text (d : Diagnostic) : String :=
  d.place ++ d.severity.text ++ ": " ++ d.message

end Diagnostic

/-- What a compiler produces: class files and warnings, or errors. -/
inductive CompilationOutcome where
  | success (target : Store) (warnings : List Diagnostic)
  | failure (errors : List Diagnostic)

namespace CompilationOutcome

/-- The outcome that diagnostics make of a target: a failure with the errors if there are any, and
    otherwise a success with the warnings. -/
def ofDiagnostics (target : Store) (ds : List Diagnostic) : CompilationOutcome :=
  match ds.filter (·.isError) with
  | [] => success target (ds.filter fun d => !d.isError)
  | errors => failure errors

/-- Whether a compilation went well. -/
def isSuccess : CompilationOutcome → Bool
  | success _ _ => true
  | failure _ => false

/-- The errors of a compilation. -/
def errors : CompilationOutcome → List Diagnostic
  | success _ _ => []
  | failure errors => errors

/-- The errors of a compilation, one below the other. -/
def summary (o : CompilationOutcome) : String :=
  Text.joined "\n" (o.errors.map Diagnostic.text)

end CompilationOutcome
end Buildwright
