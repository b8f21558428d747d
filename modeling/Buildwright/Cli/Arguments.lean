-- SUMMARY: The arguments of the command line: what is asked for, and which arguments ask for nothing.
import Buildwright.Dev.Staleness
import Buildwright.Text.Number

/-!
# Arguments

The first argument names a command, and the others are its operand and its options. An option may
stand anywhere, is given at most once, and has its value behind it or behind an equals sign. What
follows `--` is never an option. Arguments are taken one after the other, and the first that does not
fit decides, also before a later request for help.
-/
namespace Buildwright.Cli

/-- A command with its options. -/
inductive Request where
  /-- Builds the project that a classes directory belongs to. -/
  | build (classes : Path) (json : Bool)
  /-- Tells whether the compiled form of a file is out of date. -/
  | stale (file sources classes : Path) (policy : StalenessPolicy) (json : Bool)
  /-- Recompiles changed files of a project, up to a number of events. -/
  | watch (project : Path) (mostEvents : Option Nat)
  deriving DecidableEq

/-- What arguments ask for, when it is not a command. -/
inductive Refusal where
  | help
  | version
  | misuse
  deriving DecidableEq

/-! ## Values -/

/-- Whether a text is a path, which is not empty. -/
def isPath (s : String) : Bool := s != ""

/-- The number that a text is. -/
def number? (s : String) : Option Nat :=
  Text.unsigned? UInt64.size s.toList

/-- The kinds of values that options have. -/
inductive ValueKind where
  | path
  | number
  | policy
  deriving DecidableEq

/-- Whether a text is a value of a kind. -/
def ValueKind.fits (s : String) : ValueKind → Bool
  | path => isPath s
  | number => (number? s).isSome
  | policy => (StalenessPolicy.named.lookup s).isSome

/-! ## Sorting -/

/-- Arguments sorted by what they are. -/
structure Sorted where
  operands : List String
  flags : List String
  options : List (String × String)

namespace Sorted

/-- No arguments. -/
def empty : Sorted := ⟨[], [], []⟩

/-- The number of operands of a command. -/
def mostOperands : Nat := 1

/-- Adds an operand, which is a path. There may not be too many. -/
def addOperand (s : Sorted) (a : String) : Except Refusal Sorted :=
  if isPath a && s.operands.length < mostOperands then
    .ok { s with operands := s.operands ++ [a] }
  else .error .misuse

/-- Adds a flag, which must be new. -/
def addFlag (s : Sorted) (name : String) : Except Refusal Sorted :=
  if s.flags.contains name then .error .misuse else .ok { s with flags := s.flags ++ [name] }

/-- Adds an option with its value, which has to be of its kind; the option must be new. -/
def addOption (s : Sorted) (kind : ValueKind) (name value : String) : Except Refusal Sorted :=
  if kind.fits value && (s.options.lookup name).isNone then
    .ok { s with options := s.options ++ [(name, value)] }
  else .error .misuse

end Sorted

/-- Whether an argument is an operand or a value, and not an option. -/
def isOperand (a : String) : Bool :=
  a = "-" || !Text.beginsWith "-" a

/-- The name of an option and the value behind its equals sign. -/
def nameAndValue (a : String) : String × Option String :=
  match Text.cut? ['='] a.toList with
  | some (name, value) => (String.ofList name, some (String.ofList value))
  | none => (a, none)

/-- Sorts arguments, given the flags of a command and its options with the kinds of their values. -/
def sortArguments (flags : List String) (options : List (String × ValueKind)) :
    Sorted → List String → Except Refusal Sorted
  | s, [] => .ok s
  | s, "--" :: rest => rest.foldlM Sorted.addOperand s
  | s, a :: rest =>
    if isOperand a then
      match s.addOperand a with
      | .ok s => sortArguments flags options s rest
      | .error e => .error e
    else if a = "--help" || Text.beginsWith "-h" a then .error .help
    else if flags.contains a then
      match s.addFlag a with
      | .ok s => sortArguments flags options s rest
      | .error e => .error e
    else
      let (name, given) := nameAndValue a
      match options.lookup name, given, rest with
      | some kind, some value, rest =>
        match s.addOption kind name value with
        | .ok s => sortArguments flags options s rest
        | .error e => .error e
      | some kind, none, value :: rest =>
        if isOperand value then
          match s.addOption kind name value with
          | .ok s => sortArguments flags options s rest
          | .error e => .error e
        else .error .misuse
      | _, _, _ => .error .misuse

/-- The only operand, as a path. -/
def operand (s : Sorted) : Except Refusal Path :=
  match s.operands with
  | [a] => .ok ⟨a⟩
  | _ => .error .misuse

/-- The value of an option that has to be there. -/
def requiredPath (s : Sorted) (name : String) : Except Refusal Path :=
  match s.options.lookup name with
  | some value => .ok ⟨value⟩
  | none => .error .misuse

/-- The policy that an option names. -/
def policyValue (s : Sorted) (name : String) : StalenessPolicy :=
  ((s.options.lookup name).bind (StalenessPolicy.named.lookup ·)).getD .standard

/-- The number that an option gives. -/
def numberValue (s : Sorted) (name : String) : Option Nat :=
  (s.options.lookup name).bind number?

/-! ## Commands -/

/-- The request of `build`. -/
def buildRequest (arguments : List String) : Except Refusal Request := do
  let s ← sortArguments ["--json"] [] .empty arguments
  return .build (← operand s) (s.flags.contains "--json")

/-- The request of `stale`. -/
def staleRequest (arguments : List String) : Except Refusal Request := do
  let s ← sortArguments ["--json"]
    [("--sources", .path), ("--classes", .path), ("--fail-mode", .policy)] .empty arguments
  return .stale (← operand s) (← requiredPath s "--sources") (← requiredPath s "--classes")
    (policyValue s "--fail-mode") (s.flags.contains "--json")

/-- The request of `watch`. -/
def watchRequest (arguments : List String) : Except Refusal Request := do
  let s ← sortArguments [] [("--max-events", .number)] .empty arguments
  return .watch (← operand s) (numberValue s "--max-events")

/-- The commands with the requests that they make of their arguments. -/
def commands : List (String × (List String → Except Refusal Request)) :=
  [("build", buildRequest), ("stale", staleRequest), ("watch", watchRequest)]

/-- What is asked for where a command is expected and none is named: help, or the version. -/
def generalRequest : List String → Refusal
  | ["help"] | ["help", "help"] => .help
  | ["help", name] => if (commands.lookup name).isSome then .help else .misuse
  | a :: _ =>
    if a = "--help" || Text.beginsWith "-h" a then .help
    else if a = "--version" || Text.beginsWith "-V" a then .version
    else .misuse
  | [] => .misuse

/-- What arguments ask for. -/
def request (arguments : List String) : Except Refusal Request :=
  match arguments with
  | [] => .error .misuse
  | name :: rest =>
    match commands.lookup name with
    | some ofArguments => ofArguments rest
    | none => .error (generalRequest arguments)

end Buildwright.Cli
