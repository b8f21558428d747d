-- SUMMARY: Options of utilities: which there are, and how they are told from other arguments.
import Buildwright.Shell.Utility.Basic

/-!
# Options

An option is a letter behind a dash or a name behind two dashes. Letters may stand together, and a value
stands behind its option in the same argument or in the next. Options may stand behind other arguments,
unless a utility ends them with the first of these. Names may be cut as long as they remain clear.
-/
namespace Buildwright.Shell.Utility

/-- Whether an option has a value. -/
inductive Takes where
  | nothing
  | value
  /-- Only in the same argument. -/
  | maybe
  deriving DecidableEq

/-- An option: its letter, or what stands for it, its names, and whether it has a value. -/
structure Form where
  key : String
  names : List String := []
  takes : Takes := .nothing

/-- An option without a value. -/
def flag (key : String) (names : List String := []) : Form := ⟨key, names, .nothing⟩

/-- An option with a value. -/
def valued (key : String) (names : List String := []) : Form := ⟨key, names, .value⟩

/-- What is wrong with options. -/
inductive Misuse where
  | unknownLetter (c : Char)
  | unknownName (argument : String)
  | letterWithoutValue (c : Char)
  | nameWithoutValue (name : String)
  | nameWithValue (name : String)
  | unclear (argument : String) (names : List String)

namespace Misuse

/-- The wording of a misuse. -/
def message : Misuse → String
  | unknownLetter c => "invalid option -- " ++ inQuotes (String.singleton c)
  | unknownName argument => "unrecognized option " ++ inQuotes argument
  | letterWithoutValue c => "option requires an argument -- " ++ inQuotes (String.singleton c)
  | nameWithoutValue name => "option " ++ inQuotes ("--" ++ name) ++ " requires an argument"
  | nameWithValue name => "option " ++ inQuotes ("--" ++ name) ++ " doesn't allow an argument"
  | unclear argument names =>
    "option " ++ inQuotes argument ++ " is ambiguous; possibilities: " ++
      Text.joined " " (names.map fun n => inQuotes ("--" ++ n))

end Misuse

/-- The options that are given, with their values, and the other arguments. -/
structure Options where
  given : List (String × String) := []
  operands : List String := []

namespace Options

/-- Whether an option is given. -/
def has (o : Options) (key : String) : Bool := o.given.any (·.1 == key)

/-- Whether one of some options is given. -/
def hasAny (o : Options) (keys : List String) : Bool := keys.any o.has

/-- The value of an option that is given last. -/
def last? (o : Options) (key : String) : Option String :=
  (o.given.filter (·.1 == key)).getLast?.map (·.2)

/-- All values of an option. -/
def all (o : Options) (key : String) : List String :=
  (o.given.filter (·.1 == key)).map (·.2)

/-- The last given of some options. -/
def lastOf? (o : Options) (keys : List String) : Option String :=
  (o.given.filter fun g => keys.contains g.1).getLast?.map (·.1)

/-- The options with another one in front. -/
def give (key value : String) (o : Options) : Options :=
  { o with given := (key, value) :: o.given }

/-- The options with another argument in front. -/
def operand (a : String) (o : Options) : Options :=
  { o with operands := a :: o.operands }

/-- The option that a name in an argument stands for. -/
def named (forms : List Form) (argument name : String) : Except Misuse (Form × String) :=
  let all := forms.flatMap fun f => f.names.map (f, ·)
  match all.find? (·.2 == name) with
  | some found => .ok found
  | none =>
    match all.filter fun x => Text.beginsWith name x.2 with
    | [] => .error (.unknownName argument)
    | found :: rest =>
      if rest.all (·.1.key == found.1.key) then .ok found
      else .error (.unclear argument ((found :: rest).map (·.2)))

/-- The options that letters stand for; the last of them may have its value in the next argument, and
    `true` says that it does. -/
def letters (forms : List Form) (next : Option String) :
    List Char → Except Misuse (List (String × String) × Bool)
  | [] => .ok ([], false)
  | c :: cs =>
    match forms.find? (·.key == String.singleton c) with
    | none => .error (.unknownLetter c)
    | some f =>
      match f.takes, cs, next with
      | .nothing, _, _ => do
        let (rest, usesNext) ← letters forms next cs
        return ((f.key, "") :: rest, usesNext)
      | .maybe, _, _ => .ok ([(f.key, String.ofList cs)], false)
      | .value, _ :: _, _ => .ok ([(f.key, String.ofList cs)], false)
      | .value, [], some value => .ok ([(f.key, value)], true)
      | .value, [], none => .error (.letterWithoutValue c)

/-- The options among arguments. With `mixed`, they may stand behind other arguments. -/
def parse (forms : List Form) (mixed : Bool) : List String → Except Misuse Options
  | [] => .ok {}
  | a :: rest =>
    match a.toList with
    | '-' :: '-' :: [] => .ok { operands := rest }
    | '-' :: '-' :: cs => do
      let name := String.ofList (cs.takeWhile (· != '='))
      let (f, full) ← named forms a name
      match cs.drop name.length, f.takes with
      | _ :: _, .nothing => .error (.nameWithValue full)
      | _ :: value, _ => return (← parse forms mixed rest).give f.key (String.ofList value)
      | [], .value =>
        match rest with
        | [] => .error (.nameWithoutValue full)
        | value :: rest => return (← parse forms mixed rest).give f.key value
      | [], _ => return (← parse forms mixed rest).give f.key ""
    | '-' :: c :: cs => do
      let (found, usesNext) ← letters forms rest.head? (c :: cs)
      let o ←
        match rest with
        | [] => .ok {}
        | value :: more => if usesNext then parse forms mixed more else parse forms mixed (value :: more)
      return found.foldr (fun g o => o.give g.1 g.2) o
    | _ => if mixed then (parse forms mixed rest).map (·.operand a) else .ok { operands := a :: rest }

end Options

/-- Runs a utility with its options; wrong options are reported. -/
def withOptions (forms : List Form) (run : Call → Options → Action Nat) (failed : Nat := 1) :
    Utility := fun c => do
  match Options.parse forms true c.arguments with
  | .ok o => run c o
  | .error m => c.misused m.message failed

/-- Runs a utility of which other arguments end the options. -/
def withLeadingOptions (forms : List Form) (run : Call → Options → Action Nat) (failed : Nat := 1) :
    Utility := fun c => do
  match Options.parse forms false c.arguments with
  | .ok o => run c o
  | .error m => c.misused m.message failed

/-- The first name of the choice for which the value of an option stands, or what to report. Names may be cut
    as long as they remain clear. -/
def choiceOf (option : String) (choices : List (List String)) (s : String) : Except String String :=
  let refused (what : String) : Except String String :=
    .error (what ++ " argument " ++ quoted s ++ " for " ++ inQuotes ("--" ++ option) ++
      "\nValid arguments are:" ++ String.join (choices.map fun names =>
        "\n  - " ++ Text.joined ", " (names.map inQuotes)))
  match choices.find? (·.contains s) with
  | some names => .ok (names.headD s)
  | none =>
    match choices.filter fun names => names.any (Text.beginsWith s) with
    | [names] => .ok (names.headD s)
    | [] => refused "invalid"
    | _ :: _ :: _ => refused "ambiguous"

/-- A number that an option or an argument is. -/
def number? (s : String) : Option Nat := Text.digits? s.toList

end Buildwright.Shell.Utility
