-- SUMMARY: The program that follows a program on records.
import Buildwright.Shell.Records.Reader
import Buildwright.Shell.Records.Run

/-!
# Programs on records as a utility

The program stands in the first argument or in files. The other arguments are the files that it reads, and
variables that are given values between them.
-/
namespace Buildwright.Shell.Utility

open Shell.Action

/-- How the program is used. -/
def recordsUsage : List String :=
  ["Usage: mawk [Options] [Program] [file ...]",
    "",
    "Program:",
    "    The -f option value is the name of a file containing program text.",
    "    If no -f option is given, a \x22--\x22 ends option processing; the following",
    "    parameters are the program text.",
    "",
    "Options:",
    "    -f program-file  Program  text is read from file instead of from the",
    "                     command-line.  Multiple -f options are accepted.",
    "    -F value         sets the field separator, FS, to value.",
    "    -v var=value     assigns value to program variable var.",
    "    --               unambiguous end of options.",
    "",
    "    Implementation-specific options are prefixed with \x22-W\x22.  They can be",
    "    abbreviated:",
    "",
    "    -W version       show version information and exit.",
    "    -W compat        pre-POSIX 2001.",
    "    -W dump          show assembler-like listing of program and exit.",
    "    -W help          show this message and exit.",
    "    -W interactive   set unbuffered output, line-buffered input.",
    "    -W exec file     use file as program as well as last option.",
    "    -W posix         stricter POSIX checking.",
    "    -W random=number set initial random seed.",
    "    -W sprintf=number adjust size of sprintf buffer.",
    "    -W usage         show this message and exit."]

/-- What the program says of itself. -/
def recordsVersion : List String :=
  ["mawk 1.3.4 20240123"]

/-- What the options of a program on records ask for. -/
structure RecordsOptions where
  separator : Option String := none
  /-- The variables that are given values, the last one first. -/
  given : List (String × String) := []
  /-- The options that have no meaning, the last one first. -/
  vacuous : List String := []
  /-- The files that hold the program, the last one first. -/
  files : List String := []
  operands : List String := []

/-- Why a program on records is not run. -/
inductive RecordsRefusal where
  | usage
  | version
  | fault (message : String)

/-- What an option that belongs to the program alone asks for: nothing, or to tell something. -/
def ownOption (name : String) : Option RecordsRefusal :=
  let begins (full : String) : Bool := name != "" && Text.beginsWith name full
  if begins "version" then some .version
  else if begins "help" || begins "usage" then some .usage
  else none

/-- The options of the program alone that change nothing. -/
def ownNames : List String :=
  ["compat", "dump", "exec", "interactive", "posix", "random", "sprintf"]

/-- The options with names behind two dashes that change nothing. -/
def recordsNames : List String :=
  ownNames ++ ["lint", "lint-old", "re-interval", "traditional"]

/-- Follows an option with a value. -/
def RecordsOptions.follow (o : RecordsOptions) (letter : Char) (value : String) :
    Except RecordsRefusal RecordsOptions :=
  match letter with
  | 'F' => .ok { o with separator := some (Records.Token.unescaped value.toList) }
  | 'v' =>
    match Records.Work.assignment? value with
    | some x => .ok { o with given := x :: o.given }
    | none => .error (.fault ("improper assignment: -v " ++ value))
  | 'f' => .ok { o with files := value :: o.files }
  | _ =>
    match ownOption value with
    | some r => .error r
    | none =>
      let name := String.ofList (value.toList.takeWhile (· != '='))
      if ownNames.any (Text.beginsWith name) then .ok o else .ok { o with vacuous := value :: o.vacuous }

/-- The options among arguments. -/
def RecordsOptions.parse (o : RecordsOptions) :
    List String → Except RecordsRefusal RecordsOptions
  | [] => .ok o
  | a :: rest =>
    match a.toList with
    | ['-', '-'] => .ok { o with operands := rest }
    | '-' :: '-' :: cs =>
      let name := String.ofList cs
      match ownOption name with
      | some r => .error r
      | none =>
        if recordsNames.contains name then parse o rest else .error (.fault ("not an option: " ++ a))
    | ['-', letter] =>
      if ['F', 'v', 'f', 'W'].contains letter then
        match rest with
        | [] => .error (.fault ("option -" ++ String.singleton letter ++ " lacks argument"))
        | value :: rest =>
          match o.follow letter value with
          | .ok o => parse o rest
          | .error r => .error r
      else .error (.fault ("not an option: " ++ a))
    | '-' :: letter :: value =>
      if ['F', 'v', 'f', 'W'].contains letter then
        match o.follow letter (String.ofList value) with
        | .ok o => parse o rest
        | .error r => .error r
      else .error (.fault ("not an option: " ++ a))
    | _ => .ok { o with operands := a :: rest }

/-- The texts of files, or what is said of one that cannot be read. -/
def recordsTexts : List String → Action (Except String String)
  | [] => return .ok ""
  | p :: rest => do
    match ← read p with
    | .ok b => return (← recordsTexts rest).map (Text.bytewise b ++ "\n" ++ ·)
    | .error why => return .error ("cannot open \x22" ++ p ++ "\x22 (" ++ why ++ ")")

/-- Reports the mistakes of a program, which stands in a file if one is given. -/
def reportMistakes (c : Call) (file : Option String) (ms : List Records.Mistake) : Action Unit := do
  for m in ms do
    let start := ((file.map (· ++ ": ")).getD "") ++ "line " ++ toString m.line ++ ": "
    c.report (if m.isPlaced then start ++ m.message else m.message)

/-- Follows a program on records. -/
def awk : Utility := fun call => do
  let c := { call with name := lastName call.name }
  match RecordsOptions.parse {} c.arguments with
  | .error .usage =>
    sayLines recordsUsage
    return 0
  | .error .version =>
    sayLines recordsVersion
    return 0
  | .error (.fault message) => c.fail message 2
  | .ok o =>
    for name in o.vacuous.reverse do c.report ("vacuous option: -W \x22" ++ name ++ "\x22")
    match o.files, o.operands with
    | [], [] =>
      complain (ended recordsUsage)
      return 0
    | files, operands =>
      let text ←
        match files, operands with
        | [], text :: _ => pure (.ok text)
        | _, _ => recordsTexts files.reverse
      match text with
      | .error message => c.fail message 2
      | .ok text =>
        match (o.separator.map Records.Separator.ofText).getD (.ok .blanks) with
        | .error message => c.fail ("line 0: " ++ message) 2
        | .ok _ =>
          match Records.Program.read text with
          | .error ms =>
            reportMistakes c files.head? ms
            return 2
          | .ok program =>
            let operands := if files.isEmpty then operands.drop 1 else operands
            Records.Plan.run ⟨c, program⟩ (c.name :: operands) o.separator o.given.reverse

end Buildwright.Shell.Utility
