-- SUMMARY: Programs of the shell that set variables, options and arguments, and that take options apart.
import Buildwright.Shell.Evaluation
import Buildwright.Shell.Expansion

/-!
# Variables, options and arguments

Programs that mark variables, hide them from the callers of functions, remove them, and set the options
and the arguments of the script.
-/
namespace Buildwright.Shell.Builtin

open Shell.Action

/-! ## Showing variables -/

/-- Writes variables for which `p` holds, in order, as commands that begin with a text. -/
def showVariables (start : String) (p : Variable → Bool) : Action Unit := do
  let e ← environment
  let shown := (e.bindings.filter fun x => p x.2).mergeSort fun a b => decide (a.1 ≤ b.1)
  say (String.join (shown.map fun (x, v) =>
    start ++ x ++ (match v.value with
      | some value => "=" ++ quotedWord value
      | none => "") ++ "\n"))

/-! ## Marking variables -/

/-- Sets variables that arguments name or give, and marks them; without arguments, those that have the
    mark are shown. -/
def marking (start : String) (has : Variable → Bool) (mark : Variable → Variable)
    (arguments : List String) : Action Nat := do
  let (given, others) ← options "p" arguments
  if others.isEmpty || !given.isEmpty then showVariables start has
  else
    for a in others do
      let (x, value) := assignment a
      checkName x
      match value with
      | some value => assign x value
      | none => pure ()
      setVariable x (mark ((← binding? x).getD { value := none }))
  return 0

/-- Lets programs see variables. -/
def exportCommand : Builtin :=
  ⟨fun _ => marking "export " (·.exported) fun v => { v with exported := true }, true, true⟩

/-- Makes variables constant. -/
def readonly : Builtin :=
  ⟨fun _ => marking "readonly " (·.constant) fun v => { v with constant := true }, true, true⟩

/-- Remembers a variable for the caller of the function that is run. -/
def hide (x : String) : Action Unit :=
  alter fun e =>
    match e.hidden with
    | frame :: rest =>
      if frame.any (·.1 == x) then e
      else { e with hidden := ((x, e.bindings.lookup x) :: frame) :: rest }
    | [] => e

/-- Makes variables those of the function that is run. -/
def localCommand : Builtin :=
  ⟨fun _ arguments => do
    if (← environment).hidden.isEmpty then mistake "not in a function"
    for a in ← operands arguments do
      let (x, value) := assignment a
      if x == "-" then continue
      checkName x
      hide x
      match value with
      | some value => assign x value
      | none => pure ()
    return 0, true, true⟩

/-- Runs a computation with variables that it may hide, and brings them back. -/
def withHidden {α : Type} (m : Action α) : Action α := do
  alter fun e => { e with hidden := [] :: e.hidden }
  let restore : Action Unit := alter fun e =>
    match e.hidden with
    | frame :: rest =>
      let bindings := frame.foldl (fun bindings (x, before) =>
        let others := bindings.filter (·.1 != x)
        match before with
        | some v => (x, v) :: others
        | none => others) e.bindings
      { e with hidden := rest, bindings }
    | [] => e
  let a ← tryCatch m fun j => do
    restore
    throw j
  restore
  return a

/-- Removes variables and functions. -/
def unset : Builtin := special fun arguments => do
  let (given, others) ← options "vf" arguments
  let functions := (given.getLast?.map (·.1)) == some 'f'
  for x in others do
    if functions then alter fun e => { e with functions := e.functions.filter (·.1 != x) }
    else
      checkName x
      match ← binding? x with
      | some v =>
        if v.constant then mistake (x ++ ": is read only")
        dropVariable x
      | none => pure ()
  return 0

/-! ## Options and arguments -/

/-- Sets an option. -/
def setOption (value : Bool) (c : Char) : Action Unit :=
  alter fun e =>
    let others := e.options.filter (· != c)
    { e with options := if value then c :: others else others }

/-- Writes all options. -/
def showOptions (asTable : Bool) : Action Unit := do
  let set := (← environment).options
  let isOn (c : Option Char) : Bool := (c.map set.contains).getD false
  if asTable then
    say ("Current option settings\n" ++ String.join (optionNames.map fun (name, c) =>
      name ++ String.ofList (List.replicate (16 - name.length) ' ') ++
        (if isOn c then "on\n" else "off\n")))
  else
    say (String.join (optionNames.map fun (name, c) =>
      "set " ++ (if isOn c then "-o " else "+o ") ++ name ++ "\n"))

/-- Sets an option with a name. -/
def setNamedOption (value : Bool) (name : String) : Action Unit := do
  match optionNames.lookup name with
  | some (some c) => setOption value c
  | some none => pure ()
  | none => mistake ("Illegal option -o " ++ name)

/-- Sets options that letters stand for; the name for an `o` is the next argument. The result is what
    follows the options. -/
def setLetters (value : Bool) : List Char → List String → Action (List String)
  | [], rest => return rest
  | 'o' :: cs, rest => do
    match rest with
    | name :: rest =>
      setNamedOption value name
      setLetters value cs rest
    | [] =>
      showOptions value
      setLetters value cs []
  | c :: cs, rest => do
    if optionNames.any (·.2 == some c) then setOption value c
    else mistake ("Illegal option -" ++ String.singleton c)
    setLetters value cs rest

/-- Replaces the arguments of the script. -/
def setArguments (arguments : List String) : Action Unit :=
  alter fun e => { e with arguments, optionIndex := 1, optionPlace := 0 }

/-- Sets options and arguments, with at most `n` arguments for options. -/
def setAll : Nat → List String → Action Unit
  | 0, _ => pure ()
  | n + 1, arguments => do
    match arguments with
    | [] => pure ()
    | a :: rest =>
      match a.toList with
      | ['-'] =>
        setOption false 'x'
        setOption false 'v'
        unless rest.isEmpty do setArguments rest
      | ['-', '-'] => setArguments rest
      | '-' :: cs => do setAll n (← setLetters true cs rest)
      | '+' :: cs => do setAll n (← setLetters false cs rest)
      | _ => setArguments (a :: rest)

/-- Sets options and arguments, or shows all variables. -/
def setCommand : Builtin := special fun arguments => do
  if arguments.isEmpty then showVariables "" (·.value.isSome)
  else setAll (arguments.length + 1) arguments
  return 0

/-- Drops arguments of the script. -/
def shift : Builtin := special fun arguments => do
  let n ←
    match arguments with
    | a :: _ => number a
    | [] => pure 1
  let e ← environment
  if e.arguments.length < n then mistake "can't shift that many"
  setArguments (e.arguments.drop n)
  return 0

/-! ## Taking options apart -/

/-- Sets the variable that says where options are read, and the place itself. -/
def setOptionIndex (index place : Nat) : Action Unit := do
  let v := (← binding? "OPTIND").getD { value := none }
  setVariable "OPTIND" { v with value := some (toString index) }
  alter fun e => { e with optionIndex := index, optionPlace := place }

/-- Takes the next option from arguments and puts it into a variable. -/
def nextOption (letters x : String) (arguments : List String) : Action Nat := do
  let e ← environment
  let (index, place) :=
    if arguments.length + 1 < e.optionIndex then (1, 0) else (e.optionIndex, e.optionPlace)
  let current := if place == 0 then [] else ((arguments[index - 2]?).getD "").toList.drop place
  let found : Option (List Char × Nat) :=
    match current, arguments[index - 1]? with
    | c :: cs, _ => some (c :: cs, index)
    | [], some a =>
      match a.toList with
      | '-' :: c :: cs => if c == '-' && cs.isEmpty then none else some (c :: cs, index + 1)
      | _ => none
    | [], none => none
  match found with
  | none =>
    let ended := current.isEmpty && arguments[index - 1]? == some "--"
    setOptionIndex (if ended then index + 1 else index) 0
    checkName x
    assign x "?"
    return 1
  | some ([], _) => return 1
  | some (c :: cs, index) =>
    let silent := Text.beginsWith ":" letters
    let placeOf (rest : List Char) : Nat :=
      if rest.isEmpty then 0 else ((arguments[index - 2]?).getD "").length - rest.length
    let answer (result : Char) (argument : Option String) (index place : Nat) : Action Nat := do
      match argument with
      | some value => assign "OPTARG" value
      | none => dropVariable "OPTARG"
      setOptionIndex index place
      checkName x
      assign x (String.singleton result)
      return 0
    let behind := (letters.toList.dropWhile (· != c)).drop 1
    if c == ':' || !letters.toList.contains c then
      if silent then answer '?' (some (String.singleton c)) index (placeOf cs)
      else
        complain ("Illegal option -" ++ String.singleton c ++ "\n")
        answer '?' none index (placeOf cs)
    else if behind.head? == some ':' then
      match cs, arguments[index - 1]? with
      | _ :: _, _ => answer c (some (String.ofList cs)) index 0
      | [], some value => answer c (some value) (index + 1) 0
      | [], none =>
        if silent then answer ':' (some (String.singleton c)) index 0
        else
          complain ("No arg for -" ++ String.singleton c ++ " option\n")
          answer '?' none index 0
    else answer c (some "") index (placeOf cs)

/-- Takes the next option of the script, or of other arguments. -/
def getopts : Builtin := plain fun arguments => do
  match arguments with
  | [letters, x] => nextOption letters x (← environment).arguments
  | letters :: x :: others => nextOption letters x others
  | _ => mistake "Usage: getopts optstring var [arg...]"

end Buildwright.Shell.Builtin
