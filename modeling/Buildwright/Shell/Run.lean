-- SUMMARY: Running commands.
import Buildwright.Shell.Builtin.Directory
import Buildwright.Shell.Builtin.InputOutput
import Buildwright.Shell.Builtin.Names
import Buildwright.Shell.Builtin.Signals
import Buildwright.Shell.Control
import Buildwright.Shell.Program

/-!
# Running commands

`step` runs a command when it is known how the commands in it are run, and `run` runs one in which at
most a number of commands are nested. Programs are functions of the script, programs of the shell, and
programs on the disk.
-/
namespace Buildwright.Shell

open Shell.Action

/-! ## Programs of the shell -/

/-- Runs a program in place of the script. -/
def Builtin.exec : Builtin :=
  ⟨fun run arguments => do
    match ← Builtin.operands arguments with
    | [] => return 0
    | name :: others =>
      match System.launchNamed (← disk) true (← Builtin.programPath) (name :: others) with
      | .ok l =>
        let status ← Program.launch run l
        alter fun e => { e with traps := [] }
        finish status
      | .error e =>
        warn (name ++ ": " ++ if System.isAbsence e then "not found" else e.wording)
        finish (if System.isAbsence e || e == .tooManyLinks || e == .nameTooLong then 127 else 126)
      throw .exit, true, false⟩

/-- The programs of the shell but those that tell what names stand for. -/
def commonBuiltins : List (String × Builtin) :=
  [(":", .special fun _ => return 0), ("true", .plain fun _ => return 0),
    ("false", .plain fun _ => return 1), (".", .dot), ("eval", .eval), ("exec", .exec),
    ("exit", .exitCommand), ("return", .returnCommand), ("break", .leaving .leave),
    ("continue", .leaving .next), ("export", .exportCommand), ("readonly", .readonly),
    ("local", .localCommand), ("unset", .unset), ("set", .setCommand), ("shift", .shift),
    ("getopts", .getopts), ("read", .read), ("trap", .trap), ("kill", .kill), ("wait", .wait),
    ("jobs", .jobs), ("fg", .bringForward), ("bg", .bringForward), ("cd", .cd), ("chdir", .cd),
    ("pwd", .pwd), ("umask", .umask), ("alias", .aliasCommand), ("unalias", .unalias), ("hash", .hash),
    ("echo", .echo), ("printf", .printf), ("test", .condition false), ("[", .condition true),
    ("times", .times), ("ulimit", .ulimit)]

/-- The programs of the shell. -/
def builtins : List (String × Builtin) :=
  let all := ("command", Builtin.plain fun _ => return 0) ::
    ("type", Builtin.plain fun _ => return 0) :: commonBuiltins
  ("command", .command all) :: ("type", .typeCommand all) :: commonBuiltins

/-- Runs a program of the shell. Its mistakes end the script if it is special. -/
def callBuiltin (run : Command → Action Unit) (b : Builtin) (isSpecial : Bool) (name : String)
    (arguments : List String) : Action Unit := do
  let before := (← environment).program
  let restore : Action Unit := alter fun e => { e with program := before }
  alter fun e => { e with program := name }
  tryCatch (do finish (← b.run run arguments)) fun j => do
    match j with
    | .mistake =>
      if isSpecial then
        restore
        throw j
    | j =>
      restore
      throw j
  restore

/-! ## Functions and programs -/

/-- The number of functions that may be called within one another. -/
def mostCalls : Nat := 1000

/-- Runs the body of a function with arguments. -/
def callFunction (run : Command → Action Unit) (body : Command) (arguments : List String) :
    Action Unit := do
  alter fun e => { e with calls := e.calls + 1 }
  let before ← environment
  if mostCalls < before.calls then
    mistake ("Maximum function recursion depth (" ++ toString mostCalls ++ ") reached")
  let restore : Action Unit := alter fun e => { e with
    arguments := before.arguments
    loops := before.loops
    calls := e.calls - 1
    optionIndex := before.optionIndex
    optionPlace := before.optionPlace }
  alter fun e => { e with arguments, loops := 0, optionIndex := 1, optionPlace := 0 }
  tryCatch (Builtin.withCall (run body)) fun j => do
    restore
    throw j
  restore

/-- Reports that a program cannot be run. -/
def refuse (name : String) (e : OsError) (status : Nat) : Action Unit := do
  warn (name ++ ": " ++ if System.isAbsence e then "not found" else e.wording)
  finish status

/-- Runs a program on the disk. -/
def callProgram (run : Command → Action Unit) (path name : String) (arguments : List String) :
    Action Unit := do
  let d ← disk
  if name.toList.contains '/' then
    match System.launchFirst d true (name :: arguments) .notFound [name] with
    | .ok l => finish (← Program.launch run l)
    | .error e => refuse name e (if System.isAbsence e || e == .tooManyLinks then 127 else 126)
  else
    match System.find? d path name with
    | some p =>
      alter fun e => { e with located := (name, p) :: e.located.filter (·.1 != name) }
      match System.launchFirst d true (name :: arguments) .notFound [p] with
      | .ok l => finish (← Program.launch run l)
      | .error e => refuse name e (if System.isAbsence e then 127 else 126)
    | none =>
      let isThere := (System.candidates path name).any fun p => (d.resolve (pathOf p)).toBool
      refuse name (if isThere then .permissionDenied else .notFound) 127

/-! ## Words of simple commands -/

/-- A call: the name of a program with its arguments. If it is `plain`, functions do not count and nothing
    is special; `path` is where programs are looked for. -/
structure CallWords where
  name : String
  arguments : List String
  plain : Bool
  path : Option String

/-- What is called by the fields behind the program that runs another one, if they say it already. With an
    option of its own, that program itself is called, with the arguments `all`. -/
def calledBehind? (all : List String) (path : Option String) : List String → Option CallWords
  | [] | ["--"] => none
  | "-p" :: rest => calledBehind? all (some System.usualPath) rest
  | "--" :: name :: arguments => some ⟨name, arguments, true, path⟩
  | a :: rest =>
    if a == "command" then calledBehind? rest path rest
    else if Text.beginsWith "-" a then some ⟨"command", all, true, path⟩
    else some ⟨a, rest, true, path⟩

/-- What is called by fields, if they say it already: the program that runs another one steps aside. -/
def callOf? (e : Environment) : List String → Option CallWords
  | [] => none
  | name :: arguments =>
    if name == "command" && (e.functions.lookup name).isNone then calledBehind? arguments none arguments
    else some ⟨name, arguments, false, none⟩

/-- A word of a program whose arguments may be assignments. -/
def assignedField (run : Command → Action Unit) (w : Word) : Action (List String) := do
  match Parser.assignment? w with
  | some (x, value) => return [x ++ "=" ++ (← assignedOf (outputOf run) value)]
  | none => fieldsOf (outputOf run) w

/-- The fields of words behind the fields `taken`. What is called decides about how the rest of the words
    is expanded. -/
def fieldsOfCall (run : Command → Action Unit) (taken : List String) : List Word → Action (List String)
  | [] => return taken
  | w :: rest => do
    match callOf? (← environment) taken with
    | none => fieldsOfCall run (taken ++ (← fieldsOf (outputOf run) w)) rest
    | some c =>
      let isFunction := !c.plain && ((← environment).functions.lookup c.name).isSome
      let assigns := !isFunction && ((builtins.lookup c.name).map (·.assigns)).getD false
      let field := if assigns then assignedField run else fieldsOf (outputOf run)
      return taken ++ (← (w :: rest).mapM field).flatten

/-! ## Simple commands -/

/-- Writes a command before it is run, if the script asks for that. -/
def traceCall (streams : List (Nat × Nat)) (assigned : List (String × String))
    (fields : List String) : Action Unit := do
  if ← isSet 'x' then
    let start := (← valueOf? "PS4").getD ""
    let words := assigned.map (fun (x, value) => x ++ "=" ++ value) ++ fields
    withStreams do
      alter fun e => { e with streams }
      complain (start ++ Text.joined " " words ++ "\n")

/-- Gives variables the values of words, which last or are hidden from the caller. -/
def assignAll (run : Command → Action Unit) (hidden : Bool) (assignments : List (String × Word)) :
    Action (List (String × String)) :=
  assignments.mapM fun (x, w) => do
    let value ← assignedOf (outputOf run) w
    if hidden then
      Builtin.hide x
      assign x value
      match ← binding? x with
      | some v => setVariable x { v with exported := true }
      | none => pure ()
    else assign x value
    return (x, value)

/-- Runs what is called, with redirections and variables. -/
def runCall (run : Command → Action Unit) (assignments : List (String × Word)) (fields : List String)
    (c : CallWords) (routes : List Route) : Action Unit := do
  let e ← environment
  let function? := if c.plain then none else e.functions.lookup c.name
  let builtin? := if function?.isSome then none else builtins.lookup c.name
  let isSpecial := !c.plain && builtin?.any (·.isSpecial)
  let keepsStreams := c.name == "exec" && builtin?.isSome
  let redirected ← isFree (routes.forM Route.apply)
  if !redirected then
    if isSpecial then throw .mistake
    alter fun now => { now with streams := e.streams }
    return ()
  let body : Action Unit := do
    let assigned ← assignAll run (!isSpecial) assignments
    traceCall e.streams assigned fields
    match function?, builtin? with
    | some body, _ => callFunction run body c.arguments
    | none, some b => callBuiltin run b isSpecial c.name c.arguments
    | none, none => callProgram run (c.path.getD (← Builtin.programPath)) c.name c.arguments
  if keepsStreams then body
  else
    let restore : Action Unit := alter fun now => { now with streams := e.streams }
    tryCatch (if isSpecial then body else Builtin.withHidden body) fun j => do
      restore
      throw j
    restore

/-- Runs a command without a name: variables get values, and files are opened. -/
def runNameless (run : Command → Action Unit) (assignments : List (String × Word))
    (routes : List Route) : Action Unit := do
  let before := (← environment).streams
  withStreams do
    if ← isFree (routes.forM Route.apply) then
      let assigned ← assignAll run false assignments
      traceCall before assigned []
      finish (← environment).outputStatus

/-- Runs a simple command. -/
def runSimple (run : Command → Action Unit) (line : Nat) (assignments : List (String × Word))
    (words : List Word) (redirections : List Redirection) : Action Unit := do
  alter fun e => { e with line, outputStatus := 0 }
  let began := (← get).elapsed
  let fields ← fieldsOfCall run [] words
  let routes ← redirections.mapM (routeOf (outputOf run))
  let e ← environment
  match callOf? e fields, fields with
  | some c, _ => runCall run assignments fields c routes
  | none, [] => runNameless run assignments routes
  | none, name :: arguments => runCall run assignments fields ⟨name, arguments, false, none⟩ routes
  if (← get).elapsed != began then catchUp (runToExit run)
  heedFailure

/-! ## Commands -/

/-- Runs the first branch with a pattern that describes a text. -/
def choose (run : Command → Action Unit) (text : String) : List (List Word × Command) → Action Unit
  | [] => finish 0
  | (patterns, body) :: rest => do
    let fits ← patterns.anyM fun w => do
      return (NamePattern.ofMarked (← markedOf (outputOf run) w)).describes text.toList
    if fits then
      match body with
      | .none => finish 0
      | body => run body
    else choose run text rest

/-- Counts a command against the number of commands that may be run. -/
def spend : Action Unit := do
  let s ← get
  if s.budget == 0 then throw .endless
  set { s with budget := s.budget - 1 }

/-- Runs a command, unless commands are only read; `run` runs the commands in it. -/
def step (run : Command → Action Unit) (c : Command) : Action Unit := do
  spend
  if ← isSet 'n' then return ()
  match c with
  | .none => finish 0
  | .simple line assignments words redirections => runSimple run line assignments words redirections
  | .sequence first second => do
    run first
    run second
  | .both first second => do
    asking (run first)
    if (← environment).status == 0 then run second
  | .either first second => do
    asking (run first)
    if (← environment).status != 0 then run second
  | .negated c => do
    asking (run c)
    finish (if (← environment).status == 0 then 1 else 0)
  | .pipeline cs => do
    runPipeline run cs
    heedFailure
  | .branch condition yes no => do
    asking (run condition)
    if (← environment).status == 0 then run yes else run no
  | .loop negated condition body =>
    inLoop (repeatWhile negated (run condition) (run body) (← get).budget 0)
  | .each line name words body => do
    alter fun e => { e with line }
    let values ← fieldsOfAll (outputOf run) words
    finish 0
    inLoop (forEach (fun value => do
      assign name value
      run body) values)
  | .select line subject branches => do
    alter fun e => { e with line }
    let text ← textOf (outputOf run) subject
    choose run text branches
  | .redirected line c redirections => do
    alter fun e => { e with line }
    let routes ← redirections.mapM (routeOf (outputOf run))
    withStreams do
      if ← isFree (routes.forM Route.apply) then run c
  | .subshell line c => do
    alter fun e => { e with line }
    inSubshell (evaluate run) (run c)
    heedFailure
  | .background line c => do
    alter fun e => { e with line }
    startJob (runToExit run) c
    finish 0
  | .define _ name body => do
    alter fun e => { e with functions := (name, body) :: e.functions.filter (·.1 != name) }
    finish 0

/-- Runs a command in which at most a number of commands are nested. -/
def run : Nat → Command → Action Unit
  | 0, _ => throw .endless
  | n + 1, c => step (run n) c

/-- The number of commands that may be nested. -/
def mostNested : Nat := 6000

end Buildwright.Shell
