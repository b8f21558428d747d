-- SUMMARY: Programs of the shell that send signals, say what is done on them, and wait for jobs.
import Buildwright.Shell.Builtin.Jumps

/-!
# Signals and jobs

A signal to the script itself runs what the script has said that it wants to do on it, or ends the
script. A signal to a job ends a job that has not ended.
-/
namespace Buildwright.Shell.Builtin

open Shell.Action

/-- The name of the signal that a text names by its name or number. -/
def signalName? (s : String) : Option String :=
  match Text.digits? s.toList with
  | some n => Signal.name? n
  | none => (Signal.ofName? s).bind Signal.name?

/-! ## Traps -/

/-- Sets what is done on a signal; nothing means what is usual. -/
def setTrap (name : String) (action : Option String) : Action Unit :=
  alter fun e =>
    let others := e.traps.filter (·.1 != name)
    { e with traps := match action with
      | some text => (name, text) :: others
      | none => others }

/-- Writes what is done on signals. -/
def showTraps : Action Unit := do
  let traps := (← environment).traps
  let shown := (Signal.exitName :: Signal.names).filterMap fun name =>
    (traps.lookup name).map fun text => "trap -- " ++ quotedWord text ++ " " ++ name ++ "\n"
  say (String.join shown)

/-- Sets what is done on signals, or writes it. -/
def trap : Builtin := special fun arguments => do
  match ← operands arguments with
  | [] =>
    showTraps
    return 0
  | first :: rest =>
    let isSignal := rest.isEmpty || (Text.digits? first.toList).any fun n => (Signal.name? n).isSome
    let (action, signals) := if isSignal then (none, first :: rest) else (some first, rest)
    for s in signals do
      match signalName? s with
      | some name => setTrap name (if action == some "-" then none else action)
      | none =>
        complain ("trap: " ++ s ++ ": bad trap\n")
        return 1
    return 0

/-! ## Jobs -/

/-- The jobs of the script. -/
def ownJobs : Action (List Job) := do
  return (← get).jobs.filter (·.own)

/-- The job that an argument names. -/
def jobNamed (a : String) : Action Job := do
  let jobs ← ownJobs
  let found : Option Job :=
    match a.toList with
    | ['%'] | ['%', '%'] | ['%', '+'] => jobs.head?
    | ['%', '-'] => jobs[1]?
    | '%' :: cs => (Text.digits? cs).bind fun n => jobs.find? (·.index == n)
    | _ => none
  match found with
  | some j => return j
  | none => mistake ("No such job: " ++ a)

/-- The number of the process that an argument names. -/
def processOf (a : String) : Action Nat := do
  if Text.beginsWith "%" a then return (← jobNamed a).number
  else number a

/-- Changes the job of a process. -/
def changeJob (process : Nat) (f : Job → Job) : Action Unit :=
  modify fun s => { s with jobs := s.jobs.map fun j => if j.number == process then f j else j }

/-- Says what ended a job, if that was a signal of which users are told. -/
def sayEnd (process : Nat) : Action Unit := do
  match ((← get).jobs.find? fun j => j.number == process && !j.isTold).bind (·.signal) with
  | some n =>
    match Signal.description? n with
    | some text => complain (text ++ "\n")
    | none => pure ()
    changeJob process fun j => { j with isTold := true }
  | none => pure ()

/-- Waits for a process, and gives its exit code. -/
def waitFor (run : Command → Action Unit) (process : Nat) : Action Nat := do
  match (← ownJobs).find? (·.number == process) with
  | none => return 127
  | some _ =>
    settleAll (runToExit run) (·.number == process)
    sayEnd process
    changeJob process fun j => { j with isAwaited := true }
    return ((← ownJobs).find? (·.number == process)).elim 127 (·.status)

/-- Waits for processes, or for all jobs. -/
def wait : Builtin :=
  ⟨fun run arguments => do
    match ← operands arguments with
    | [] =>
      settleAll (runToExit run) (·.own)
      modify fun s => { s with jobs := s.jobs.map fun j => { j with isAwaited := j.isAwaited || j.own } }
      return 0
    | named => named.foldlM (fun _ a => do waitFor run (← processOf a)) 0, false, false⟩

/-- How a job is shown behind as many jobs that go on. -/
def jobLine (earlier : Nat) (j : Job) : String :=
  let text :=
    match j.late, j.signal.bind Signal.description? with
    | some _, _ => "Running"
    | none, some text => text
    | none, none => if j.status == 0 then "Done" else "Done(" ++ toString j.status ++ ")"
  let sign := if earlier == 0 then "+" else if earlier == 1 then "-" else " "
  let start := "[" ++ toString j.index ++ "] " ++ sign ++ " " ++ text
  let fill := String.ofList (List.replicate (max 1 (33 - start.length)) ' ')
  start ++ fill ++ String.join (List.replicate (j.width - 1) " | ") ++ "\n"

/-- Writes the jobs of the script, or some of them, and forgets those that have ended. -/
def jobs : Builtin := plain fun arguments => do
  let (given, named) ← options "lp" arguments
  let all ← ownJobs
  let chosen ← if named.isEmpty then pure all else named.mapM jobNamed
  for j in chosen do
    let earlier := (all.takeWhile (·.number != j.number)).countP (·.late.isSome)
    say (if given.any (·.1 == 'p') then toString j.number ++ "\n" else jobLine earlier j)
  let isForgotten (j : Job) : Bool := j.late.isNone && chosen.any (·.number == j.number)
  modify fun s => { s with jobs := s.jobs.filter (!isForgotten ·) }
  return 0

/-- Refuses to bring a job to the front, since nobody looks at one. -/
def bringForward : Builtin := plain fun _ => do
  if (← ownJobs).isEmpty then mistake "No current job"
  else mistake "job (null) not created under job control"

/-! ## Sending signals -/

/-- How the program that sends signals is used. -/
def killUsage : String :=
  "Usage: kill [-s sigspec | -signum | -sigspec] [pid | job]... or\nkill -l [exitstatus]"

/-- Does what the script does on a signal. -/
def receive (run : Command → Action Unit) (signal : Nat) : Action Unit := do
  let name := (Signal.name? signal).getD ""
  match (← environment).traps.lookup name with
  | some "" => pure ()
  | some text => if signal == 9 then throw (.killed signal) else runTrap (evaluate run) text
  | none => if signal != 0 && Signal.isDeadly signal then throw (.killed signal)

/-- Sends a signal to a process. -/
def send (run : Command → Action Unit) (signal : Nat) (a : String) : Action Nat := do
  let process ← processOf (Text.dropOnce "-" a)
  if process == processNumber then
    finish 0
    receive run signal
    return 0
  else
    match (← get).jobs.find? (·.number == process) with
    | some j =>
      if j.late.isSome then
        if signal != 0 && Signal.isDeadly signal then
          changeJob process fun j =>
            { j with late := none, status := Signal.exitCode signal, signal := some signal }
        return 0
    | none => pure ()
    warn "No such process\n"
    return 1

/-- Sends signals to processes. -/
def kill : Builtin :=
  ⟨fun run arguments => do
    let usage {α : Type} : Action α := mistake killUsage
    let sendAll (signal : Nat) (processes : List String) : Action Nat := do
      if processes.isEmpty then usage
      processes.foldlM (fun status a => return max status (← send run signal a)) 0
    let withoutEnd (processes : List String) : List String :=
      if processes.head? == some "--" then processes.drop 1 else processes
    match arguments with
    | ["-l"] =>
      say ("0\n" ++ String.join (Signal.names.map (· ++ "\n")))
      return 0
    | "-l" :: a :: _ =>
      let n ← number a
      match Signal.name? (if n > 128 then n - 128 else n) with
      | some name =>
        say (name ++ "\n")
        return 0
      | none => mistake ("invalid signal number or exit status: " ++ a)
    | "-s" :: name :: processes =>
      match (signalName? name).bind Signal.ofName? with
      | some n => sendAll n (withoutEnd processes)
      | none => mistake ("invalid signal number or name: " ++ name)
    | a :: processes =>
      match a.toList with
      | '-' :: c :: cs =>
        if a == "--" then sendAll Signal.terminate processes
        else
          match (signalName? (String.ofList (c :: cs))).bind Signal.ofName? with
          | some n => sendAll n (withoutEnd processes)
          | none => mistake ("Illegal option -" ++ String.singleton c)
      | _ => sendAll Signal.terminate (a :: processes)
    | [] => usage, false, false⟩

end Buildwright.Shell.Builtin
