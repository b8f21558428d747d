-- SUMMARY: Signals, subshells, traps, and commands that run beside the script.
import Buildwright.Shell.State

/-!
# Signals, subshells and jobs

A signal has a number and a name. The shell says of a process that a signal has ended what the signal
was, unless that is what users and readers of output do themselves.

A command in a subshell changes the disk and writes to channels, and all else that it changes does not
last. A job is a command in a subshell for which the script does not wait. A job that needs no time is
run at once; any other is late, and its effects come when the time has passed.
-/
namespace Buildwright.Shell.Signal

/-- The names of the signals from one on. -/
def names : List String :=
  ["HUP", "INT", "QUIT", "ILL", "TRAP", "ABRT", "BUS", "FPE", "KILL", "USR1", "SEGV", "USR2", "PIPE",
    "ALRM", "TERM", "STKFLT", "CHLD", "CONT", "STOP", "TSTP", "TTIN", "TTOU", "URG", "XCPU", "XFSZ",
    "VTALRM", "PROF", "WINCH", "POLL", "PWR", "SYS"]

/-- The name for what is done at the end of a script. -/
def exitName : String := "EXIT"

/-- The name of a signal; zero stands for the end of a script. -/
def name? (n : Nat) : Option String :=
  if n = 0 then some exitName else names[n - 1]?

/-- The number of a signal with a name, in which case does not count. -/
def ofName? (s : String) : Option Nat :=
  let s := s.toUpper
  if s == exitName then some 0 else (names.findIdx? (· == s)).map (· + 1)

/-- What the shell says of a process that a signal has ended. -/
def description? : Nat → Option String
  | 1 => some "Hangup"
  | 3 => some "Quit"
  | 4 => some "Illegal instruction"
  | 5 => some "Trace/breakpoint trap"
  | 6 => some "Aborted"
  | 7 => some "Bus error"
  | 8 => some "Floating point exception"
  | 9 => some "Killed"
  | 10 => some "User defined signal 1"
  | 11 => some "Segmentation fault"
  | 12 => some "User defined signal 2"
  | 14 => some "Alarm clock"
  | 15 => some "Terminated"
  | 16 => some "Stack fault"
  | 24 => some "CPU time limit exceeded"
  | 25 => some "File size limit exceeded"
  | 26 => some "Virtual timer expired"
  | 27 => some "Profiling timer expired"
  | 29 => some "I/O possible"
  | 30 => some "Power failure"
  | 31 => some "Bad system call"
  | _ => none

/-- The signal that asks a process to end. -/
def terminate : Nat := 15

/-- The signal of a process whose output nothing reads. -/
def brokenPipe : Nat := 13

/-- The exit code that stands for the end by a signal. -/
def exitCode (n : Nat) : Nat := 128 + n

/-- Whether a signal ends a process that does not expect it. -/
def isDeadly (n : Nat) : Bool := !([17, 18, 19, 20, 21, 22, 23, 28].contains n)

end Buildwright.Shell.Signal

namespace Buildwright.Shell

namespace Action

/-! ## Time -/

/-- Goes to a point in time. -/
def moveToTime (elapsed : Nat) : Action Unit :=
  modify fun s => { s with
    elapsed
    disk := { s.disk with now := s.disk.now + ((elapsed : Int) - (s.elapsed : Int)) * 1000000 } }

/-- Runs a computation for at most a number of milliseconds and the commands that may be run in them; there
    is no result if that is too little. -/
def within {α : Type} (milliseconds : Nat) (m : Action α) : Action (Option α) := do
  let before ← get
  let stop := before.elapsed + milliseconds
  match before.deadline with
  | some d => if d ≤ stop then return some (← m)
  | none => pure ()
  let share := min before.budget (commandsIn milliseconds)
  set { before with deadline := some stop, budget := share }
  let restore : Action Unit := modify fun s => { s with
    deadline := before.deadline
    budget := before.budget - share + s.budget }
  let a ← tryCatch (some <$> m) fun j => do
    restore
    match j with
    | .late | .endless =>
      moveToTime stop
      modify fun s => { s with
        environment := before.environment
        jobs := before.jobs
        disk := { s.disk with workingDirectory := before.disk.workingDirectory } }
      return none
    | j => throw j
  restore
  return a

/-! ## Traps -/

/-- Runs what is to be done on a signal. The exit code is what it was before, unless the script is left;
    `evaluate` runs the text. -/
def runTrap (evaluate : String → Action Unit) (text : String) : Action Unit := do
  let before ← environment
  let restore : Action Unit := alter fun e => { e with trapped := before.trapped, asked := before.asked }
  alter fun e => { e with trapped := some (e.trapped.getD e.status), asked := false }
  tryCatch (evaluate text) fun j => do
    restore
    throw j
  restore
  finish before.status

/-- Runs what is to be done at the end of a script. -/
def runExitTrap (evaluate : String → Action Unit) : Action Unit := do
  let e ← environment
  match e.traps.lookup Signal.exitName with
  | none | some "" => pure ()
  | some text =>
    alter fun e => { e with traps := e.traps.filter (·.1 != Signal.exitName), trapped := none }
    tryCatch (runTrap evaluate text) fun j =>
      match j with
      | .mistake => finish e.status
      | .exit | .back | .leave _ | .next _ => pure ()
      | j => throw j

/-- Runs a script up to its end, and then what is to be done at the end. -/
def upToExit (evaluate : String → Action Unit) (body : Action Unit) : Action Unit := do
  tryCatch body fun j =>
    match j with
    | .exit | .mistake | .back | .leave _ | .next _ => pure ()
    | j => throw j
  runExitTrap evaluate

/-- Runs a process to its end; the result is the signal that has ended it. -/
def process (body : Action Unit) : Action (Option Nat) :=
  tryCatch (do body; return none) fun j => do
    match j with
    | .unread =>
      finish (Signal.exitCode Signal.brokenPipe)
      return some Signal.brokenPipe
    | .killed n =>
      finish (Signal.exitCode n)
      return some n
    | .late | .endless => throw j
    | _ => return none

/-! ## Subshells -/

/-- The jobs of which a subshell leaves the rest to the script that has started it. -/
def leftBehind (jobs : List Job) : List Job :=
  (jobs.filter (·.late.isSome)).map fun j => { j with own := false }

/-- Runs a process of which nothing lasts but what it does to the disk, the channels and the time, and
    its exit code. -/
def apart (body : Action Unit) : Action (Option Nat) := do
  let before ← get
  set { before with jobs := [] }
  let signal ← process body
  let s ← get
  set { s with
    disk := { s.disk with workingDirectory := before.disk.workingDirectory }
    environment := { before.environment with status := s.environment.status }
    jobs := before.jobs ++ leftBehind s.jobs }
  return signal

/-- Runs a command in a subshell. Of the traps, only those remain that ignore a signal. -/
def inSubshell (evaluate : String → Action Unit) (body : Action Unit) : Action Unit := do
  let signal ← apart do
    alter fun e => { e with traps := e.traps.filter (·.2 == ""), trapped := none }
    upToExit evaluate body
  match signal.bind Signal.description? with
  | some text => complain (text ++ "\n")
  | none => pure ()

/-! ## Late jobs -/

/-- The streams that a command leads elsewhere at once. -/
def ledElsewhere : Command → List Nat
  | .simple _ _ _ rs | .redirected _ _ rs => rs.map (·.stream)
  | _ => []

/-- Whether a late job writes to a channel. -/
def writesTo (channel : Nat) (s : Start) : Bool :=
  let others := ledElsewhere s.command
  s.environment.streams.any fun x => x.2 == channel && x.1 != 0 && !others.contains x.1

/-- Runs a late job up to its end, and gives its exit code; `run` runs its command. -/
def runStart (run : Command → Action Unit) (start : Start) : Action (Nat × Option Nat) := do
  let before ← get
  set { before with
    environment := start.environment
    disk := { before.disk with workingDirectory := start.directory } }
  moveToTime start.elapsed
  let signal ← apart do
    alter fun e => { e with traps := e.traps.filter (·.2 == ""), trapped := none }
    run start.command
  let s ← get
  set { s with
    environment := before.environment
    disk := { s.disk with workingDirectory := before.disk.workingDirectory } }
  return (s.environment.status, signal)

/-- The number of commands that a job may run before it counts as one that does not end. -/
def mostBeside : Nat := 300000

/-- The time at which a late job ends, if that is before a certain time. -/
def endOf? (run : Command → Action Unit) (bound : Nat) (start : Start) : Action (Option Nat) := fun s =>
  let budget := min (min s.budget mostBeside) (commandsIn (bound - start.elapsed))
  match runStart run start { s with deadline := some bound, budget } with
  | .ok _ after => .ok (some after.elapsed) s
  | .error _ _ => .ok none s

/-- The late job that ends first before a certain time, among those for which `p` holds, with the time of
    its end. -/
def firstLate? (run : Command → Action Unit) (p : Job → Bool) (bound : Nat) :
    Action (Option (Job × Start × Nat)) := do
  let found ← (← get).jobs.filterMapM fun j => do
    match j.late with
    | some start =>
      if p j then return (← endOf? run bound start).map fun t => (j, start, t) else return none
    | none => return none
  return found.foldl (fun best x =>
    match best with
    | some b => if x.2.2 ≤ b.2.2 then some x else best
    | none => some x) none

/-- Runs late jobs in the order in which they end, at most `n` of them: those for which `p` holds and
    which end before a certain time. -/
def settle (run : Command → Action Unit) (p : Job → Bool) (bound : Nat) : Nat → Action Unit
  | 0 => pure ()
  | n + 1 => do
    match ← firstLate? run p bound with
    | none => pure ()
    | some (j, start, _) =>
      let now := (← get).elapsed
      let (status, signal) ← runStart run start
      moveToTime (max now (← get).elapsed)
      modify fun s => { s with
        jobs := s.jobs.map fun other =>
          if other.number == j.number then { other with status, late := none, signal } else other }
      settle run p bound n

/-- The number of milliseconds for which jobs are waited for at most. -/
def patience : Nat := 3600000

/-- Runs all late jobs for which `p` holds, and waits for them. -/
def settleAll (run : Command → Action Unit) (p : Job → Bool) : Action Unit := do
  let s ← get
  settle run p (s.deadline.getD (s.elapsed + patience)) s.jobs.length
  if (← get).jobs.any fun j => p j && j.late.isSome then throw .endless

/-- Runs the late jobs that have ended by now. -/
def catchUp (run : Command → Action Unit) : Action Unit := do
  let s ← get
  if s.jobs.any (·.late.isSome) then settle run (fun _ => true) (s.elapsed + 1) s.jobs.length

/-- Waits for what still writes to a channel. -/
def waitForWriters (run : Command → Action Unit) (channel : Nat) : Action Unit := do
  let s ← get
  if s.jobs.any (·.late.isSome) then
    settleAll run fun j =>
      match j.late with
      | some start => writesTo channel start
      | none => false

/-! ## Starting jobs -/

/-- The number of finished jobs that are remembered. -/
def rememberedJobs : Nat := 100

/-- The place of a new job: the first one that is free, or whose job the script has waited for. -/
def nextIndex (jobs : List Job) : Nat :=
  let isTaken (k : Nat) : Bool := jobs.any fun j => j.own && j.index == k && !j.isAwaited
  (((List.range (jobs.length + 1)).map (· + 1)).find? (!isTaken ·)).getD 1

/-- The number of processes of a command. -/
def processCount : Command → Nat
  | .pipeline cs => cs.length
  | _ => 1

/-- Starts a command for which nothing waits; it reads nothing. It runs at once if it takes no time, and
    is late otherwise. -/
def startJob (run : Command → Action Unit) (c : Command) : Action Unit := do
  let nothing ← open_ .nowhere
  let before ← get
  let e := before.environment
  let start : Start :=
    ⟨c, { e with streams := withStream 0 nothing e.streams, asked := false },
      before.disk.workingDirectory, before.elapsed⟩
  let number := before.nextProcess
  let index := nextIndex before.jobs
  let width := processCount c
  let share := min before.budget mostBeside
  let done? : Option (Job × State) :=
    match runStart run start { before with deadline := some (before.elapsed + 1), budget := share } with
    | .ok (status, signal) s =>
      if s.elapsed == before.elapsed then
        some ({ number, index, status, late := none, signal, width },
          { s with deadline := before.deadline, budget := before.budget - share + s.budget })
      else none
    | .error _ _ => none
  let (j, s) := done?.getD ({ number, index, status := 0, late := some start, width }, before)
  let others := s.jobs.filter fun j => !j.own || j.index != index
  set { s with jobs := j :: others.take rememberedJobs, nextProcess := max s.nextProcess (number + 1) }
  alter fun e => { e with lastJob := some number }

end Action
end Buildwright.Shell
