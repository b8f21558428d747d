-- SUMMARY: Loops, pipelines and captured output, whatever the commands in them are.
import Buildwright.Shell.Evaluation

/-!
# Control

What surrounds commands: rounds of loops, commands whose failure is asked for, commands that read what
others write, and commands whose output is used. All of it is stated for any way of running a command.
-/
namespace Buildwright.Shell

open Shell.Action

/-! ## Failure -/

/-- Runs a command whose failure is asked for. -/
def asking (body : Action Unit) : Action Unit := do
  let before := (← environment).asked
  let restore : Action Unit := alter fun e => { e with asked := before }
  alter fun e => { e with asked := true }
  tryCatch body fun j => do
    restore
    throw j
  restore

/-- Ends a strict script if the last command has failed and nothing has asked for that. -/
def heedFailure : Action Unit := do
  let e ← environment
  if e.options.contains 'e' && !e.asked && e.status != 0 then throw .exit

/-! ## Loops -/

/-- How a round of a loop ends. -/
inductive Round where
  | ended
  /-- The loop goes on with the next round. -/
  | again
  /-- The loop ends. -/
  | stopped
  deriving DecidableEq

/-- Runs a part of a round. -/
def inRound (body : Action Unit) : Action Round :=
  tryCatch (do body; return .ended) fun j =>
    match j with
    | .leave 1 => return .stopped
    | .leave (n + 2) => throw (.leave (n + 1))
    | .next 1 => return .again
    | .next (n + 2) => throw (.next (n + 1))
    | j => throw j

/-- Runs a loop. -/
def inLoop (body : Action Unit) : Action Unit := do
  let before := (← environment).loops
  let restore : Action Unit := alter fun e => { e with loops := before }
  alter fun e => { e with loops := e.loops + 1 }
  tryCatch body fun j => do
    restore
    throw j
  restore

/-- Repeats a body for at most `n` rounds, as long as a condition succeeds, or fails if `negated` holds;
    `status` is the exit code of the rounds so far. -/
def repeatWhile (negated : Bool) (condition body : Action Unit) : Nat → Nat → Action Unit
  | 0, _ => throw .endless
  | n + 1, status => do
    match ← inRound (asking condition) with
    | .stopped => finish status
    | .again => repeatWhile negated condition body n status
    | .ended =>
      if ((← environment).status == 0) == negated then finish status
      else
        let r ← inRound body
        if r == .stopped then return ()
        repeatWhile negated condition body n (← environment).status

/-- Runs a body for each of some values, as long as the loop goes on. -/
def forEach (body : String → Action Unit) : List String → Action Unit
  | [] => pure ()
  | value :: rest => do
    if (← inRound (body value)) != .stopped then forEach body rest

/-! ## Output -/

/-- What a command in a subshell writes. Its exit code is kept apart from that of the last command. -/
def outputOf (run : Command → Action Unit) (c : Command) : Action Bytes := do
  let before ← environment
  let body : Action Unit := do
    inSubshell (evaluate run) do
      alter fun e => { e with asked := false }
      run c
    match ← channelOf? 1 with
    | some channel => waitForWriters (runToExit run) channel
    | none => pure ()
  let ((), b) ← captured body
  alter fun e => { e with status := before.status, outputStatus := e.status }
  return b

/-! ## Pipelines -/

/-- Whether a channel has no room left. -/
def isFull (s : State) (channel : Nat) : Bool := room? s channel == some 0

/-- Whether more has been asked of a channel than there was in it. -/
def isExhausted (s : State) (channel : Nat) : Bool :=
  match s.channels[channel]? with
  | some (.pipe _ _ ended _) => ended
  | _ => false

/-- What is known of the bytes that go through a pipeline. -/
structure Flow where
  /-- Whether a command had more to write than there was room for. -/
  isCut : Bool := false
  /-- Whether a command has read all that was left of what another one had to write. -/
  isDoubtful : Bool := false
  /-- Whether the last command has done so, or the last one that has filled the room behind it. -/
  isShort : Bool := false
  /-- What has been read from each command, the last one first. -/
  taken : List Bytes := []

/-- What has been read from a channel. -/
def takenFrom (s : State) (channel : Nat) : Bytes :=
  match s.channels[channel]? with
  | some (.pipe content taken _ _) => content.extract 0 taken
  | _ => ByteArray.empty

/-- Runs commands one after the other, each in a subshell that reads what the one before it writes. -/
def runStages (run : Command → Action Unit) (limit began : Nat) :
    Option Nat → Flow → List Command → Action Flow
  | _, flow, [] => return flow
  | input, flow, c :: rest => do
    let before := (← environment).streams
    let output ← if rest.isEmpty then pure none else some <$> open_ (.pipe ByteArray.empty 0 false (some limit))
    let late := (← get).elapsed
    moveToTime began
    inSubshell (evaluate run) do
      match input with
      | some n => connect 0 n
      | none => pure ()
      match output with
      | some n => connect 1 n
      | none => pure ()
      run c
    match output with
    | some n => waitForWriters (runToExit run) n
    | none => pure ()
    alter fun e => { e with streams := before }
    moveToTime (max late (← get).elapsed)
    let s ← get
    let lacks := flow.isShort && input.any (isExhausted s)
    let isFull := output.any (isFull s)
    runStages run limit began output
      { isCut := flow.isCut || isFull
        isDoubtful := flow.isDoubtful || lacks
        isShort := lacks || isFull
        taken := (input.map (takenFrom s)).toList ++ flow.taken } rest

/-- The room between the commands of a pipeline. -/
def pipeRoom : Nat := 65536

/-- The room in which all that the commands of a pipeline have to write is looked for. -/
def ampleRoom : Nat := 1048576

/-- Runs a pipeline with so much room that nothing is cut, if that can be done. -/
def runUncut (run : Command → Action Unit) (cs : List Command) (before : State) : Action Bool := do
  tryCatch (do return !(← runStages run ampleRoom before.elapsed none {} cs).isCut) fun j =>
    match j with
    | .endless | .late => return false
    | j => throw j

/-- Runs a pipeline with ever more room, as long as the last command would have read more than there was. -/
def runWithRoom (run : Command → Action Unit) (cs : List Command) (before : State) :
    List Nat → Action Unit
  | [] => throw .endless
  | room :: more => do
    set before
    if (← runStages run room before.elapsed none {} cs).isShort then runWithRoom run cs before more

/-- Runs a pipeline. If a command has read all of what has been cut short, what it has made of that counts
    only if more room makes no difference to what is read of it. -/
def runPipeline (run : Command → Action Unit) (cs : List Command) : Action Unit := do
  let before ← get
  let flow ← runStages run pipeRoom before.elapsed none {} cs
  if flow.isShort then runWithRoom run cs before [ampleRoom, 16 * ampleRoom]
  else if flow.isDoubtful then
    set before
    if !(← runUncut run cs before) then
      set before
      let again ← runStages run (2 * pipeRoom) before.elapsed none {} cs
      if again.isShort || again.taken != flow.taken then
        runWithRoom run cs before [ampleRoom, 16 * ampleRoom]
  modify fun s =>
    if s.jobs.any (·.late.isSome) then s
    else { s with channels := s.channels.extract 0 before.channels.size }

end Buildwright.Shell
