-- SUMMARY: File changes, watch events, and the queue that carries them from a watcher to its reader.
import Buildwright.Disk.Error
import Buildwright.Path

/-!
# Watch events

A watcher reports groups of file changes, or that it has lost some and everything has to be looked
at again. Its messages, events and failures, wait in a queue of limited capacity until a poll takes
them out in the order of their arrival.
-/
namespace Buildwright

/-- What happened to a file. -/
inductive ChangeKind where
  | created
  | modified
  | deleted
  deriving DecidableEq, Repr

/-- A change to one file. -/
structure FileChange where
  path : Path
  kind : ChangeKind
  deriving DecidableEq, Repr

/-- What a watcher reports. -/
inductive WatchEvent where
  /-- The given files have changed. -/
  | changes (changes : List FileChange)
  /-- Changes may have gone unreported. -/
  | rescan
  deriving DecidableEq, Repr

/-- The changes that an event names. -/
def WatchEvent.files : WatchEvent → List FileChange
  | changes cs => cs
  | rescan => []

/-- A message of a watcher: an event, or a failure of the watcher. -/
abbrev WatchMessage := Except IoError WatchEvent

/-- The messages that wait for a reader, oldest first, and whether there still is a reader. -/
structure WatchQueue where
  pending : List WatchMessage
  hasReader : Bool

namespace WatchQueue

/-- The number of messages that a queue holds at most. -/
def capacity : Nat := 1024

/-- The queue in which nothing waits. -/
def empty : WatchQueue := ⟨[], true⟩

/-- The queue with one more message, unless it is full or nobody reads it. -/
def push (q : WatchQueue) (m : WatchMessage) : Except IoError WatchQueue :=
  if !q.hasReader then .error .queueClosed
  else if q.pending.length < capacity then .ok { q with pending := q.pending ++ [m] }
  else .error .queueFull

/-- The queue after its reader has gone. -/
def close (_ : WatchQueue) : WatchQueue := ⟨[], false⟩

/-- Takes messages out until a failure comes or none is left: the events taken, or the failure, and
    what remains. Events that are taken out in front of a failure are not part of the answer. -/
def drain : List WatchMessage → Except IoError (List WatchEvent) × List WatchMessage
  | [] => (.ok [], [])
  | .error e :: rest => (.error e, rest)
  | .ok event :: rest =>
    let (events, remaining) := drain rest
    (events.map (event :: ·), remaining)

/-- All events that wait, or the first failure among the messages, and the queue afterwards. -/
def poll (q : WatchQueue) : Except IoError (List WatchEvent) × WatchQueue :=
  let (events, remaining) := drain q.pending
  (events, { q with pending := remaining })

end WatchQueue
end Buildwright
