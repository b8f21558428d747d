-- SUMMARY: The manual watcher: watched paths with their modes, and a queue that is filled by hand.
import Buildwright.SortedMap
import Buildwright.Watch.Event

/-!
# The manual watcher

A manual watcher sees nothing by itself: events are pushed into its queue. It keeps a record of the
paths that it was asked to watch.
-/
namespace Buildwright

/-- How far a watch of a directory reaches. -/
inductive WatchMode where
  | recursive
  | nonRecursive
  deriving DecidableEq, Repr

/-- A watcher whose events are pushed by hand. -/
structure ManualWatcher where
  queue : WatchQueue
  watched : SortedMap Path WatchMode

namespace ManualWatcher

/-- The watcher that watches nothing. -/
def empty : ManualWatcher := ⟨.empty, .empty⟩

/-- Watches a path. A recursive watch of the same path stays recursive. -/
def watch (w : ManualWatcher) (p : Path) (mode : WatchMode) : ManualWatcher :=
  let mode :=
    match w.watched.find? p with
    | some .recursive => .recursive
    | _ => mode
  { w with watched := w.watched.insert p mode }

/-- Watches a directory with everything below it. -/
def watchRoot (w : ManualWatcher) (root : Path) : ManualWatcher :=
  w.watch root .recursive

/-- Ends the watch of a path. -/
def unwatch (w : ManualWatcher) (p : Path) : ManualWatcher :=
  { w with watched := w.watched.erase p }

/-- The watched paths with their modes, in the order of the paths. -/
def watchedPaths (w : ManualWatcher) : List (Path × WatchMode) :=
  w.watched.entries

/-- Puts a message into the queue. -/
def push (w : ManualWatcher) (m : WatchMessage) : Except IoError ManualWatcher :=
  (w.queue.push m).map fun queue => { w with queue }

/-- Takes the waiting events out of the queue. -/
def poll (w : ManualWatcher) : Except IoError (List WatchEvent) × ManualWatcher :=
  let (events, queue) := w.queue.poll
  (events, { w with queue })

end ManualWatcher
end Buildwright
