-- SUMMARY: What becomes of the messages that a manual watcher accepts, whatever the order of pushes and polls.
import Mathlib.Data.List.Perm.Basic
import Buildwright.Watch.Manual

/-!
# Delivery of events

Messages are pushed into the queue of a manual watcher through any of its handles, and polls take them
out again. Each accepted message is in one place: some poll has taken it out, or it is still waiting. A
poll that ends well returns all that it has taken out. A poll that comes upon a failure returns the
failure alone, so that the events in front of it reach nobody.
-/
namespace Buildwright

/-- The events among messages. -/
def eventsOf (ms : List WatchMessage) : List WatchEvent :=
  ms.filterMap Except.toOption

theorem eventsOf_append (ms ms' : List WatchMessage) :
    eventsOf (ms ++ ms') = eventsOf ms ++ eventsOf ms' :=
  List.filterMap_append

theorem eventsOf_flatMap {α : Type} (f : α → List WatchMessage) (l : List α) :
    eventsOf (l.flatMap f) = l.flatMap fun a => eventsOf (f a) :=
  List.filterMap_flatMap

/-! ## One poll -/

namespace WatchQueue

/-- The messages up to the first failure, which is the last of them. -/
def upToFailure : List WatchMessage → List WatchMessage
  | [] => []
  | .error e :: _ => [.error e]
  | .ok event :: rest => .ok event :: upToFailure rest

theorem upToFailure_append_drain (ms : List WatchMessage) :
    upToFailure ms ++ (drain ms).2 = ms := by
  induction ms with
  | nil => rfl
  | cons m rest ih =>
    cases m with
    | error e => rfl
    | ok event => exact congrArg (.ok event :: ·) ih

/-- A poll that ends well returns the events that it takes out. -/
theorem eventsOf_upToFailure {ms : List WatchMessage} {events : List WatchEvent}
    (h : (drain ms).1 = .ok events) : eventsOf (upToFailure ms) = events := by
  induction ms generalizing events with
  | nil =>
    cases h
    rfl
  | cons m rest ih =>
    cases m with
    | error e => cases h
    | ok event =>
      change Except.map (event :: ·) (drain rest).1 = .ok events at h
      cases hrest : (drain rest).1 with
      | error e =>
        rw [hrest] at h
        cases h
      | ok others =>
        rw [hrest] at h
        cases h
        exact congrArg (event :: ·) (ih hrest)

/-- A poll that comes upon a failure takes no event out exactly if nothing stands before the failure. -/
theorem eventsOf_upToFailure_eq_nil_iff {ms : List WatchMessage} {e : IoError}
    (h : (drain ms).1 = .error e) :
    eventsOf (upToFailure ms) = [] ↔ ms.head? = some (.error e) := by
  cases ms with
  | nil => cases h
  | cons m rest =>
    cases m with
    | error e' =>
      cases h
      exact ⟨fun _ => rfl, fun _ => rfl⟩
    | ok event =>
      constructor
      · intro hnil
        cases hnil
      · intro hhead
        cases hhead

end WatchQueue

/-- A poll: the messages that were waiting, and the answer. -/
structure PollRecord where
  waiting : List WatchMessage
  answer : Except IoError (List WatchEvent)

namespace PollRecord

open WatchQueue

/-- The messages that a poll takes out of the queue. -/
def taken (p : PollRecord) : List WatchMessage :=
  upToFailure p.waiting

/-- The events that a poll returns. -/
def returned (p : PollRecord) : List WatchEvent :=
  match p.answer with
  | .ok events => events
  | .error _ => []

/-- The events that a poll takes out of the queue and does not return. -/
def lost (p : PollRecord) : List WatchEvent :=
  match p.answer with
  | .ok _ => []
  | .error _ => eventsOf p.taken

theorem eventsOf_taken {p : PollRecord} (h : p.answer = (drain p.waiting).1) :
    eventsOf p.taken = p.returned ++ p.lost := by
  cases ha : p.answer with
  | ok events =>
    rw [returned, lost, ha, List.append_nil]
    exact eventsOf_upToFailure (h.symm.trans ha)
  | error e => rw [returned, lost, ha, List.nil_append]

theorem lost_eq_nil_iff {p : PollRecord} (h : p.answer = (drain p.waiting).1) :
    p.lost = [] ↔ ∀ e, p.answer = .error e → p.waiting.head? = some (.error e) := by
  cases ha : p.answer with
  | ok events => simp [lost, ha]
  | error e =>
    have hiff := eventsOf_upToFailure_eq_nil_iff (h.symm.trans ha)
    simpa [lost, ha, taken] using hiff

end PollRecord

/-! ## Histories -/

/-- What happens to the queue of a manual watcher. All handles of a watcher share its queue, and the
    number of a handle only says who pushes. -/
inductive WatchOperation where
  | push (handle : Nat) (m : WatchMessage)
  | poll

/-- A manual watcher, with the messages that its queue has accepted and the polls of it, oldest first. -/
structure WatchHistory where
  watcher : ManualWatcher
  accepted : List WatchMessage
  polls : List PollRecord

namespace WatchHistory

/-- The history after one more operation. A refused push leaves no trace. -/
def step (h : WatchHistory) : WatchOperation → WatchHistory
  | .push _ m =>
    match h.watcher.push m with
    | .ok watcher => { h with watcher, accepted := h.accepted ++ [m] }
    | .error _ => h
  | .poll =>
    { h with
      watcher := h.watcher.poll.2
      polls := h.polls ++ [⟨h.watcher.queue.pending, h.watcher.poll.1⟩] }

/-- The history of a new watcher after operations. -/
def after (ops : List WatchOperation) : WatchHistory :=
  ops.foldl step ⟨.empty, [], []⟩

/-- The messages that wait. -/
def pending (h : WatchHistory) : List WatchMessage :=
  h.watcher.queue.pending

/-- Each accepted event is either waiting or has been returned, once, by a poll that ended well. -/
def KeepsEvents (h : WatchHistory) : Prop :=
  eventsOf h.accepted = h.polls.flatMap (·.returned) ++ eventsOf h.pending

/-- Each accepted message is in one place: taken out by one of the polls, whose answer is the one that
    draining gives, or still waiting. -/
structure Settled (h : WatchHistory) : Prop where
  accepted_eq : h.accepted = h.polls.flatMap (·.taken) ++ h.pending
  answers : ∀ p ∈ h.polls, p.answer = (WatchQueue.drain p.waiting).1

theorem pending_of_push {w w' : ManualWatcher} {m : WatchMessage} (h : w.push m = .ok w') :
    w'.queue.pending = w.queue.pending ++ [m] := by
  unfold ManualWatcher.push WatchQueue.push at h
  split at h
  · cases h
  · split at h
    · cases h
      rfl
    · cases h

/-- Every operation keeps accepted messages in their places. -/
theorem step_settled {h : WatchHistory} (hh : h.Settled) (op : WatchOperation) :
    (h.step op).Settled := by
  cases op with
  | push handle m =>
    cases hpush : h.watcher.push m with
    | error e =>
      rw [step, hpush]
      exact hh
    | ok w =>
      rw [step, hpush]
      refine ⟨?_, hh.answers⟩
      show h.accepted ++ [m] = _ ++ w.queue.pending
      rw [pending_of_push hpush, hh.accepted_eq, List.append_assoc]
      rfl
  | poll =>
    constructor
    · show h.accepted = (h.polls ++ [_]).flatMap PollRecord.taken ++ (WatchQueue.drain h.pending).2
      rw [hh.accepted_eq, List.flatMap_append, List.flatMap_singleton, List.append_assoc]
      exact congrArg _ (WatchQueue.upToFailure_append_drain h.pending).symm
    · intro p hp
      rcases List.mem_append.1 hp with hp | hp
      · exact hh.answers p hp
      · rw [List.mem_singleton.1 hp]
        rfl

theorem after_settled (ops : List WatchOperation) : (after ops).Settled :=
  List.foldlRecOn ops step ⟨rfl, fun _ hp => by cases hp⟩ fun _ hh op _ => step_settled hh op

/-! ## Events that are kept -/

namespace Settled

variable {h : WatchHistory}

theorem eventsOf_accepted (hh : h.Settled) :
    eventsOf h.accepted =
      (h.polls.flatMap fun p => p.returned ++ p.lost) ++ eventsOf h.pending := by
  rw [hh.accepted_eq, eventsOf_append, eventsOf_flatMap]
  congr 1
  exact List.flatMap_congr fun p hp => PollRecord.eventsOf_taken (hh.answers p hp)

/-- A history keeps its events exactly if no poll has lost any. -/
theorem keepsEvents_iff (hh : h.Settled) : h.KeepsEvents ↔ ∀ p ∈ h.polls, p.lost = [] := by
  rw [KeepsEvents, hh.eventsOf_accepted, List.append_cancel_right_eq]
  constructor
  · intro heq
    -- What is returned and what is lost together are no more than what is returned.
    have hperm := List.flatMap_append_perm h.polls (·.returned) (·.lost)
    have hlength := hperm.length_eq
    rw [← heq, List.length_append, Nat.add_eq_left] at hlength
    exact List.flatMap_eq_nil_iff.1 (List.eq_nil_of_length_eq_zero hlength)
  · intro hlost
    apply List.flatMap_congr
    intro p hp
    rw [hlost p hp, List.append_nil]

end Settled

/-- Whatever the operations on a watcher, each accepted message is in exactly one place, in the order of
    acceptance. All accepted events are still waiting or have been returned exactly if every poll that
    failed found its failure in front of all other messages. -/
theorem keepsEvents_after_iff (ops : List WatchOperation) :
    (after ops).accepted = (after ops).polls.flatMap (·.taken) ++ (after ops).pending ∧
    ((after ops).KeepsEvents ↔
      ∀ p ∈ (after ops).polls, ∀ e, p.answer = .error e → p.waiting.head? = some (.error e)) := by
  have hh := after_settled ops
  refine ⟨hh.accepted_eq, ?_⟩
  rw [hh.keepsEvents_iff]
  exact forall₂_congr fun p hp => PollRecord.lost_eq_nil_iff (hh.answers p hp)

/-- A change is pushed, then a failure, and the queue is polled. -/
def failureBehindChange : List WatchOperation :=
  [.push 0 (.ok (.changes [⟨⟨"/p/A.java"⟩, .modified⟩])), .push 1 (.error (.other "boom")), .poll]

/-- Both messages were accepted, the queue is empty again, and no poll has returned the change. -/
theorem not_keepsEvents_failureBehindChange :
    (after failureBehindChange).accepted.length = 2 ∧ (after failureBehindChange).pending = [] ∧
    (after failureBehindChange).polls.flatMap (·.returned) = [] ∧
    ¬ (after failureBehindChange).KeepsEvents := by
  refine ⟨rfl, rfl, rfl, ?_⟩
  intro hkeeps
  cases hkeeps

end WatchHistory
end Buildwright
