-- SUMMARY: The discipline of a manual watcher's queue: bounded, closed to pushes only while it is full, first in and first out.
import Mathlib.Data.List.Flatten
import Buildwright.Proofs.Watch.Delivery

/-!
# The discipline of the queue

The queue of a manual watcher holds a limited number of messages. Pushes are refused while that many wait, and
only then, and a refused push changes nothing. A poll takes messages out from the front, all of them or those
up to the first failure. So what polls have taken out is the beginning of what was accepted, and what they
return comes in the order of acceptance and never twice.
-/
namespace Buildwright

namespace WatchQueue

variable {q : WatchQueue} {ms : List WatchMessage} {events : List WatchEvent} {e : IoError}

/-- A queue that is read and not full takes every message. -/
theorem push_of_lt (hreader : q.hasReader = true) (h : q.pending.length < capacity) (m : WatchMessage) :
    q.push m = .ok { q with pending := q.pending ++ [m] } := by
  simp [push, hreader, h]

theorem push_of_full (hreader : q.hasReader = true) (h : ¬ q.pending.length < capacity) (m : WatchMessage) :
    q.push m = .error .queueFull := by
  simp [push, hreader, h]

/-- A poll that ends well finds events alone, and takes out and returns all of them. -/
theorem drain_eq_ok (h : (drain ms).1 = .ok events) : ms = events.map .ok ∧ (drain ms).2 = [] := by
  induction ms generalizing events with
  | nil =>
    cases h
    exact ⟨rfl, rfl⟩
  | cons m rest ih =>
    cases m with
    | error e => cases h
    | ok event =>
      change (drain rest).1.map (event :: ·) = .ok events at h
      cases hrest : (drain rest).1 with
      | error e =>
        rw [hrest] at h
        cases h
      | ok others =>
        rw [hrest] at h
        cases h
        obtain ⟨hothers, hleft⟩ := ih hrest
        exact ⟨congrArg (.ok event :: ·) hothers, hleft⟩

/-- A poll that fails takes out the events in front of the first failure, and the failure. -/
theorem drain_eq_error (h : (drain ms).1 = .error e) :
    ∃ before : List WatchEvent, ms = before.map .ok ++ .error e :: (drain ms).2 := by
  induction ms with
  | nil => cases h
  | cons m rest ih =>
    cases m with
    | error e' =>
      cases h
      exact ⟨[], rfl⟩
    | ok event =>
      change (drain rest).1.map (event :: ·) = .error e at h
      cases hrest : (drain rest).1 with
      | error e' =>
        rw [hrest] at h
        cases h
        obtain ⟨before, hbefore⟩ := ih hrest
        exact ⟨event :: before, congrArg (.ok event :: ·) hbefore⟩
      | ok others =>
        rw [hrest] at h
        cases h

end WatchQueue

/-- The events that a poll returns are among the messages that it takes out, in the same order. -/
theorem PollRecord.returned_sublist_taken {p : PollRecord} (h : p.answer = (WatchQueue.drain p.waiting).1) :
    (p.returned.map Except.ok).Sublist p.taken := by
  cases ha : p.answer with
  | error e => simp [returned, ha]
  | ok events =>
    obtain ⟨hwaiting, hleft⟩ := WatchQueue.drain_eq_ok (h.symm.trans ha)
    have htaken := WatchQueue.upToFailure_append_drain p.waiting
    rw [hleft, List.append_nil] at htaken
    rw [returned, ha, taken, htaken]
    exact hwaiting ▸ .refl _

namespace WatchHistory

variable {h : WatchHistory}

/-- The reader of the queue is there, and no more messages wait than the queue may hold. -/
structure Open (h : WatchHistory) : Prop where
  hasReader : h.watcher.queue.hasReader = true
  bounded : h.pending.length ≤ WatchQueue.capacity

namespace Open

theorem push_of_lt (hh : h.Open) (hroom : h.pending.length < WatchQueue.capacity) (m : WatchMessage) :
    h.watcher.push m =
      .ok { h.watcher with queue := { h.watcher.queue with pending := h.pending ++ [m] } } := by
  rw [ManualWatcher.push, WatchQueue.push_of_lt hh.hasReader hroom]
  rfl

theorem push_of_full (hh : h.Open) (hfull : ¬ h.pending.length < WatchQueue.capacity) (m : WatchMessage) :
    h.watcher.push m = .error .queueFull := by
  rw [ManualWatcher.push, WatchQueue.push_of_full hh.hasReader hfull]
  rfl

end Open

/-- Every operation keeps the queue open. -/
theorem step_open (hh : h.Open) (op : WatchOperation) : (h.step op).Open := by
  cases op with
  | push handle m =>
    by_cases hroom : h.pending.length < WatchQueue.capacity
    · rw [step, hh.push_of_lt hroom]
      refine ⟨hh.hasReader, ?_⟩
      show (h.pending ++ [m]).length ≤ WatchQueue.capacity
      rw [List.length_append]
      exact hroom
    · rw [step, hh.push_of_full hroom]
      exact hh
  | poll =>
    refine ⟨hh.hasReader, ?_⟩
    have htaken := congrArg List.length (WatchQueue.upToFailure_append_drain h.pending)
    rw [List.length_append] at htaken
    show (WatchQueue.drain h.pending).2.length ≤ WatchQueue.capacity
    have hbounded := hh.bounded
    omega

theorem after_open (ops : List WatchOperation) : (after ops).Open :=
  List.foldlRecOn ops step ⟨rfl, Nat.zero_le _⟩ fun _ hh op _ => step_open hh op

/-- What a queue keeps to: how many messages wait, which pushes it takes, and where accepted messages are. -/
structure Disciplined (h : WatchHistory) : Prop where
  bounded : h.pending.length ≤ 1024
  /-- While fewer messages wait, a push through any handle puts its message behind them. -/
  accepts : ∀ handle m, h.pending.length < 1024 → (∃ watcher, h.watcher.push m = .ok watcher) ∧
    (h.step (.push handle m)).pending = h.pending ++ [m] ∧
    (h.step (.push handle m)).accepted = h.accepted ++ [m]
  /-- Otherwise it would have to wait, and nothing changes. -/
  refuses : ∀ handle m, ¬ h.pending.length < 1024 → ∃ e, h.watcher.push m = .error e ∧
    e.kind = .wouldBlock ∧ h.step (.push handle m) = h
  accepted_eq : h.accepted = h.polls.flatMap (·.taken) ++ h.pending
  /-- What polls have returned is accepted, in this order, and each event as often as it is returned. -/
  returned_sublist : ((h.polls.flatMap (·.returned)).map Except.ok).Sublist h.accepted
  /-- A poll that ends well returns all that waits, and nothing waits behind it. -/
  poll_ok : ∀ events watcher, h.watcher.poll = (.ok events, watcher) →
    h.pending = events.map .ok ∧ watcher.queue.pending = []
  /-- A poll that fails takes out the failure and what is in front of it, and the rest waits. -/
  poll_error : ∀ e watcher, h.watcher.poll = (.error e, watcher) →
    ∃ before : List WatchEvent, h.pending = before.map .ok ++ .error e :: watcher.queue.pending

theorem Settled.returned_sublist (hh : h.Settled) :
    ((h.polls.flatMap (·.returned)).map Except.ok).Sublist h.accepted := by
  rw [hh.accepted_eq, List.map_flatMap]
  refine List.Sublist.trans ?_ (List.sublist_append_left _ _)
  exact List.Sublist.flatMap_right h.polls fun p hp => PollRecord.returned_sublist_taken (hh.answers p hp)

end WatchHistory
end Buildwright
