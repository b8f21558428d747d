-- SUMMARY: Which paths a manual watcher watches, and how far each watch reaches, after any history of calls.
import Buildwright.Proofs.Entries
import Buildwright.Proofs.Path
import Buildwright.Watch.Manual

/-!
# Watched paths

A path counts as one however it is spelled. Whether a manual watcher watches it, and how far, is decided by the
calls since it was last unwatched: it is watched if any of them asked for it, and with everything below it if
any of them asked for that. What happens to other paths does not matter.
-/
namespace Buildwright

/-- A call that changes what a manual watcher watches. -/
inductive WatchCall where
  | watch (p : Path) (mode : WatchMode)
  | watchRoot (root : Path)
  | unwatch (p : Path)

namespace WatchCall

variable {p : Path} {call : WatchCall} {calls : List WatchCall} {asks : WatchCall → Prop}

/-- A call asks to watch a path, however it is spelled and however far. -/
def Watches (p : Path) : WatchCall → Prop
  | watch q _ => q.same p = true
  | watchRoot q => q.same p = true
  | unwatch _ => False

/-- A call asks to watch a path with everything below it. -/
def WatchesBelow (p : Path) : WatchCall → Prop
  | watch q mode => q.same p = true ∧ mode = .recursive
  | watchRoot q => q.same p = true
  | unwatch _ => False

/-- A call ends the watch of a path. -/
def Unwatches (p : Path) : WatchCall → Prop
  | unwatch q => q.same p = true
  | _ => False

/-- Among the calls behind the last that ended the watch of a path, there is one that asks for something. -/
def Since (p : Path) (asks : WatchCall → Prop) (calls : List WatchCall) : Prop :=
  ∃ before call after, calls = before ++ call :: after ∧ asks call ∧ ∀ later ∈ after, ¬ later.Unwatches p

theorem not_since_nil : ¬ Since p asks [] := by
  rintro ⟨before, call, after, hcalls, -⟩
  simp at hcalls

/-- The last call decides, or leaves the decision to those before it. -/
theorem since_concat : Since p asks (calls ++ [call]) ↔
    asks call ∨ ¬ call.Unwatches p ∧ Since p asks calls := by
  constructor
  · rintro ⟨before, first, after, hcalls, hasks, hkept⟩
    cases after using List.reverseRecOn with
    | nil =>
      obtain ⟨-, hlast⟩ := List.append_inj' hcalls rfl
      rw [List.singleton_inj.1 hlast]
      exact .inl hasks
    | append_singleton after last =>
      rw [← List.cons_append, ← List.append_assoc] at hcalls
      obtain ⟨rfl, hlast⟩ := List.append_inj' hcalls rfl
      obtain rfl := List.singleton_inj.1 hlast
      refine .inr ⟨hkept call (by simp), before, first, after, rfl, hasks, fun later hlater => ?_⟩
      exact hkept later (List.mem_append_left _ hlater)
  · rintro (hasks | ⟨hkept, before, first, after, rfl, hasks, hlater⟩)
    · exact ⟨calls, call, [], rfl, hasks, fun later hmem => absurd hmem List.not_mem_nil⟩
    · refine ⟨before, first, after ++ [call], by simp, hasks, fun later hmem => ?_⟩
      rcases List.mem_append.1 hmem with hmem | hmem
      · exact hlater later hmem
      · rwa [List.mem_singleton.1 hmem]

end WatchCall

namespace ManualWatcher

variable {w : ManualWatcher} {p q : Path} {mode : WatchMode}

/-- The watcher after one more call. -/
def step (w : ManualWatcher) : WatchCall → ManualWatcher
  | .watch p mode => w.watch p mode
  | .watchRoot root => w.watchRoot root
  | .unwatch p => w.unwatch p

/-- A new watcher after calls. -/
def after (calls : List WatchCall) : ManualWatcher :=
  calls.foldl step empty

/-- A watch sets the mode of its own path, and of no other. -/
theorem find?_watch : (w.watch q mode).watched.find? p =
    if q.same p = true then
      some (if w.watched.find? p = some .recursive then .recursive else mode)
    else w.watched.find? p := by
  simp only [watch, SortedMap.find?_insert, Path.same_iff]
  by_cases hp : compare p q = .eq
  · rw [if_pos hp, if_pos hp, SortedMap.find?_congr hp]
    rcases w.watched.find? q with - | (- | -) <;> rfl
  · rw [if_neg hp, if_neg hp]

theorem find?_unwatch : (w.unwatch q).watched.find? p =
    if q.same p = true then none else w.watched.find? p := by
  simp only [unwatch, SortedMap.find?_erase, Path.same_iff]

/-- A path is watched behind a call if the call asks for it, or if it was watched and still is. -/
theorem find?_step_ne_none (call : WatchCall) : (w.step call).watched.find? p ≠ none ↔
    call.Watches p ∨ ¬ call.Unwatches p ∧ w.watched.find? p ≠ none := by
  cases call with
  | watch q mode =>
    rw [step, find?_watch]
    by_cases hq : q.same p = true <;> simp [WatchCall.Watches, WatchCall.Unwatches, hq]
  | watchRoot q =>
    rw [step, watchRoot, find?_watch]
    by_cases hq : q.same p = true <;> simp [WatchCall.Watches, WatchCall.Unwatches, hq]
  | unwatch q =>
    rw [step, find?_unwatch]
    by_cases hq : q.same p = true <;> simp [WatchCall.Watches, WatchCall.Unwatches, hq]

theorem find?_step_eq_recursive (call : WatchCall) : (w.step call).watched.find? p = some .recursive ↔
    call.WatchesBelow p ∨ ¬ call.Unwatches p ∧ w.watched.find? p = some .recursive := by
  cases call with
  | watch q mode =>
    rw [step, find?_watch]
    by_cases hq : q.same p = true
    · by_cases hbefore : w.watched.find? p = some .recursive
      · simp [WatchCall.WatchesBelow, WatchCall.Unwatches, hq, hbefore]
      · simp [WatchCall.WatchesBelow, WatchCall.Unwatches, hq, hbefore]
    · simp [WatchCall.WatchesBelow, WatchCall.Unwatches, hq]
  | watchRoot q =>
    rw [step, watchRoot, find?_watch]
    by_cases hq : q.same p = true <;> simp [WatchCall.WatchesBelow, WatchCall.Unwatches, hq]
  | unwatch q =>
    rw [step, find?_unwatch]
    by_cases hq : q.same p = true <;> simp [WatchCall.WatchesBelow, WatchCall.Unwatches, hq]

theorem find?_after_ne_none (calls : List WatchCall) : (after calls).watched.find? p ≠ none ↔
    WatchCall.Since p (·.Watches p) calls := by
  induction calls using List.reverseRecOn with
  | nil => exact iff_of_false (fun h => h rfl) WatchCall.not_since_nil
  | append_singleton calls call ih =>
    rw [after, List.foldl_append, List.foldl_cons, List.foldl_nil, ← after, find?_step_ne_none, ih,
      WatchCall.since_concat]

theorem find?_after_eq_recursive (calls : List WatchCall) :
    (after calls).watched.find? p = some .recursive ↔ WatchCall.Since p (·.WatchesBelow p) calls := by
  induction calls using List.reverseRecOn with
  | nil => exact iff_of_false (by simp [after, empty, SortedMap.find?_empty]) WatchCall.not_since_nil
  | append_singleton calls call ih =>
    rw [after, List.foldl_append, List.foldl_cons, List.foldl_nil, ← after, find?_step_eq_recursive, ih,
      WatchCall.since_concat]

/-- The entry of a watched path, which may be spelled in another way. -/
theorem exists_mem_watchedPaths_iff :
    (∃ q, (q, mode) ∈ w.watchedPaths ∧ q.same p = true) ↔ w.watched.find? p = some mode := by
  simp only [SortedMap.find?_eq_some_iff, Path.same_iff, watchedPaths]

/-- Whatever the calls so far, the watched paths come in strictly increasing order. A path is among them,
    however it is spelled, exactly if it was asked for since it was last unwatched: with everything below it if
    that was ever asked for since, and else alone. -/
theorem watchedPaths_after (calls : List WatchCall) :
    ((after calls).watchedPaths.Pairwise fun a b => compare a.1 b.1 = .lt) ∧
    ∀ p : Path,
      ((∃ mode q, (q, mode) ∈ (after calls).watchedPaths ∧ q.same p = true) ↔
        WatchCall.Since p (·.Watches p) calls) ∧
      ((∃ q, (q, .recursive) ∈ (after calls).watchedPaths ∧ q.same p = true) ↔
        WatchCall.Since p (·.WatchesBelow p) calls) ∧
      ((∃ q, (q, .nonRecursive) ∈ (after calls).watchedPaths ∧ q.same p = true) ↔
        WatchCall.Since p (·.Watches p) calls ∧ ¬ WatchCall.Since p (·.WatchesBelow p) calls) := by
  refine ⟨(after calls).watched.increasing, fun p => ?_⟩
  simp only [exists_mem_watchedPaths_iff, ← find?_after_ne_none, ← find?_after_eq_recursive]
  rcases (after calls).watched.find? p with - | (- | -) <;> simp

end ManualWatcher
end Buildwright
