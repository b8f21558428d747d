-- SUMMARY: Staleness to the millisecond: which outputs are seen to be older than their sources.
import Buildwright.Dev.Staleness
import Buildwright.Proofs.WeakestPre

/-!
# Staleness to the millisecond

The disk dates files in nanoseconds, before and after the epoch, while a source and its output are
compared in whole milliseconds since the epoch. What the comparison can see of two times is whether a whole
millisecond lies between them: exactly then the older output is stale, whatever the policy.
-/
namespace Buildwright

namespace Disk

/-- A whole millisecond tells two times apart: it comes after the first, and not after the second. It is
    one after the epoch, and no later than the latest that is counted. -/
def MillisecondBetween (t t' : Int) : Prop :=
  ∃ k : Nat, 0 < k ∧ k ≤ lastMillis ∧ t < k * 1000000 ∧ k * 1000000 ≤ t'

/-- Of two times, the first counts as the earlier one if a whole millisecond lies between them. -/
theorem millisOf_lt_iff {t t' : Int} : millisOf t < millisOf t' ↔ MillisecondBetween t t' := by
  constructor
  · intro hlt
    -- The count of the later time is itself such a millisecond.
    have hpos : 0 < millisOf t' := Nat.zero_lt_of_lt hlt
    have hlast : millisOf t' ≤ lastMillis := Nat.min_le_right _ _
    refine ⟨millisOf t', hpos, hlast, ?_, ?_⟩
    · unfold millisOf at hlt ⊢
      omega
    · unfold millisOf at hpos ⊢
      omega
  · rintro ⟨k, hpos, hlast, hafter, hbefore⟩
    have hlater : k ≤ millisOf t' := by
      unfold millisOf
      omega
    have hearlier : millisOf t < k := by
      unfold millisOf
      omega
    exact Nat.lt_of_lt_of_le hearlier hlater

theorem modifiedMillis_of_modifiedAt {d : Disk} {p : Path} {t : Int} (h : d.modifiedAt p = .ok t) :
    d.modifiedMillis p = .ok (millisOf t) :=
  map_eq_ok.2 ⟨t, h, rfl⟩

end Disk

namespace StalenessPolicy

open Disk (MillisecondBetween millisOf)

/-- Where the time of the output is known, the policy does not matter. -/
theorem judge_ok (policy : StalenessPolicy) (sourceTime outputTime : Nat) :
    policy.judge sourceTime (.ok outputTime) = if outputTime < sourceTime then .stale else .fresh := by
  rw [judge]
  by_cases h : sourceTime ≤ outputTime
  · rw [if_pos h, if_neg (Nat.not_lt.2 h)]
  · rw [if_neg h, if_pos (Nat.lt_of_not_le h)]

section Check

variable {d : Disk} {resource sources classes classFile : Path} {extension : String}
  {source output : Int}

/-- A source whose output is there is judged, at the time that the disk gives for it in milliseconds, by
    whether a whole millisecond lies between the times of the two: it is stale if the output is older by
    one, and fresh if it is not, under either policy. -/
theorem check_eq_stale_iff_millisecondBetween (policy : StalenessPolicy)
    (hmapped : ClassName.outputFile? resource sources classes extension = some classFile)
    (hsource : d.modifiedAt resource = .ok source) (houtput : d.modifiedAt classFile = .ok output) :
    ∃ time, d.modifiedMillis resource = .ok time ∧
      (policy.check d resource sources classes extension time = .stale ↔
        MillisecondBetween output source) ∧
      (policy.check d resource sources classes extension time = .fresh ↔
        ¬ MillisecondBetween output source) := by
  refine ⟨millisOf source, Disk.modifiedMillis_of_modifiedAt hsource, ?_⟩
  have hcheck : policy.check d resource sources classes extension (millisOf source) =
      if millisOf output < millisOf source then .stale else .fresh := by
    rw [check, hmapped]
    simp only [Disk.modifiedMillis_of_modifiedAt houtput, judge_ok]
  rw [hcheck, ← Disk.millisOf_lt_iff]
  by_cases hlt : millisOf output < millisOf source
  · simp [hlt]
  · simp [hlt]

end Check

/-- A disk with a source and its output, last changed at the given times. -/
def dated (source output : Int) : Disk where
  entries := [(["p"], .directory 0), (["p", "src"], .directory 0),
    (["p", "src", "A.java"], .file ⟨.empty, source, false⟩), (["p", "classes"], .directory 0),
    (["p", "classes", "A.class"], .file ⟨.empty, output, false⟩)]
  workingDirectory := []
  now := 0

/-- The output is one nanosecond older, and that is the one between two milliseconds. -/
theorem check_eq_stale_iff_millisecondBetween_boundary :
    ClassName.outputFile? "/p/src/A.java" "/p/src" "/p/classes" ".java" = some "/p/classes/A.class" ∧
    (dated 3000000 2999999).modifiedAt "/p/src/A.java" = .ok 3000000 ∧
    (dated 3000000 2999999).modifiedAt "/p/classes/A.class" = .ok 2999999 ∧
    (dated 3000000 2999999).modifiedMillis "/p/src/A.java" = .ok 3 ∧
    assumeFresh.check (dated 3000000 2999999) "/p/src/A.java" "/p/src" "/p/classes" ".java" 3 =
      .stale := by
  have hmapped : ClassName.outputFile? "/p/src/A.java" "/p/src" "/p/classes" ".java" =
      some "/p/classes/A.class" := by decide +kernel
  have hsource : (dated 3000000 2999999).modifiedAt "/p/src/A.java" = .ok 3000000 := by
    decide +kernel
  have houtput : (dated 3000000 2999999).modifiedAt "/p/classes/A.class" = .ok 2999999 := by
    decide +kernel
  have hmillis : (dated 3000000 2999999).modifiedMillis "/p/src/A.java" = .ok 3 := by decide +kernel
  obtain ⟨time, htime, hstale, -⟩ :=
    check_eq_stale_iff_millisecondBetween assumeFresh hmapped hsource houtput
  rw [hmillis] at htime
  cases htime
  exact ⟨hmapped, hsource, houtput, hmillis, hstale.2 ⟨3, by decide, by decide, by decide, by decide⟩⟩

/-- An output that is older than its source within one millisecond is fresh, and so is one that is older
    by seconds when both are from before the epoch. -/
theorem fresh_of_olderOutput :
    (ClassName.outputFile? "/p/src/A.java" "/p/src" "/p/classes" ".java" = some "/p/classes/A.class") ∧
    ((dated 1000000500 1000000200).modifiedAt "/p/src/A.java" = .ok 1000000500 ∧
      (dated 1000000500 1000000200).modifiedAt "/p/classes/A.class" = .ok 1000000200 ∧
      (dated 1000000500 1000000200).modifiedMillis "/p/src/A.java" = .ok 1000 ∧
      ∀ policy, check policy (dated 1000000500 1000000200) "/p/src/A.java" "/p/src" "/p/classes" ".java"
        1000 = .fresh) ∧
    ((dated (-1000000000) (-9000000000)).modifiedAt "/p/src/A.java" = .ok (-1000000000) ∧
      (dated (-1000000000) (-9000000000)).modifiedAt "/p/classes/A.class" = .ok (-9000000000) ∧
      (dated (-1000000000) (-9000000000)).modifiedMillis "/p/src/A.java" = .ok 0 ∧
      ∀ policy, check policy (dated (-1000000000) (-9000000000)) "/p/src/A.java" "/p/src" "/p/classes"
        ".java" 0 = .fresh) := by
  refine ⟨by decide +kernel, ⟨by decide +kernel, by decide +kernel, by decide +kernel, ?_⟩,
    by decide +kernel, by decide +kernel, by decide +kernel, ?_⟩
  all_goals
    intro policy
    cases policy <;> decide +kernel

end StalenessPolicy
end Buildwright
