-- SUMMARY: A later source is never fresher, and the staleness policy matters only where nothing is known of the output.
import Buildwright.Proofs.Dev.Milliseconds

/-!
# Monotonicity of staleness

Staleness goes with the time of the source: a source that is stale stays stale when it is changed again,
and one whose output is no older than it is fresh. To assume that sources are stale is the stricter of the
two policies. They part only where a source has no output, or where the time of its output cannot be read
for any reason but that it is missing.
-/
namespace Buildwright

namespace Disk

/-- Counting in milliseconds keeps the order of times, though times that it cuts off or rounds may become
    equal. -/
theorem millisOf_mono {t t' : Int} (h : t ≤ t') : millisOf t ≤ millisOf t' := by
  have hnat : t.toNat ≤ t'.toNat := Int.toNat_le_toNat h
  have hdiv : t.toNat / 1000000 ≤ t'.toNat / 1000000 := Nat.div_le_div_right hnat
  unfold millisOf
  omega

theorem modifiedMillis_eq_error {d : Disk} {p : Path} {e : IoError} :
    d.modifiedMillis p = .error e ↔ d.modifiedAt p = .error e := by
  unfold modifiedMillis
  cases d.modifiedAt p with
  | ok t => simp [Except.map]
  | error e' => simp [Except.map]

end Disk

namespace StalenessPolicy

/-! ## Judging by the time of the output -/

theorem judge_of_notFound {policy : StalenessPolicy} {time : Nat} {e : IoError}
    (h : e.kind = .notFound) : policy.judge time (.error e) = .stale :=
  if_pos h

theorem judge_of_error {policy : StalenessPolicy} {time : Nat} {e : IoError}
    (h : e.kind ≠ .notFound) : policy.judge time (.error e) = policy.assumed :=
  if_neg h

/-- A later source is stale if an earlier one is. -/
theorem judge_stale_mono {policy : StalenessPolicy} {time time' : Nat} {output : Except IoError Nat}
    (hle : time ≤ time') (h : policy.judge time output = .stale) :
    policy.judge time' output = .stale := by
  cases output with
  | ok outputTime =>
    rw [judge_ok] at h ⊢
    split at h
    · next hlt => rw [if_pos (Nat.lt_of_lt_of_le hlt hle)]
    · cases h
  | error e => exact h

/-- To assume that sources are stale is the stricter policy. -/
theorem judge_assumeStale {time : Nat} {output : Except IoError Nat}
    (h : assumeFresh.judge time output = .stale) : assumeStale.judge time output = .stale := by
  cases output with
  | ok outputTime => rwa [judge_ok] at h ⊢
  | error e =>
    by_cases hkind : e.kind = .notFound
    · exact judge_of_notFound hkind
    · exact judge_of_error hkind

/-- The policies agree on an output whose time is known, and on one that is missing. -/
theorem judge_ne_iff {time : Nat} {output : Except IoError Nat} :
    assumeFresh.judge time output ≠ assumeStale.judge time output ↔
      ∃ e, output = .error e ∧ e.kind ≠ .notFound := by
  cases output with
  | ok outputTime => simp [judge_ok]
  | error e =>
    by_cases h : e.kind = .notFound
    · simp [judge_of_notFound h, h]
    · simp [judge_of_error h, h, assumed]

/-! ## Checking a source -/

section Check

variable (d : Disk) (resource sources classes : Path) (extension : String)

/-- What the policy has to decide: there is no output for the source, or its time cannot be read though
    it is not missing. -/
def Undecided : Prop :=
  ClassName.outputFile? resource sources classes extension = none ∨
    ∃ classFile e, ClassName.outputFile? resource sources classes extension = some classFile ∧
      d.modifiedAt classFile = .error e ∧ e.kind ≠ .notFound

variable {d resource sources classes extension} {classFile : Path}

theorem check_of_unmapped {policy : StalenessPolicy} {time : Nat}
    (h : ClassName.outputFile? resource sources classes extension = none) :
    policy.check d resource sources classes extension time = policy.assumed := by
  rw [check, h]

theorem check_of_mapped {policy : StalenessPolicy} {time : Nat}
    (h : ClassName.outputFile? resource sources classes extension = some classFile) :
    policy.check d resource sources classes extension time =
      policy.judge time (d.modifiedMillis classFile) := by
  rw [check, h]

theorem check_stale_mono {policy : StalenessPolicy} {time time' : Nat} (hle : time ≤ time')
    (h : policy.check d resource sources classes extension time = .stale) :
    policy.check d resource sources classes extension time' = .stale := by
  cases hmapped : ClassName.outputFile? resource sources classes extension with
  | none =>
    rw [check_of_unmapped hmapped] at h ⊢
    exact h
  | some classFile =>
    rw [check_of_mapped hmapped] at h ⊢
    exact judge_stale_mono hle h

/-- The policies part exactly where a source is left for them to decide. -/
theorem check_ne_iff {time : Nat} :
    assumeFresh.check d resource sources classes extension time ≠
        assumeStale.check d resource sources classes extension time ↔
      Undecided d resource sources classes extension := by
  unfold Undecided
  cases hmapped : ClassName.outputFile? resource sources classes extension with
  | none => simp [check_of_unmapped hmapped, assumed]
  | some classFile =>
    rw [check_of_mapped hmapped, check_of_mapped hmapped, judge_ne_iff]
    simp [Disk.modifiedMillis_eq_error]

theorem check_assumeStale {time : Nat}
    (h : assumeFresh.check d resource sources classes extension time = .stale) :
    assumeStale.check d resource sources classes extension time = .stale := by
  cases hmapped : ClassName.outputFile? resource sources classes extension with
  | none => exact check_of_unmapped hmapped
  | some classFile =>
    rw [check_of_mapped hmapped] at h ⊢
    exact judge_assumeStale h

/-- A source whose output was changed no earlier is fresh, under either policy. -/
theorem check_fresh {source output : Int} (policy : StalenessPolicy)
    (hmapped : ClassName.outputFile? resource sources classes extension = some classFile)
    (houtput : d.modifiedAt classFile = .ok output) (hle : source ≤ output) :
    policy.check d resource sources classes extension (Disk.millisOf source) = .fresh := by
  have hmillis : ¬ Disk.millisOf output < Disk.millisOf source :=
    Nat.not_lt.2 (Disk.millisOf_mono hle)
  rw [check_of_mapped hmapped, Disk.modifiedMillis_of_modifiedAt houtput, judge_ok, if_neg hmillis]

end Check

/-- A source whose output is there and no older, as the disk dates them, is fresh under both policies at
    the time that the disk gives for it in milliseconds. What one policy calls stale although it assumes
    sources to be fresh, the other calls stale as well, and they differ exactly where a source is left for
    them to decide. A source that is stale at one time is stale at any later one. -/
theorem check_monotone (d : Disk) (resource sources classes : Path) (extension : String) :
    (∀ classFile source output,
      ClassName.outputFile? resource sources classes extension = some classFile →
      d.modifiedAt resource = .ok source → d.modifiedAt classFile = .ok output → source ≤ output →
      ∃ time, d.modifiedMillis resource = .ok time ∧
        ∀ policy, check policy d resource sources classes extension time = .fresh) ∧
    (∀ time, assumeFresh.check d resource sources classes extension time = .stale →
      assumeStale.check d resource sources classes extension time = .stale) ∧
    (∀ time, assumeFresh.check d resource sources classes extension time ≠
        assumeStale.check d resource sources classes extension time ↔
      Undecided d resource sources classes extension) ∧
    (∀ policy time time', time ≤ time' →
      check policy d resource sources classes extension time = .stale →
      check policy d resource sources classes extension time' = .stale) := by
  refine ⟨?_, fun _ => check_assumeStale, fun _ => check_ne_iff, fun _ _ _ => check_stale_mono⟩
  intro classFile source output hmapped hsource houtput hle
  exact ⟨_, Disk.modifiedMillis_of_modifiedAt hsource,
    fun policy => check_fresh policy hmapped houtput hle⟩

/-- An output from before the epoch that is as old as its source, and one that is older by the nanosecond
    that makes a millisecond. -/
theorem check_monotone_dated :
    (dated (-5) (-5)).modifiedMillis "/p/src/A.java" = .ok 0 ∧
    (∀ policy, check policy (dated (-5) (-5)) "/p/src/A.java" "/p/src" "/p/classes" ".java" 0 =
      .fresh) ∧
    (∀ policy time, 3 ≤ time →
      check policy (dated 3000000 2999999) "/p/src/A.java" "/p/src" "/p/classes" ".java" time =
        .stale) := by
  have hmillis : (dated (-5) (-5)).modifiedMillis "/p/src/A.java" = .ok 0 := by decide +kernel
  have hstale : assumeFresh.check (dated 3000000 2999999) "/p/src/A.java" "/p/src" "/p/classes" ".java"
      3 = .stale := by decide +kernel
  obtain ⟨hfresh, -, -, -⟩ :=
    check_monotone (dated (-5) (-5)) "/p/src/A.java" "/p/src" "/p/classes" ".java"
  obtain ⟨-, hstrict, -, hlater⟩ :=
    check_monotone (dated 3000000 2999999) "/p/src/A.java" "/p/src" "/p/classes" ".java"
  refine ⟨hmillis, ?_, ?_⟩
  · obtain ⟨time, htime, hboth⟩ := hfresh "/p/classes/A.class" (-5) (-5) (by decide +kernel)
      (by decide +kernel) (by decide +kernel) (by decide)
    rw [hmillis] at htime
    cases htime
    exact hboth
  · intro policy time hle
    cases policy with
    | assumeStale => exact hlater assumeStale 3 time hle (hstrict 3 hstale)
    | assumeFresh => exact hlater assumeFresh 3 time hle hstale

end StalenessPolicy
end Buildwright
