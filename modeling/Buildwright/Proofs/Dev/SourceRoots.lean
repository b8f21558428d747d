-- SUMMARY: Which source root a file is resolved against: a root that contains it and has the most components.
import Buildwright.Dev.Recompiler
import Buildwright.Proofs.Path.Relative

/-!
# Source roots

Source roots may lie within each other, and may come several times and in several spellings. A file is
resolved against an innermost root that contains it. All innermost roots have the same components, since
they begin the same path and are equally long, so that the order of the roots does not matter.
-/
namespace Buildwright

namespace IncrementalRecompiler

/-! ## Innermost roots -/

/-- A root that contains a file, and has at least as many components as any other that does. -/
structure Innermost (roots : List Path) (p root : Path) : Prop where
  mem : root ∈ roots
  startsWith : p.startsWith root = true
  longest : ∀ other ∈ roots, p.startsWith other = true →
    other.components.length ≤ root.components.length

variable {r : IncrementalRecompiler} {roots roots' : List Path} {p q root root' : Path}

/-- Innermost roots of one file compare equal: both begin the path of the file, at the same length. -/
theorem Innermost.compare_eq (h : Innermost roots p root) (h' : Innermost roots p root') :
    compare root root' = .eq := by
  have hlength : root.components.length = root'.components.length :=
    Nat.le_antisymm (h'.longest root h.mem h.startsWith) (h.longest root' h'.mem h'.startsWith)
  have hbegins : root.components <+: root'.components :=
    List.prefix_of_prefix_length_le (Path.startsWith_iff.1 h.startsWith)
      (Path.startsWith_iff.1 h'.startsWith) (Nat.le_of_eq hlength)
  exact Path.compare_eq_iff.2 (hbegins.eq_of_length hlength)

theorem Innermost.of_perm (hroots : roots.Perm roots') (h : Innermost roots p root) :
    Innermost roots' p root where
  mem := hroots.mem_iff.1 h.mem
  startsWith := h.startsWith
  longest other hother := h.longest other (hroots.mem_iff.2 hother)

/-! ## The root of a file -/

theorem deepest_eq_none : deepest roots = none ↔ roots = [] := by
  cases roots with
  | nil => simp [deepest]
  | cons root rest =>
    rw [deepest]
    split
    · simp
    · split <;> simp

/-- The deepest root is one of those given, and none of them has more components. -/
theorem deepest_eq_some (h : deepest roots = some root) :
    root ∈ roots ∧ ∀ other ∈ roots, other.components.length ≤ root.components.length := by
  induction roots generalizing root with
  | nil => cases h
  | cons first rest ih =>
    rw [deepest] at h
    split at h
    · next hnone =>
      cases h
      rw [deepest_eq_none.1 hnone]
      simp
    · next other hother =>
      obtain ⟨hmem, hlongest⟩ := ih hother
      split at h
      · next hlt =>
        cases h
        refine ⟨List.mem_cons_self, List.forall_mem_cons.2 ⟨Nat.le_refl _, fun root hroot => ?_⟩⟩
        exact Nat.le_of_lt (Nat.lt_of_le_of_lt (hlongest root hroot) hlt)
      · next hle =>
        cases h
        exact ⟨List.mem_cons_of_mem first hmem,
          List.forall_mem_cons.2 ⟨Nat.le_of_not_lt hle, hlongest⟩⟩

theorem sourceRootOf_eq_none :
    r.sourceRootOf p = none ↔ ∀ root ∈ r.sourceRoots, p.startsWith root = false := by
  rw [sourceRootOf, deepest_eq_none, List.filter_eq_nil_iff]
  simp only [Bool.not_eq_true]

/-- A file is resolved against an innermost root. -/
theorem sourceRootOf_innermost (h : r.sourceRootOf p = some root) :
    Innermost r.sourceRoots p root := by
  obtain ⟨hmem, hlongest⟩ := deepest_eq_some h
  obtain ⟨hroots, hstarts⟩ := List.mem_filter.1 hmem
  exact ⟨hroots, hstarts, fun other hother hcontains =>
    hlongest other (List.mem_filter.2 ⟨hother, hcontains⟩)⟩

/-- Where there is an innermost root, a file is resolved against one that compares equal. -/
theorem Innermost.exists_sourceRootOf (h : Innermost r.sourceRoots p root) :
    ∃ root', r.sourceRootOf p = some root' ∧ compare root' root = .eq := by
  cases hroot : r.sourceRootOf p with
  | none =>
    have hnot := sourceRootOf_eq_none.1 hroot root h.mem
    rw [h.startsWith] at hnot
    cases hnot
  | some root' => exact ⟨root', rfl, (sourceRootOf_innermost hroot).compare_eq h⟩

/-- Spellings of one file are resolved against the same root. -/
theorem sourceRootOf_congr (h : p.components = q.components) :
    r.sourceRootOf p = r.sourceRootOf q := by
  have hstarts : p.startsWith = q.startsWith := by
    funext root
    rw [Path.startsWith, Path.startsWith, h]
  rw [sourceRootOf, sourceRootOf, hstarts]

end IncrementalRecompiler
end Buildwright
