-- SUMMARY: Kinds of publications, and the parts of what a build publishes.
import Buildwright.Build.Pipeline

/-!
# Kinds of publications

What a build publishes falls into classes, REST records, files to be watched and the feature. The records
of one kind can be told from the others, and stand in what is published as registration gives them.
-/
namespace Buildwright

/-! ## Kinds of publications -/

namespace Publication

/-- Whether a publication makes a compiled class known, as a class of the application or as a bean. -/
def isClass : Publication → Bool
  | generatedClass _ _ _ | generatedBean _ _ => true
  | _ => false

/-- Whether a publication makes REST resources known. -/
def isRest : Publication → Bool
  | reflectiveClass _ | restResource _ | servletInitParam _ _ => true
  | _ => false

/-- Whether a publication makes a bean known. -/
def isBean : Publication → Bool
  | generatedBean _ _ => true
  | _ => false

/-- The file that a publication makes known to be watched. -/
def watched? : Publication → Option Path
  | hotDeploymentWatch path => some path
  | _ => none

theorem isClass_of_isBean {r : Publication} (h : r.isBean = true) : r.isClass = true := by
  cases r with
  | generatedBean name content => rfl
  | _ => cases h

theorem isClass_of_isRest {r : Publication} (h : r.isRest = true) : r.isClass = false := by
  cases r with
  | generatedClass name content application => cases h
  | generatedBean name content => cases h
  | _ => rfl

theorem watched?_of_isClass {r : Publication} (h : r.isClass = true) : r.watched? = none := by
  cases r with
  | hotDeploymentWatch path => cases h
  | _ => rfl

theorem watched?_of_isRest {r : Publication} (h : r.isRest = true) : r.watched? = none := by
  cases r with
  | hotDeploymentWatch path => cases h
  | _ => rfl

end Publication

namespace Registration

theorem isClass_classPublication (bootstrap : Option String) (c : String × Bytes) :
    (classPublication bootstrap c).isClass = true := by
  unfold classPublication
  split <;> rfl

theorem isBean_classPublication {bootstrap : Option String} {c : String × Bytes} :
    (classPublication bootstrap c).isBean = true ↔ bootstrap = some c.1 := by
  unfold classPublication
  split <;> simp_all [Publication.isBean]

theorem isRest_restPublications {policy : RestPolicy} {rest : List String} {r : Publication}
    (h : r ∈ restPublications policy rest) : r.isRest = true := by
  cases policy with
  | jaxRsResource =>
    obtain ⟨name, -, rfl⟩ := List.mem_map.1 h
    rfl
  | servletInitParam =>
    rcases List.mem_append.1 h with h | h
    · obtain ⟨name, -, rfl⟩ := List.mem_map.1 h
      rfl
    · split at h
      · cases h
      · rw [List.mem_singleton.1 h]
        rfl

end Registration

/-! ## The parts of a publication -/

namespace BuildPipeline

open Registration

variable (p : BuildPipeline) (b : Batch) (target : Store) (watched : List Path)

theorem filter_publications (q : Publication → Bool) (hwatch : ∀ path, q (.hotDeploymentWatch path) = false)
    (hfeature : ∀ name, q (.feature name) = false) :
    (p.publications b target watched).filter q =
      ((compiledClasses target).map (classPublication b.bootstrapClass)).filter q ++
        (restPublications p.restPolicy (restClasses b.files)).filter q := by
  have hw : (watched.map Publication.hotDeploymentWatch).filter q = [] := by
    rw [List.filter_eq_nil_iff]
    intro r hr
    obtain ⟨path, -, rfl⟩ := List.mem_map.1 hr
    simp [hwatch path]
  have hf : [Publication.feature featureName].filter q = [] := by
    rw [List.filter_cons_of_neg (by simp [hfeature]), List.filter_nil]
  rw [publications, Registration.publications, List.filter_append, List.filter_append,
    List.filter_append, hw, hf, List.append_nil, List.append_nil]

theorem filter_isClass_publications :
    (p.publications b target watched).filter (·.isClass) =
      (compiledClasses target).map (classPublication b.bootstrapClass) := by
  have hrest : (restPublications p.restPolicy (restClasses b.files)).filter (·.isClass) = [] := by
    rw [List.filter_eq_nil_iff]
    intro r hr
    simp [Publication.isClass_of_isRest (isRest_restPublications hr)]
  rw [filter_publications p b target watched _ (fun _ => rfl) (fun _ => rfl), hrest, List.append_nil,
    List.filter_eq_self]
  intro r hr
  obtain ⟨c, -, rfl⟩ := List.mem_map.1 hr
  exact isClass_classPublication b.bootstrapClass c

theorem filter_isRest_publications :
    (p.publications b target watched).filter (·.isRest) =
      restPublications p.restPolicy (restClasses b.files) := by
  have hclass : ((compiledClasses target).map
      (classPublication b.bootstrapClass)).filter (·.isRest) = [] := by
    rw [List.filter_eq_nil_iff]
    intro r hr hrest
    obtain ⟨c, -, rfl⟩ := List.mem_map.1 hr
    have hnone := Publication.isClass_of_isRest hrest
    rw [isClass_classPublication] at hnone
    cases hnone
  rw [filter_publications p b target watched _ (fun _ => rfl) (fun _ => rfl), hclass, List.nil_append,
    List.filter_eq_self]
  exact fun r hr => isRest_restPublications hr

theorem filter_isBean_publications :
    (p.publications b target watched).filter (·.isBean) =
      ((compiledClasses target).map (classPublication b.bootstrapClass)).filter (·.isBean) := by
  rw [← filter_isClass_publications p b target watched, List.filter_filter]
  apply List.filter_congr
  intro r _
  cases hr : r.isBean with
  | true => rw [Publication.isClass_of_isBean hr]; rfl
  | false => rfl

end BuildPipeline
end Buildwright
