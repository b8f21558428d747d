-- SUMMARY: Registration sums up what is published, and the REST policy decides nothing but the form of the REST records.
import Buildwright.Proofs.Build.Publication
import Buildwright.Proofs.Text

/-!
# Registration

Compiler output and the files of a batch are gone through twice: for what is published, and for the
registration that is handed back. The two agree. Each class file of the target has one record, in the
order of the names, and nothing else of the target has any. The REST policy changes the form in which
REST resources are made known, but neither which they are, nor any other record.
-/
namespace Buildwright

/-! ## What a record names -/

namespace Publication

/-- The class that a publication makes known as one of the application. -/
def className? : Publication → Option String
  | generatedClass name _ _ => some name
  | _ => none

/-- The class that a publication makes known as a bean. -/
def beanName? : Publication → Option String
  | generatedBean name _ => some name
  | _ => none

/-- The REST resource that a publication announces on its own. -/
def announced? : Publication → Option String
  | restResource name => some name
  | _ => none

/-- The class that a publication opens to reflection. -/
def reflective? : Publication → Option String
  | reflectiveClass name => some name
  | _ => none

/-- The REST resource that a publication is about, announced or open to reflection. -/
def restName? (r : Publication) : Option String :=
  r.announced? <|> r.reflective?

/-- The parameter of the servlet that a publication sets, with its value. -/
def initParam? : Publication → Option (String × String)
  | servletInitParam key value => some (key, value)
  | _ => none

end Publication

namespace Registration

open Publication

/-- The registration that can be read off records: the names of their classes, beans and REST resources. -/
def ofRecords (records : List Publication) : Registration where
  classes := records.filterMap className?
  beans := records.filterMap beanName?
  restResources := records.filterMap restName?

/-- The entries of the target that are class files. -/
def classFiles (target : Store) : List (String × Bytes) :=
  target.entries.filter fun e => Text.endsWith ClassName.classSuffix e.1

/-- The record of a class file: its bytes under the name of its class, as a bean if that is the bootstrap
    class, and as a class of the application otherwise. -/
def recordOf (bootstrap : Option String) (e : String × Bytes) : Publication :=
  if bootstrap = some (ClassName.ofPath e.1) then .generatedBean (ClassName.ofPath e.1) e.2
  else .generatedClass (ClassName.ofPath e.1) e.2 true

variable (policy : RestPolicy) (target : Store) (files : List GeneratedFile) (bootstrap : Option String)

/-! ## The records of classes -/

theorem classFiles_increasing :
    (classFiles target).Pairwise fun e e' => compare e.1 e'.1 = .lt :=
  (List.pairwise_map.1 target.files.keys_increasing).filter _

theorem compiledClasses_eq :
    compiledClasses target = (classFiles target).map fun e => (ClassName.ofPath e.1, e.2) := by
  unfold compiledClasses classFiles
  induction target.entries with
  | nil => rfl
  | cons e es ih =>
    cases h : Text.endsWith ClassName.classSuffix e.1 with
    | true =>
      rw [List.filterMap_cons_some (by rw [compiledClass?, if_pos h]),
        List.filter_cons_of_pos (by simpa using h), List.map_cons, ih]
    | false =>
      rw [List.filterMap_cons_none (by rw [compiledClass?, if_neg (by simp [h])]),
        List.filter_cons_of_neg (by simp [h]), ih]

theorem map_classPublication :
    (compiledClasses target).map (classPublication bootstrap) =
      (classFiles target).map (recordOf bootstrap) := by
  rw [compiledClasses_eq, List.map_map]
  rfl

theorem className?_classPublication (c : String × Bytes) :
    (classPublication bootstrap c).className? = if bootstrap = some c.1 then none else some c.1 := by
  unfold classPublication
  split <;> rfl

theorem beanName?_classPublication (c : String × Bytes) :
    (classPublication bootstrap c).beanName? = if bootstrap = some c.1 then some c.1 else none := by
  unfold classPublication
  split <;> rfl

/-- Whether a class is a bean is decided alike for its record and for the registration. -/
theorem filterMap_className? (cs : List (String × Bytes)) :
    (cs.map (classPublication bootstrap)).filterMap className? =
      (cs.map (·.1)).filter fun name => bootstrap != some name := by
  rw [List.filterMap_map, List.filter_map, ← List.filterMap_eq_map, List.filterMap_filter]
  apply List.filterMap_congr
  intro c _
  rw [Function.comp_apply, className?_classPublication]
  by_cases h : bootstrap = some c.1 <;> simp [h]

theorem filterMap_beanName? (cs : List (String × Bytes)) :
    (cs.map (classPublication bootstrap)).filterMap beanName? =
      (cs.map (·.1)).filter fun name => bootstrap = some name := by
  rw [List.filterMap_map, List.filter_map, ← List.filterMap_eq_map, List.filterMap_filter]
  apply List.filterMap_congr
  intro c _
  rw [Function.comp_apply, beanName?_classPublication]
  by_cases h : bootstrap = some c.1 <;> simp [h]

/-! ## The records of REST resources -/

section Rest

variable (rest : List String)

/-- What is read off the records of the servlet policy, in their two parts. -/
theorem filterMap_servletInitParam {α : Type} (g : Publication → Option α) :
    (restPublications .servletInitParam rest).filterMap g =
      rest.filterMap (fun name => g (.reflectiveClass name)) ++
        if rest = [] then []
        else [Publication.servletInitParam restResourcesParam (Text.joined "," rest)].filterMap g := by
  rw [restPublications, List.filterMap_append, List.filterMap_map]
  split <;> rfl

/-- The names of the reflective classes are all that names a resource under the servlet policy. -/
theorem filterMap_servletInitParam_names {g : Publication → Option String}
    (hname : ∀ name, g (.reflectiveClass name) = some name)
    (hparam : ∀ key value, g (.servletInitParam key value) = none) :
    (restPublications .servletInitParam rest).filterMap g = rest := by
  have hnames : rest.filterMap (fun name => g (.reflectiveClass name)) = rest := by
    rw [funext hname]
    exact List.filterMap_some
  rw [filterMap_servletInitParam, hnames, List.filterMap_cons_none (hparam _ _), List.filterMap_nil,
    ite_self, List.append_nil]

theorem filterMap_jaxRsResource {g : Publication → Option String}
    (hname : ∀ name, g (.restResource name) = some name) :
    (restPublications .jaxRsResource rest).filterMap g = rest := by
  rw [restPublications, List.filterMap_map, Function.comp_def, funext hname]
  exact List.filterMap_some

/-- Under either policy the records name the REST resources in the order of the batch. -/
theorem filterMap_restName? : (restPublications policy rest).filterMap restName? = rest := by
  cases policy with
  | jaxRsResource => exact filterMap_jaxRsResource rest fun _ => rfl
  | servletInitParam => exact filterMap_servletInitParam_names rest (fun _ => rfl) fun _ _ => rfl

theorem filterMap_initParam? :
    (restPublications .servletInitParam rest).filterMap initParam? =
      if rest = [] then [] else [(restResourcesParam, Text.joined "," rest)] := by
  have hnone : rest.filterMap (fun name => initParam? (.reflectiveClass name)) = [] :=
    List.filterMap_eq_nil_iff.2 fun _ _ => rfl
  rw [filterMap_servletInitParam, hnone]
  rfl

/-- The parameter can be taken apart again if no name has the separator in it. -/
theorem map_pieces_initParam? (h : ∀ name ∈ rest, ',' ∉ name.toList) :
    ((restPublications .servletInitParam rest).filterMap initParam?).map
        (fun param => (param.1, Text.pieces ',' param.2)) =
      if rest = [] then [] else [(restResourcesParam, rest)] := by
  rw [filterMap_initParam?]
  split
  · rfl
  · next hne => rw [List.map_singleton, Text.pieces_joined h hne]

end Rest

/-! ## Records and registration -/

theorem filterMap_publications {α : Type} (g : Publication → Option α) :
    (publications policy target files bootstrap).filterMap g =
      ((compiledClasses target).map (classPublication bootstrap)).filterMap g ++
        (restPublications policy (restClasses files)).filterMap g := by
  rw [publications, List.filterMap_append]

/-- What no REST record has is read off the records of classes. -/
theorem filterMap_publications_classes {α : Type} {g : Publication → Option α}
    (hresource : ∀ name, g (.restResource name) = none)
    (hreflective : ∀ name, g (.reflectiveClass name) = none)
    (hparam : ∀ key value, g (.servletInitParam key value) = none) :
    (publications policy target files bootstrap).filterMap g =
      ((compiledClasses target).map (classPublication bootstrap)).filterMap g := by
  have hnone : (restPublications policy (restClasses files)).filterMap g = [] := by
    rw [List.filterMap_eq_nil_iff]
    intro r hr
    cases r with
    | restResource name => exact hresource name
    | reflectiveClass name => exact hreflective name
    | servletInitParam key value => exact hparam key value
    | _ => cases isRest_restPublications hr
  rw [filterMap_publications, hnone, List.append_nil]

/-- What no record of a class has is read off the REST records. -/
theorem filterMap_publications_rest {α : Type} {g : Publication → Option α}
    (hclass : ∀ name content application, g (.generatedClass name content application) = none)
    (hbean : ∀ name content, g (.generatedBean name content) = none) :
    (publications policy target files bootstrap).filterMap g =
      (restPublications policy (restClasses files)).filterMap g := by
  have hnone : ((compiledClasses target).map (classPublication bootstrap)).filterMap g = [] := by
    rw [List.filterMap_map, List.filterMap_eq_nil_iff]
    intro c _
    rw [Function.comp_apply, classPublication]
    split
    · exact hbean c.1 c.2
    · exact hclass c.1 c.2 true
  rw [filterMap_publications, hnone, List.nil_append]

theorem ofRecords_publications :
    ofRecords (publications policy target files bootstrap) = ofBatch target files bootstrap := by
  unfold ofRecords ofBatch
  congr 1
  · rw [filterMap_publications_classes _ _ _ _ (fun _ => rfl) (fun _ => rfl) fun _ _ => rfl,
      filterMap_className?]
  · rw [filterMap_publications_classes _ _ _ _ (fun _ => rfl) (fun _ => rfl) fun _ _ => rfl,
      filterMap_beanName?]
  · rw [filterMap_publications_rest _ _ _ _ (fun _ _ _ => rfl) fun _ _ => rfl, filterMap_restName?]

theorem filterMap_announced?_publications :
    (publications .jaxRsResource target files bootstrap).filterMap announced? = restClasses files := by
  rw [filterMap_publications_rest _ _ _ _ (fun _ _ _ => rfl) fun _ _ => rfl,
    filterMap_jaxRsResource _ fun _ => rfl]

theorem filterMap_reflective?_publications :
    (publications .servletInitParam target files bootstrap).filterMap reflective? =
      restClasses files := by
  rw [filterMap_publications_rest _ _ _ _ (fun _ _ _ => rfl) fun _ _ => rfl,
    filterMap_servletInitParam_names _ (fun _ => rfl) fun _ _ => rfl]

/-- Whatever the policy, the records are one for each class file of the target, in the order of the names,
    then records of REST resources, and they name what the registration does. The policies agree on every
    record but those of REST resources. Opening classes to reflection and joining them in the parameter of
    the servlet says the same as announcing them one by one, if no name has a comma in it. -/
theorem publications_partition :
    (classFiles target).Pairwise (fun e e' => compare e.1 e'.1 = .lt) ∧
    (∀ policy, ∃ records,
      publications policy target files bootstrap =
        (classFiles target).map (recordOf bootstrap) ++ records ∧ ∀ r ∈ records, r.isRest = true) ∧
    (∀ policy, ofRecords (publications policy target files bootstrap) =
      ofBatch target files bootstrap) ∧
    (∀ policy policy', (publications policy target files bootstrap).filter (! ·.isRest) =
      (publications policy' target files bootstrap).filter (! ·.isRest)) ∧
    (publications .servletInitParam target files bootstrap).filterMap reflective? =
      (publications .jaxRsResource target files bootstrap).filterMap announced? ∧
    ((∀ name ∈ (ofBatch target files bootstrap).restResources, ',' ∉ name.toList) →
      ((publications .servletInitParam target files bootstrap).filterMap initParam?).map
          (fun param => (param.1, Text.pieces ',' param.2)) =
        if (publications .jaxRsResource target files bootstrap).filterMap announced? = [] then []
        else [(restResourcesParam,
          (publications .jaxRsResource target files bootstrap).filterMap announced?)]) := by
  have hparts : ∀ policy, publications policy target files bootstrap =
      (classFiles target).map (recordOf bootstrap) ++ restPublications policy (restClasses files) := by
    intro policy
    rw [publications, map_classPublication]
  have hrest : ∀ policy, ∀ r ∈ restPublications policy (restClasses files), r.isRest = true :=
    fun policy r hr => isRest_restPublications hr
  have hother : ∀ policy,
      (restPublications policy (restClasses files)).filter (! ·.isRest) = [] := by
    intro policy
    rw [List.filter_eq_nil_iff]
    intro r hr
    simp [hrest policy r hr]
  refine ⟨classFiles_increasing target, fun policy => ⟨_, hparts policy, hrest policy⟩,
    fun policy => ofRecords_publications policy target files bootstrap, ?_, ?_, ?_⟩
  · intro policy policy'
    rw [hparts, hparts, List.filter_append, List.filter_append, hother, hother]
  · rw [filterMap_reflective?_publications, filterMap_announced?_publications]
  · intro hcommas
    rw [filterMap_publications_rest _ _ _ _ (fun _ _ _ => rfl) fun _ _ => rfl,
      filterMap_announced?_publications]
    exact map_pieces_initParam? _ hcommas

/-- A target with the bootstrap class, another class and a file that is no class. -/
def mixedTarget : Store :=
  .ofList [("org/kie/R.class", Text.encode "r"), ("Boot.class", Text.encode "b"),
    ("META-INF/kie.conf", Text.encode "x")]

/-- Two REST sources, and a REST file that is no source. -/
def restBatch : List GeneratedFile :=
  [⟨.rest, "org/kie/R.java", Text.encode "class R {}"⟩, ⟨.rest, "openapi.json", Text.encode "{}"⟩,
    ⟨.rest, "org/kie/Q.java", Text.encode "class Q {}"⟩]

theorem publications_partition_restBatch :
    (∀ name ∈ (ofBatch mixedTarget restBatch (some "Boot")).restResources, ',' ∉ name.toList) ∧
    ((publications .servletInitParam mixedTarget restBatch (some "Boot")).filterMap initParam?).map
        (fun param => (param.1, Text.pieces ',' param.2)) =
      [(restResourcesParam, ["org.kie.R", "org.kie.Q"])] ∧
    publications .jaxRsResource mixedTarget restBatch (some "Boot") =
      [.generatedBean "Boot" (Text.encode "b"), .generatedClass "org.kie.R" (Text.encode "r") true,
        .restResource "org.kie.R", .restResource "org.kie.Q"] := by
  have hcommas : ∀ name ∈ (ofBatch mixedTarget restBatch (some "Boot")).restResources,
      ',' ∉ name.toList := by decide +kernel
  obtain ⟨-, -, -, -, -, hparam⟩ := publications_partition mixedTarget restBatch (some "Boot")
  refine ⟨hcommas, (hparam hcommas).trans ?_, ?_⟩
  · decide +kernel
  · decide +kernel

end Registration
end Buildwright
