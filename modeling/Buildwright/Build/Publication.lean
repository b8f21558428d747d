-- SUMMARY: What a build publishes, and how compiler output and generated files decide it.
import Buildwright.Generation.File
import Buildwright.Store

/-!
# Publications

A build publishes its compiled classes, its REST resources, the files to be watched and a feature.
`register` turns the output of the compiler and the files of a batch into publications, and sums them
up in a `Registration`.
-/
namespace Buildwright

/-- One thing that a build makes known. -/
inductive Publication where
  | generatedClass (name : String) (content : Bytes) (application : Bool)
  | generatedBean (name : String) (content : Bytes)
  | reflectiveClass (name : String)
  | restResource (name : String)
  | servletInitParam (key value : String)
  | hotDeploymentWatch (path : Path)
  | feature (name : String)
  deriving DecidableEq

/-- How REST resources are made known. -/
inductive RestPolicy where
  /-- Each on its own. -/
  | jaxRsResource
  /-- As reflective classes, and together in a parameter of the servlet. -/
  | servletInitParam
  deriving DecidableEq, Repr

/-- The policies with their names. -/
def RestPolicy.named : List (String × RestPolicy) :=
  [("jax-rs-resource", jaxRsResource), ("servlet-init-param", servletInitParam)]

/-- The names of what a build has registered. -/
structure Registration where
  classes : List String
  beans : List String
  restResources : List String
  deriving DecidableEq, Repr

namespace Registration

/-- The registration of nothing. -/
def empty : Registration := ⟨[], [], []⟩

/-- The parameter of the servlet that lists the REST resources. -/
def restResourcesParam : String := "resteasy.resources"

/-- The class that an entry of the target holds, if it is a class file. -/
def compiledClass? (e : String × Bytes) : Option (String × Bytes) :=
  if Text.endsWith ClassName.classSuffix e.1 then some (ClassName.ofPath e.1, e.2) else none

/-- The classes in the output of the compiler, in the order of their paths. -/
def compiledClasses (target : Store) : List (String × Bytes) :=
  target.entries.filterMap compiledClass?

/-- The publication of a class: the bootstrap class is a bean, and any other a class of the
    application. -/
def classPublication (bootstrap : Option String) (c : String × Bytes) : Publication :=
  if bootstrap = some c.1 then .generatedBean c.1 c.2 else .generatedClass c.1 c.2 true

/-- The classes of the REST sources of a batch, in its order. -/
def restClasses (files : List GeneratedFile) : List String :=
  (files.filter fun f => f.isSource && f.kind = .rest).map (·.className)

/-- The publications of REST resources. -/
def restPublications (policy : RestPolicy) (rest : List String) : List Publication :=
  match policy with
  | .jaxRsResource => rest.map .restResource
  | .servletInitParam =>
    rest.map .reflectiveClass ++
      if rest = [] then [] else [.servletInitParam restResourcesParam (Text.joined "," rest)]

/-- The publications of compiler output and of the files of a batch. -/
def publications (policy : RestPolicy) (target : Store) (files : List GeneratedFile)
    (bootstrap : Option String) : List Publication :=
  (compiledClasses target).map (classPublication bootstrap) ++
    restPublications policy (restClasses files)

/-- What compiler output and the files of a batch amount to. -/
def ofBatch (target : Store) (files : List GeneratedFile) (bootstrap : Option String) :
    Registration where
  classes := (compiledClasses target).map (·.1) |>.filter fun name => bootstrap != some name
  beans := (compiledClasses target).map (·.1) |>.filter fun name => bootstrap = some name
  restResources := restClasses files

end Registration
end Buildwright
