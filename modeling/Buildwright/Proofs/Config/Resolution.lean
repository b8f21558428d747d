-- SUMMARY: Which file the configuration of a project is read from, and what the environment changes about it.
import Buildwright.Config.Load
import Buildwright.Proofs.Disk.Below

/-!
# Resolving configurations

Two variables bear on the configuration of a project. One names the file to be read, the other the directory
for copies of generated files. `Resolves` says what a project relies on: at most one file is read, the second
variable changes one setting and nothing else, and a variable that is empty counts for as much as one that is
not set. The last holds of the second variable, but not of the first, whose empty value is taken for the path
of the root itself.
-/
namespace Buildwright

/-! ## Variables -/

namespace Environment

variable {env : Environment} {name other : String}

/-- The value of a variable that is set and not empty. -/
def value? (env : Environment) (name : String) : Option String :=
  (env.lookup name).filter (· != "")

/-- The environment in which a variable is not set. -/
def unset (env : Environment) (name : String) : Environment :=
  env.filter (·.1 != name)

theorem value?_of_ne (h : env.lookup name ≠ some "") : env.value? name = env.lookup name := by
  rw [value?]
  cases hvalue : env.lookup name with
  | none => rfl
  | some value =>
    have hne : value ≠ "" := fun hempty => h (by rw [hvalue, hempty])
    simp [Option.filter, hne]

theorem value?_of_empty (h : env.lookup name = some "") : env.value? name = none := by
  rw [value?, h]
  rfl

theorem lookup_unset : (env.unset name).lookup other = if other = name then none else env.lookup other := by
  induction env with
  | nil => simp [unset]
  | cons first rest ih =>
    obtain ⟨set, value⟩ := first
    rw [unset] at ih ⊢
    by_cases hset : set = name
    · rw [List.filter_cons_of_neg (by simp [hset]), ih, List.lookup_cons, hset]
      by_cases hother : other = name
      · simp [hother]
      · simp [hother, beq_eq_false_iff_ne.2 hother]
    · rw [List.filter_cons_of_pos (by simp [hset]), List.lookup_cons, List.lookup_cons, ih]
      by_cases hother : other = set
      · have hne : other ≠ name := fun heq => hset (hother ▸ heq)
        simp [hother, hset]
      · simp only [beq_eq_false_iff_ne.2 hother]

end Environment

namespace Config

variable {env env' : Environment} {d d' : Disk} {root : Path} {c : Config}

/-! ## What is resolved -/

/-- The file that the configuration of a project is to be read from: the one that the variable names, or else
    the one at the root, if that is a regular file. -/
def source? (env : Environment) (d : Disk) (root : Path) : Option Path :=
  match env.value? pathVariable with
  | some named => some (Project.resolve root ⟨named⟩)
  | none => if d.isFile (root.join fileName) then some (root.join fileName) else none

/-- The configuration with the directory for copies that the variable names, if it names one. -/
def redirected (env : Environment) (c : Config) : Config :=
  { c with build := { c.build with
      debugDirectory := ((env.value? debugVariable).map Path.mk).or c.build.debugDirectory } }

/-- The configuration of a project is that of its source, or the standard one if there is no source, but for
    the directory for copies. No other file is read, and a variable that is empty might as well not be set. -/
structure Resolves (env : Environment) (d : Disk) (root : Path) : Prop where
  standard : source? env d root = none → loadForProject env d root = .ok (redirected env {}, none)
  unreadable : ∀ {p e}, source? env d root = some p → d.readText p = .error e →
    loadForProject env d root = .error (.unreadable p e)
  malformed : ∀ {p text e}, source? env d root = some p → d.readText p = .ok text → ofText text = .error e →
    loadForProject env d root = .error e
  loaded : ∀ {p text c}, source? env d root = some p → d.readText p = .ok text → ofText text = .ok c →
    loadForProject env d root = .ok (redirected env c, some p)
  oneFile : ∀ d', source? env d' root = source? env d root →
    (∀ p, source? env d root = some p → d'.readText p = d.readText p) →
    loadForProject env d' root = loadForProject env d root
  empty : ∀ name ∈ [pathVariable, debugVariable], env.lookup name = some "" →
    loadForProject (env.unset name) d root = loadForProject env d root

/-! ## What the environment changes -/

theorem override_eq : override env c = redirected env c := by
  unfold override redirected
  split
  · next hunset => simp [Environment.value?, hunset]
  · next hempty => simp [Environment.value?_of_empty hempty]
  · next directory hne hset =>
    rw [Environment.value?_of_ne fun hempty => hne (Option.some.inj (hset.symm.trans hempty)), hset]
    rfl

/-- Only the two variables count, and whether the second is empty or not set makes no difference. -/
theorem loadForProject_congr (hpath : env'.lookup pathVariable = env.lookup pathVariable)
    (hdebug : env'.value? debugVariable = env.value? debugVariable) :
    loadForProject env' d root = loadForProject env d root := by
  have hoverride : override env' = override env := by
    funext c
    rw [override_eq, override_eq, redirected, redirected, hdebug]
  rw [loadForProject, loadForProject, discover, discover, hpath, hoverride]

theorem discover_eq (h : env.lookup pathVariable ≠ some "") : discover env d root = source? env d root := by
  rw [discover, source?, Environment.value?_of_ne h]
  cases env.lookup pathVariable with
  | none => rfl
  | some named => rfl

theorem loadForProject_of_none (h : discover env d root = none) :
    loadForProject env d root = .ok (redirected env {}, none) := by
  rw [loadForProject, h, ← override_eq]

theorem loadForProject_of_some {p : Path} (h : discover env d root = some p) :
    loadForProject env d root = (load d p).map fun c => (redirected env c, some p) := by
  rw [loadForProject, h]
  simp only [override_eq]

/-- The empty path, as seen from a root, is empty or ends in a slash. -/
theorem text_resolve_empty (root : Path) : (Project.resolve root ⟨""⟩).text = "" ∨
    Text.endsWith "/" (Project.resolve root ⟨""⟩).text = true := by
  have hrelative : (Path.mk "").isAbsolute = false := by decide
  rw [Project.resolve, if_neg (by simp [hrelative]), Path.join, if_neg (by simp [hrelative])]
  split
  · next hroot => simpa using hroot
  · exact .inr (Text.endsWith_eq_true.2 ⟨root.text, by simp⟩)

theorem discover_of_empty (h : env.lookup pathVariable = some "") :
    discover env d root = some (Project.resolve root ⟨""⟩) := by
  rw [discover, h]

/-- The empty path of a file stands for the root with a slash behind it, where no file can be. -/
theorem loadForProject_of_empty (hd : d.Rooted) (h : env.lookup pathVariable = some "") (root : Path) :
    ∃ e, loadForProject env d root = .error (.unreadable (Project.resolve root ⟨""⟩) e) := by
  obtain ⟨e, he⟩ := hd.exists_readText_eq_error (text_resolve_empty root)
  refine ⟨e, ?_⟩
  rw [loadForProject_of_some (discover_of_empty h), load, he]
  rfl

theorem resolves_of_ne (h : env.lookup pathVariable ≠ some "") : Resolves env d root where
  standard hnone := loadForProject_of_none ((discover_eq h).trans hnone)
  unreadable hsource hread := by
    rw [loadForProject_of_some ((discover_eq h).trans hsource), load, hread]
    rfl
  malformed hsource hread htext := by
    rw [loadForProject_of_some ((discover_eq h).trans hsource), load, hread]
    simp only [htext]
    rfl
  loaded hsource hread htext := by
    rw [loadForProject_of_some ((discover_eq h).trans hsource), load, hread]
    simp only [htext]
    rfl
  oneFile d' hsource hread := by
    cases hfile : source? env d root with
    | none =>
      rw [loadForProject_of_none ((discover_eq h).trans hfile),
        loadForProject_of_none ((discover_eq h).trans (hsource.trans hfile))]
    | some p =>
      rw [loadForProject_of_some ((discover_eq h).trans hfile),
        loadForProject_of_some ((discover_eq h).trans (hsource.trans hfile)), load, load, hread p hfile]
  empty name hname hempty := by
    simp only [List.mem_cons, List.not_mem_nil, or_false] at hname
    rcases hname with rfl | rfl
    · exact absurd hempty h
    · refine loadForProject_congr ?_ ?_
      · rw [Environment.lookup_unset, if_neg (by decide)]
      · rw [Environment.value?_of_empty hempty, Environment.value?, Environment.lookup_unset, if_pos rfl]
        rfl

/-- The file at a root has a path that does not end in a slash. -/
theorem join_fileName_ne (root : Path) : root.join fileName ≠ Project.resolve root ⟨""⟩ := by
  have hends : ∃ front, (root.join fileName).text = front ++ fileName.text := by
    rw [Path.join, if_neg (by decide)]
    split
    · exact ⟨root.text, rfl⟩
    · exact ⟨root.text ++ "/", rfl⟩
  obtain ⟨front, htext⟩ := hends
  intro heq
  rcases text_resolve_empty root with hempty | hslash
  · rw [← heq, htext] at hempty
    exact absurd (String.append_eq_empty_iff.1 hempty).2 (by decide)
  · rw [← heq, htext] at hslash
    have hnone : Text.endsWith "/" (front ++ fileName.text) = false :=
      (Text.endsWith_append_of_ne (c := '/') front (by decide)).trans (by decide)
    rw [hnone] at hslash
    cases hslash

/-- If no file is named, nothing is read but the file at the root. -/
theorem eq_of_unreadable {p : Path} {e : IoError} (hunset : env.lookup pathVariable = none)
    (h : loadForProject env d root = .error (.unreadable p e)) : p = root.join fileName := by
  have hsource : discover env d root = source? env d root := discover_eq (by simp [hunset])
  have hvalue : env.value? pathVariable = none := by
    rw [Environment.value?, hunset]
    rfl
  rw [source?, hvalue] at hsource
  simp only at hsource
  split at hsource
  · rw [loadForProject_of_some hsource, load] at h
    cases hread : d.readText (root.join fileName) with
    | error e' =>
      rw [hread] at h
      cases h
      rfl
    | ok text =>
      simp only [hread, ofText] at h
      cases hparse : Toml.parse? text with
      | none =>
        rw [hparse] at h
        cases h
      | some entries =>
        simp only [hparse] at h
        cases htable : ofTable entries <;> rw [htable] at h <;> cases h
  · rw [loadForProject_of_none hsource] at h
    cases h

/-- If the empty value is taken for a path, it makes a difference. -/
theorem Resolves.lookup_ne (hd : d.Rooted) (h : Resolves env d root) : env.lookup pathVariable ≠ some "" := by
  intro hempty
  obtain ⟨e, herror⟩ := loadForProject_of_empty hd hempty root
  have hunset : (env.unset pathVariable).lookup pathVariable = none := by
    rw [Environment.lookup_unset, if_pos rfl]
  exact join_fileName_ne root
    (eq_of_unreadable hunset ((h.empty pathVariable (by simp) hempty).trans herror)).symm

/-! ## The result -/

/-- The configuration of a project is what it should be exactly unless the variable that names a file is set
    to the empty text. -/
theorem resolves_iff (hd : d.Rooted) : Resolves env d root ↔ env.lookup pathVariable ≠ some "" :=
  ⟨Resolves.lookup_ne hd, resolves_of_ne⟩

/-- A project with a configuration at its root and another one below it. -/
def twoFiles : Disk where
  entries := [(["tmp"], .directory 0), (["p"], .directory 0), (["p", "conf"], .directory 0),
    (["p", "kiln.toml"], .file ⟨Text.encode "[logging]\nlevel = \"debug\"\n", 0, false⟩),
    (["p", "conf", "alt.toml"], .file ⟨Text.encode "[logging]\nlevel = \"warn\"\n", 0, false⟩)]
  workingDirectory := []
  now := 0

/-- The variables, the first of which names the other file, and the second of which is empty. -/
def namesOther : Environment :=
  [(pathVariable, "conf/alt.toml"), (debugVariable, "")]

theorem resolves_iff_namesOther : twoFiles.Rooted ∧ Resolves namesOther twoFiles "/p" ∧
    source? namesOther twoFiles "/p" = some ⟨"/p/conf/alt.toml"⟩ ∧
    (loadForProject namesOther twoFiles "/p").toOption =
      some ({ logging := { level := "warn" } }, some ⟨"/p/conf/alt.toml"⟩) := by
  have hrooted : twoFiles.Rooted := Disk.Rooted.of_entries (by decide +kernel) (by decide +kernel)
  exact ⟨hrooted, (resolves_iff hrooted).2 (by decide +kernel), by decide +kernel, by decide +kernel⟩

/-- A project without a configuration. -/
def bare : Disk where
  entries := [(["tmp"], .directory 0), (["p"], .directory 0)]
  workingDirectory := []
  now := 0

/-- An empty variable turns the standard configuration into an error. -/
theorem not_resolves_emptyVariable : ¬ Resolves [(pathVariable, "")] bare "/p" := by
  intro h
  have hrooted : bare.Rooted := Disk.Rooted.of_entries (by decide +kernel) (by decide +kernel)
  exact h.lookup_ne hrooted rfl

end Config

end Buildwright
