-- SUMMARY: Writing files below an empty directory: what is there after each write, and when a write succeeds.
import Mathlib.Data.Set.Card
import Mathlib.Logic.Function.Basic
import Buildwright.Disk.Write
import Buildwright.Proofs.Disk.Walk
import Buildwright.Proofs.WeakestPre

/-!
# Writing below a directory

Files are written one after the other below a directory in which there is nothing at first, each with
the directories that it needs. The invariant `Holds` says what is there in between: the contents written
so far, each under its names, and directories on the way to files, but nothing else. No file is in the
way of another as long as the names of none begin those of another.
-/
namespace Buildwright.Disk

/-- Below a place, an entry that is put there changes nothing but what is under its own names. -/
theorem find?_put_append (d : Disk) {place : Location} {names : List String} (h : place ++ names ≠ [])
    (names' : List String) (e : Entry) :
    (d.put (place ++ names) e).find? (place ++ names') =
      if names' = names then some e else d.find? (place ++ names') := by
  rw [find?_put d h]
  simp only [List.append_right_inj]

/-- The places of the files below a directory. -/
def filesBelow (d : Disk) (place : Location) : Set Location :=
  {there | place <+: there ∧ ∃ f, d.find? there = some (.file f)}

/-! ## Sites -/

/-- A path leads to a directory with nothing in it. -/
structure LeadsToEmpty (d : Disk) (root : Path) (place : Location) : Prop where
  resolve_eq : ∃ t, d.resolve root = .ok (place, .directory t)
  find?_eq : ∀ names, names ≠ [] → d.find? (place ++ names) = none

/-- An empty directory, and the names that lead from there to the files that are to be written. -/
structure Site where
  before : Disk
  root : Path
  place : Location
  targets : List (List String)
  leads : before.LeadsToEmpty root place
  ne_nil : ∀ target ∈ targets, target ≠ []
  unnested : ∀ target ∈ targets, ∀ target' ∈ targets, target <+: target' → target = target'

namespace Site

/-- Names that lead to a directory in which a target lies, however deep. -/
def OnTheWay (w : Site) (names : List String) : Prop :=
  ∃ target ∈ w.targets, names <+: target ∧ names ≠ target

variable {w : Site} {d d' : Disk} {names : List String} {contents : List String → Option Bytes}

theorem OnTheWay.not_mem (h : w.OnTheWay names) : names ∉ w.targets := by
  obtain ⟨target, htarget, hbelow, hne⟩ := h
  intro hnames
  exact hne (w.unnested names hnames target htarget hbelow)

theorem OnTheWay.above {before : List String} (h : w.OnTheWay names) (hbefore : before <+: names) :
    w.OnTheWay before := by
  obtain ⟨target, htarget, hbelow, hne⟩ := h
  refine ⟨target, htarget, hbefore.trans hbelow, ?_⟩
  rintro rfl
  exact hne (hbelow.eq_of_length_le hbefore.length_le)

theorem walk_root (w : Site) :
    w.root.text ≠ "" ∧ ∃ t, walk w.before true mostLinks (start w.before.workingDirectory w.root)
      (steps w.root) = .ok (.present w.place (.directory t)) := by
  obtain ⟨t, hresolve⟩ := w.leads.resolve_eq
  obtain ⟨⟨hne, -⟩, hwalk⟩ := locate_eq_ok.1 (resolve_eq_ok.1 hresolve)
  exact ⟨hne, t, hwalk⟩

/-! ## What is there -/

/-- Below its directory, the disk holds the given contents under their names, and otherwise only
    directories on the way to targets. -/
structure Holds (w : Site) (d : Disk) (contents : List String → Option Bytes) : Prop where
  extends_before : w.before.Extends d
  top : ∀ {e}, d.find? w.place = some e → ∃ t, e = .directory t
  mem_targets : ∀ {names content}, contents names = some content → names ∈ w.targets
  file : ∀ {names content}, contents names = some content →
    d.DirectoriesAlong w.place names.dropLast ∧
      ∃ f, d.find? (w.place ++ names) = some (.file f) ∧ f.content = content
  only : ∀ {names e}, names ≠ [] → d.find? (w.place ++ names) = some e →
    (∃ f, e = .file f ∧ contents names = some f.content) ∨
      ((∃ t, e = .directory t) ∧ w.OnTheWay names)

/-- At first there is nothing. -/
theorem holds_before (w : Site) : w.Holds w.before fun _ => none where
  extends_before := .refl _
  top := by
    intro e he
    obtain ⟨-, t, hwalk⟩ := w.walk_root
    have hentry := walk_present hwalk
    rw [he] at hentry
    exact ⟨t, hentry⟩
  mem_targets h := by cases h
  file h := by cases h
  only hne he := by
    rw [w.leads.find?_eq _ hne] at he
    cases he

namespace Holds

theorem directory_of_find? (h : w.Holds d contents) (hway : names = [] ∨ w.OnTheWay names) {e : Entry}
    (he : d.find? (w.place ++ names) = some e) : ∃ t, e = .directory t := by
  by_cases hne : names = []
  · rw [hne, List.append_nil] at he
    exact h.top he
  · rcases h.only hne he with ⟨f, -, hcontents⟩ | ⟨hdirectory, -⟩
    · exact absurd (h.mem_targets hcontents) (hway.resolve_left hne).not_mem
    · exact hdirectory

theorem extends_put_directory (h : w.Holds d contents) (hway : names = [] ∨ w.OnTheWay names)
    (hplace : w.place ++ names ≠ []) (t : Int) :
    d.Extends (d.put (w.place ++ names) (.directory t)) := by
  apply extends_put hplace
  intro old hold
  obtain ⟨t', rfl⟩ := h.directory_of_find? hway hold
  exact .directory t' t

/-- A directory that is put on the way to a target changes nothing. -/
theorem put_directory (h : w.Holds d contents) (hway : names = [] ∨ w.OnTheWay names)
    (hplace : w.place ++ names ≠ []) (t : Int) :
    w.Holds (d.put (w.place ++ names) (.directory t)) contents := by
  have hextends := h.extends_put_directory hway hplace t
  constructor
  case extends_before => exact h.extends_before.trans hextends
  case top =>
    intro e he
    rw [find?_put d hplace] at he
    split at he
    · cases he
      exact ⟨t, rfl⟩
    · exact h.top he
  case mem_targets => exact h.mem_targets
  case file =>
    intro names' content hcontent
    obtain ⟨halong, f, hf, hfcontent⟩ := h.file hcontent
    refine ⟨halong.extends hextends, f, ?_, hfcontent⟩
    have hne : names' ≠ names := by
      intro heq
      obtain ⟨t', ht'⟩ := h.directory_of_find? hway (heq ▸ hf)
      cases ht'
    rw [find?_put_append d hplace, if_neg hne]
    exact hf
  case only =>
    intro names' e hne he
    rw [find?_put_append d hplace] at he
    split at he
    · next heq =>
      cases he
      subst heq
      exact .inr ⟨⟨t, rfl⟩, hway.resolve_left hne⟩
    · exact h.only hne he

/-- A file that is put at a target adds its content. -/
theorem put_file (h : w.Holds d contents) (hnames : names ∈ w.targets)
    (halong : d.DirectoriesAlong w.place names.dropLast) (f : File) :
    w.Holds (d.put (w.place ++ names) (.file f))
      (Function.update contents names (some f.content)) := by
  have hplace : w.place ++ names ≠ [] := by simp [w.ne_nil names hnames]
  have hextends : d.Extends (d.put (w.place ++ names) (.file f)) := by
    apply extends_put hplace
    intro old hold
    rcases h.only (w.ne_nil names hnames) hold with ⟨f', rfl, -⟩ | ⟨-, hway⟩
    · exact .file f' f
    · exact absurd hnames hway.not_mem
  constructor
  case extends_before => exact h.extends_before.trans hextends
  case top =>
    intro e he
    have hne : w.place ≠ w.place ++ names := by simp [w.ne_nil names hnames]
    rw [find?_put d hplace, if_neg hne] at he
    exact h.top he
  case mem_targets =>
    intro names' content hcontent
    by_cases heq : names' = names
    · rw [heq]
      exact hnames
    · rw [Function.update_of_ne heq] at hcontent
      exact h.mem_targets hcontent
  case file =>
    intro names' content hcontent
    rw [find?_put_append d hplace]
    by_cases heq : names' = names
    · subst heq
      rw [Function.update_self] at hcontent
      exact ⟨halong.extends hextends, f, if_pos rfl, Option.some.inj hcontent⟩
    · rw [Function.update_of_ne heq] at hcontent
      obtain ⟨halong', f', hf', hfcontent⟩ := h.file hcontent
      exact ⟨halong'.extends hextends, f', (if_neg heq).trans hf', hfcontent⟩
  case only =>
    intro names' e hne he
    rw [find?_put_append d hplace] at he
    split at he
    · next heq =>
      cases he
      subst heq
      exact .inl ⟨f, rfl, Function.update_self _ _ _⟩
    · next heq =>
      rw [Function.update_of_ne heq]
      exact h.only hne he

theorem extends_touch (h : w.Holds d contents) (hway : names = [] ∨ w.OnTheWay names) :
    d.Extends (d.touchDirectory (w.place ++ names)) := by
  unfold touchDirectory
  split
  · exact .refl d
  · next hplace => exact h.extends_put_directory hway hplace d.now

theorem touch (h : w.Holds d contents) (hway : names = [] ∨ w.OnTheWay names) :
    w.Holds (d.touchDirectory (w.place ++ names)) contents := by
  unfold touchDirectory
  split
  · exact h
  · next hplace => exact h.put_directory hway hplace d.now

/-- A new directory on the way to a target, in one that can be reached, can be reached itself. -/
theorem add_directory (h : w.Holds d contents) {name : String} (hway : w.OnTheWay (names ++ [name]))
    (halong : d.DirectoriesAlong w.place names) (t : Int) :
    w.Holds (d.addIn (w.place ++ names) name (.directory t)) contents ∧
      (d.addIn (w.place ++ names) name (.directory t)).DirectoriesAlong w.place
        (names ++ [name]) := by
  have hplace : w.place ++ (names ++ [name]) ≠ [] := by simp
  have hparent : names = [] ∨ w.OnTheWay names := .inr (hway.above (List.prefix_append _ _))
  rw [addIn, List.append_assoc]
  have hput := h.put_directory (.inr hway) hplace t
  have halong' : (d.put (w.place ++ (names ++ [name])) (.directory t)).DirectoriesAlong w.place
      (names ++ [name]) := by
    refine directoriesAlong_concat.2 ⟨?_, t, ?_⟩
    · exact halong.extends (h.extends_put_directory (.inr hway) hplace t)
    · rw [find?_put d hplace, if_pos rfl]
  exact ⟨hput.touch hparent, halong'.extends (hput.extends_touch hparent)⟩

/-- A new file at a target, in a directory that can be reached. -/
theorem add_file (h : w.Holds d contents) {name : String} (hnames : names ++ [name] ∈ w.targets)
    (halong : d.DirectoriesAlong w.place names) (f : File) :
    w.Holds (d.addIn (w.place ++ names) name (.file f))
      (Function.update contents (names ++ [name]) (some f.content)) := by
  rw [addIn, List.append_assoc]
  have hput := h.put_file hnames (by rwa [List.dropLast_concat]) f
  refine hput.touch (.inr ⟨names ++ [name], hnames, List.prefix_append _ _, ?_⟩)
  simp

/-! ## Finding the way -/

variable {p : Path}

/-- The root leads where it did. -/
theorem walk_root (h : w.Holds d contents) :
    ∃ t, walk d true mostLinks (start d.workingDirectory w.root) (steps w.root) =
      .ok (.present w.place (.directory t)) := by
  obtain ⟨-, _, hwalk⟩ := w.walk_root
  obtain ⟨e, hwalk'⟩ := walk_extends h.extends_before hwalk
  rw [← h.extends_before.workingDirectory] at hwalk'
  have hentry := walk_present hwalk'
  cases hfind : d.find? w.place with
  | none =>
    rw [hfind, Option.getD_none] at hentry
    exact ⟨d.now, by rw [hentry, hwalk']⟩
  | some e' =>
    rw [hfind, Option.getD_some] at hentry
    obtain ⟨t, rfl⟩ := h.top hfind
    exact ⟨t, by rw [hentry, hwalk']⟩

/-- A path that leads on from the root is followed from the directory that the root leads to. -/
theorem walk_eq (h : w.Holds d contents) (hp : Path.LeadsOn w.root names p) (hne : names ≠ [])
    (follow : Bool) :
    ∃ left, walk d follow mostLinks (start d.workingDirectory p) (Disk.names p) =
      walk d follow left w.place names := by
  obtain ⟨final, hsteps, hfinal⟩ := steps_eq w.root
  obtain ⟨t, hwalk⟩ := h.walk_root
  have hstart : start d.workingDirectory p = start d.workingDirectory w.root := by
    rw [start, start, hp.isAbsolute_eq w.walk_root.1]
  rw [hsteps] at hwalk
  obtain ⟨left, hgoesOn⟩ := walk_append hfinal hwalk
  refine ⟨left, ?_⟩
  rw [names_of_leadsOn hp, hstart]
  exact hgoesOn names hne

theorem locateName_eq (h : w.Holds d contents) (hp : Path.LeadsOn w.root names p) (hne : names ≠ [])
    (hfits : Fits p) :
    ∃ left, d.locateName p = walk d false left w.place names := by
  obtain ⟨left, hwalk⟩ := h.walk_eq hp hne false
  refine ⟨left, ?_⟩
  rw [locateName, checkLength_eq_ok.2 ⟨hp.text_ne, hfits.1⟩]
  exact hwalk

theorem resolve_of_walk (h : w.Holds d contents) (hp : Path.LeadsOn w.root names p) (hne : names ≠ [])
    (hfits : Fits p) {place : Location} {e : Entry}
    (hwalk : ∀ left, walk d true left w.place names = .ok (.present place e)) :
    d.resolve p = .ok (place, e) := by
  obtain ⟨left, hwalk'⟩ := h.walk_eq hp hne true
  rw [resolve_eq_ok, locate_eq_ok, steps_of_leadsOn hp, hwalk', hwalk]
  exact ⟨⟨hp.text_ne, hfits.1⟩, rfl⟩

/-! ## Creating directories -/

section Directories

variable {name : String}

/-- Whether it is new or was there before, a directory on the way to a target can be reached after it is
    created in one that can. -/
theorem createDirectory_of_along (h : w.Holds d contents)
    (hp : Path.LeadsOn w.root (names ++ [name]) p) (hfits : Fits p)
    (hway : w.OnTheWay (names ++ [name])) (halong : d.DirectoriesAlong w.place names) :
    (∃ d', d.createDirectory p = .ok d' ∧ w.Holds d' contents ∧
        d'.DirectoriesAlong w.place (names ++ [name])) ∨
      (d.createDirectory p = .error OsError.alreadyExists ∧ d.isDirectory p = true ∧
        d.DirectoriesAlong w.place (names ++ [name])) := by
  have hne : names ++ [name] ≠ [] := by simp
  have hnames := isName_of_leadsOn hp hfits
  have hname : IsName name := hnames name (by simp)
  have hwalk : ∀ {follow left}, walk d follow left w.place (names ++ [name]) =
      walk d follow left (w.place ++ names) [name] :=
    walk_along halong fun other hother => hnames other (List.mem_append_left _ hother)
  obtain ⟨left, hlocate⟩ := h.locateName_eq hp hne hfits
  cases hentry : d.find? (w.place ++ (names ++ [name])) with
  | none =>
    left
    rw [← List.append_assoc] at hentry
    rw [hwalk, walk_free hname hentry, if_pos rfl] at hlocate
    exact ⟨_, createDirectory_eq_ok.2 ⟨_, _, hlocate, rfl⟩, h.add_directory hway halong d.now⟩
  | some e =>
    right
    obtain ⟨t, rfl⟩ := h.directory_of_find? (.inr hway) hentry
    have halong' := directoriesAlong_concat.2 ⟨halong, t, hentry⟩
    rw [← List.append_assoc] at hentry
    have hpresent : ∀ {follow left}, walk d follow left w.place (names ++ [name]) =
        .ok (.present (w.place ++ names ++ [name]) (.directory t)) := by
      intro follow left
      rw [hwalk, walk_directory hname hentry, walk_nil, hentry, Option.getD_some]
    refine ⟨?_, ?_, halong'⟩
    · rw [createDirectory, hlocate, hpresent]
    · rw [isDirectory, h.resolve_of_walk hp hne hfits fun _ => hpresent]

/-- Without the directory that it would lie in, a directory is not created. -/
theorem createDirectory_of_not_along (h : w.Holds d contents)
    (hp : Path.LeadsOn w.root (names ++ [name]) p) (hfits : Fits p)
    (hway : w.OnTheWay (names ++ [name])) (halong : ¬ d.DirectoriesAlong w.place names) :
    d.createDirectory p = .error OsError.notFound := by
  have hnames := isName_of_leadsOn hp hfits
  obtain ⟨left, hlocate⟩ := h.locateName_eq hp (by simp) hfits
  have hwalk : walk d false left w.place (names ++ [name]) = .error .notFound := by
    apply walk_not_along halong
    · exact fun other hother => hnames other (List.mem_append_left _ hother)
    · exact List.cons_ne_nil name []
    · intro before hbefore _ e he
      exact h.directory_of_find? (.inr (hway.above (hbefore.trans (List.prefix_append _ _)))) he
  rw [createDirectory, hlocate, hwalk]

theorem unlessDirectory_spec {e : IoError} {Q : Unit → Disk → Prop} {E : IoError → Disk → Prop}
    (hdirectory : d.isDirectory p = true) (h : Q () d) : wp (unlessDirectory p e) Q E d := by
  have hrun : unlessDirectory p e d = .ok () d := by
    show (unless d.isDirectory p = true do throw e : DiskM Unit) d = .ok () d
    rw [if_pos hdirectory]
    rfl
  exact wp.run_ok hrun h

/-- A directory can be reached after its creation, if a failure is accepted when it was there before. -/
theorem createDirectory_spec (h : w.Holds d contents) (hp : Path.LeadsOn w.root (names ++ [name]) p)
    (hfits : Fits p) (hway : w.OnTheWay (names ++ [name])) (halong : d.DirectoriesAlong w.place names)
    {handle : IoError → DiskM Unit}
    (hhandle : handle OsError.alreadyExists = unlessDirectory p OsError.alreadyExists) :
    wp (tryCatch (change (·.createDirectory p)) handle)
      (fun _ d' => w.Holds d' contents ∧ d'.DirectoriesAlong w.place (names ++ [name]))
      (fun _ _ => False) d := by
  rcases h.createDirectory_of_along hp hfits hway halong with
    ⟨d', hcreate, hholds, halong'⟩ | ⟨hcreate, hdirectory, halong'⟩
  · apply wp.tryCatch
    exact wp.change_of_ok hcreate ⟨hholds, halong'⟩
  · apply wp.tryCatch
    apply wp.change_of_error hcreate
    rw [hhandle]
    exact unlessDirectory_spec hdirectory ⟨h, halong'⟩

/-- The parent of a path that fits does too. -/
theorem fits_of_leadsOn {root q : Path} (hp : Path.LeadsOn root (names ++ [name]) p) (hfits : Fits p)
    (hq : Path.LeadsOn root names q) (hle : q.text.utf8ByteSize ≤ p.text.utf8ByteSize) : Fits q := by
  refine ⟨Nat.le_trans hle hfits.1, fun other hother => hfits.2 other ?_⟩
  rw [names_of_leadsOn hq] at hother
  rw [names_of_leadsOn hp, ← List.append_assoc]
  exact List.mem_append_left _ hother

end Directories

/-- A directory on the way to a target is created together with those that lead to it. The induction is
    on the names from the last to the first, as the parents are created in that order. -/
theorem createDirectoriesFrom_spec (h : w.Holds d contents) (hp : Path.LeadsOn w.root names p)
    (hfits : Fits p) (hway : w.OnTheWay names) (hne : names ≠ []) {n : Nat} (hn : names.length ≤ n) :
    wp (createDirectoriesFrom n p)
      (fun _ d' => w.Holds d' contents ∧ d'.DirectoriesAlong w.place names) (fun _ _ => False) d := by
  induction names using List.reverseRecOn generalizing p n with
  | nil => exact absurd rfl hne
  | append_singleton names name ih =>
    obtain ⟨m, rfl⟩ : ∃ m, n = m + 1 := ⟨n - 1, by simp at hn; omega⟩
    have hm : names.length ≤ m := by simpa using hn
    rw [createDirectoriesFrom]
    by_cases halong : d.DirectoriesAlong w.place names
    · exact h.createDirectory_spec hp hfits hway halong rfl
    have hnames : names ≠ [] := by
      rintro rfl
      exact halong trivial
    obtain ⟨q, hparent, hq, hle⟩ := hp.exists_parent hnames
    have hbelow : names <+: names ++ [name] := List.prefix_append _ _
    have hparents := ih hq (fits_of_leadsOn hp hfits hq hle) (hway.above hbelow) hnames hm
    have hmissing := h.createDirectory_of_not_along hp hfits hway halong
    have hkind : (IoError.system .notFound).kind = .notFound := rfl
    apply wp.tryCatch
    apply wp.change_of_error hmissing
    rw [if_pos hkind, hparent]
    apply wp.bind
    refine hparents.mono ?_ (fun _ _ hfalse => hfalse)
    rintro - d' ⟨hholds, halong'⟩
    exact hholds.createDirectory_spec hp hfits hway halong' rfl

/-! ## Writing files -/

section Files

variable {name : String} {content : Bytes}

/-- A target is written to in a directory that can be reached, whether or not it was written before. -/
theorem write_of_along (h : w.Holds d contents) (hp : Path.LeadsOn w.root (names ++ [name]) p)
    (hfits : Fits p) (hmem : names ++ [name] ∈ w.targets) (halong : d.DirectoriesAlong w.place names) :
    ∃ d', d.write p content = .ok d' ∧
      w.Holds d' (Function.update contents (names ++ [name]) (some content)) := by
  have hnames := isName_of_leadsOn hp hfits
  have hname : IsName name := hnames name (by simp)
  obtain ⟨left, hwalk⟩ := h.walk_eq hp (by simp) false
  rw [walk_along halong fun other hother => hnames other (List.mem_append_left _ hother)] at hwalk
  have hlength := checkLength_eq_ok.2 ⟨hp.text_ne, hfits.1⟩
  cases hentry : d.find? (w.place ++ (names ++ [name])) with
  | none =>
    have hfree := hentry
    rw [← List.append_assoc] at hfree
    rw [walk_free hname hfree, if_pos rfl] at hwalk
    have hplace := fileToWrite_of_walk hp.endsWith_eq_false hwalk (by simp) mostLinks
    refine ⟨_, ?_, h.add_file hmem halong ⟨content, d.now, false⟩⟩
    exact write_eq_ok.2 (.inr ⟨_, _, placeToWrite_eq_ok.2 ⟨hlength, hplace⟩, rfl⟩)
  | some e =>
    rcases h.only (by simp) hentry with ⟨f, rfl, -⟩ | ⟨-, hway⟩
    · have hfile := hentry
      rw [← List.append_assoc] at hfile
      rw [walk_file hname hfile, if_pos rfl] at hwalk
      have hplace := fileToWrite_of_walk hp.endsWith_eq_false hwalk (by simp) mostLinks
      refine ⟨_, ?_, h.put_file hmem (by rwa [List.dropLast_concat])
        { f with content, modified := d.now }⟩
      rw [← List.append_assoc]
      exact write_eq_ok.2 (.inl ⟨_, _, placeToWrite_eq_ok.2 ⟨hlength, hplace⟩, rfl⟩)
    · exact absurd hmem hway.not_mem

/-- A file is written to a target together with the directories that lead to it. -/
theorem writeWithDirectories_spec (h : w.Holds d contents)
    (hp : Path.LeadsOn w.root (names ++ [name]) p) (hfits : Fits p) (hmem : names ++ [name] ∈ w.targets)
    (hne : names ≠ []) :
    wp (writeWithDirectories p content)
      (fun _ d' => w.Holds d' (Function.update contents (names ++ [name]) (some content)))
      (fun _ _ => False) d := by
  obtain ⟨q, hparent, hq, hle⟩ := hp.exists_parent hne
  have hway : w.OnTheWay names := ⟨names ++ [name], hmem, List.prefix_append _ _, by simp⟩
  have hparents := h.createDirectoriesFrom_spec hq (fits_of_leadsOn hp hfits hq hle) hway hne
    hq.length_le
  have hwrite : ∀ {d'}, w.Holds d' contents ∧ d'.DirectoriesAlong w.place names →
      wp (change (·.write p content))
        (fun _ d' => w.Holds d' (Function.update contents (names ++ [name]) (some content)))
        (fun _ _ => False) d' := by
    rintro d' ⟨hholds, halong⟩
    obtain ⟨d'', hwrite, hholds'⟩ := hholds.write_of_along hp hfits hmem halong
    exact wp.change_of_ok hwrite hholds'
  rw [writeWithDirectories, hparent]
  simp only [bne_iff_ne, ne_eq, hq.text_ne, not_false_eq_true, if_true]
  apply wp.bind
  exact hparents.mono (fun _ _ hd' => hwrite hd') fun _ _ hfalse => hfalse

/-- A content is read back under its names. -/
theorem read (h : w.Holds d contents) (hp : Path.LeadsOn w.root names p) (hfits : Fits p)
    (hcontent : contents names = some content) : d.read p = .ok content := by
  have hne : names ≠ [] := w.ne_nil names (h.mem_targets hcontent)
  obtain ⟨halong, f, hentry, rfl⟩ := h.file hcontent
  obtain ⟨before, last, rfl⟩ := (List.eq_nil_or_concat' names).resolve_left hne
  rw [List.dropLast_concat] at halong
  have hnames := isName_of_leadsOn hp hfits
  have hwalk : ∀ left, walk d true left w.place (before ++ [last]) =
      .ok (.present (w.place ++ before ++ [last]) (.file f)) := by
    intro left
    rw [← List.append_assoc] at hentry
    rw [walk_along halong fun other hother => hnames other (List.mem_append_left _ hother),
      walk_file (hnames last (by simp)) hentry, if_pos rfl]
  rw [Disk.read, h.resolve_of_walk hp hne hfits hwalk]

end Files

end Holds

/-! ## Success -/

section Success

variable {p : Path} {content : Bytes}

/-- Only a path that fits is written to. -/
theorem fits_of_write (h : d.write p content = .ok d') : Fits p := by
  obtain ⟨found, hplace, -⟩ := exists_placeToWrite h
  obtain ⟨hlength, hfile⟩ := placeToWrite_eq_ok.1 hplace
  obtain ⟨-, found', hwalk, -⟩ := fileToWrite_eq_ok hfile
  exact ⟨(checkLength_eq_ok.1 hlength).2, walk_utf8ByteSize_le hwalk⟩

theorem fits_of_writeWithDirectories :
    wp (writeWithDirectories p content) (fun _ _ => Fits p) (fun _ _ => True) d := by
  have hwrite : ∀ d', wp (change (·.write p content)) (fun _ _ => Fits p) (fun _ _ => True) d' :=
    fun d' => wp.change (fun _ h => fits_of_write h) fun _ _ => trivial
  unfold writeWithDirectories
  split
  · next parent _ =>
    split
    · exact wp.bind (wp.trivial.mono (fun _ d' _ => hwrite d') fun _ _ _ => trivial)
    · exact hwrite d
  · exact hwrite d

end Success

/-! ## Writing one file after the other -/

/-- The contents after others have been written under their names in turn. -/
def written (es : List (List String × Bytes)) (contents : List String → Option Bytes) :
    List String → Option Bytes :=
  es.foldl (fun contents e => Function.update contents e.1 (some e.2)) contents

section Written

variable {es : List (List String × Bytes)}

theorem written_cons (e : List String × Bytes) (es : List (List String × Bytes))
    (contents : List String → Option Bytes) :
    written (e :: es) contents = written es (Function.update contents e.1 (some e.2)) := rfl

theorem written_of_not_mem (h : names ∉ es.map (·.1)) : written es contents names = contents names := by
  induction es generalizing contents with
  | nil => rfl
  | cons e rest ih =>
    rw [List.map_cons, List.mem_cons, not_or] at h
    rw [written_cons, ih h.2, Function.update_of_ne h.1]

/-- There is a content exactly under the names that were written to or had one before. -/
theorem isSome_written :
    (written es contents names).isSome = true ↔
      names ∈ es.map (·.1) ∨ (contents names).isSome = true := by
  induction es generalizing contents with
  | nil => simp [written]
  | cons e rest ih =>
    rw [written_cons, ih, List.map_cons, List.mem_cons]
    by_cases heq : names = e.1
    · simp [heq]
    · simp [heq]

/-- What is written under distinct names is all there. -/
theorem written_of_mem (hnodup : (es.map (·.1)).Nodup) {content : Bytes}
    (h : (names, content) ∈ es) : written es contents names = some content := by
  induction es generalizing contents with
  | nil => exact absurd h List.not_mem_nil
  | cons e rest ih =>
    rw [List.map_cons, List.nodup_cons] at hnodup
    rw [written_cons]
    rcases List.mem_cons.1 h with rfl | h
    · rw [written_of_not_mem hnodup.1, Function.update_self]
    · exact ih hnodup.2 h

/-- There are as many names with a content as writes exactly if no name is written to twice. -/
theorem ncard_written_eq_length_iff :
    {names | (written es (fun _ => none) names).isSome = true}.ncard = es.length ↔
      (es.map (·.1)).Nodup := by
  have hset : {names | (written es (fun _ => none) names).isSome = true} =
      ((es.map (·.1)).toFinset : Set (List String)) := by
    ext names
    simp [isSome_written]
  rw [hset, Set.ncard_coe_finset, ← List.length_map]
  exact Multiset.toFinset_card_eq_card_iff_nodup

end Written

/-- A relative path, as text, that leads to a target which does not lie directly in the directory. -/
structure Suits (w : Site) (name : String) : Prop where
  leadsOn : Path.LeadsOn w.root (Disk.names ⟨name⟩) (w.root.join ⟨name⟩)
  mem_targets : Disk.names ⟨name⟩ ∈ w.targets
  one_lt_length : 1 < (Disk.names ⟨name⟩).length

section All

variable {es : List (String × Bytes)}

/-- If each of the files can be written, whatever has been written before, all of them are. -/
theorem writeAll_of_each (h : w.Holds d contents)
    (heach : ∀ e ∈ es, ∀ {d contents}, w.Holds d contents →
      wp (writeWithDirectories (w.root.join ⟨e.1⟩) e.2)
        (fun _ d' => w.Holds d' (Function.update contents (Disk.names ⟨e.1⟩) (some e.2)))
        (fun _ _ => False) d) :
    wp (es.forM fun e => writeWithDirectories (w.root.join ⟨e.1⟩) e.2)
      (fun _ d' => w.Holds d' (written (es.map fun e => (Disk.names ⟨e.1⟩, e.2)) contents))
      (fun _ _ => False) d := by
  induction es generalizing d contents with
  | nil => exact wp.pure h
  | cons e rest ih =>
    obtain ⟨hfirst, hrest⟩ := List.forall_mem_cons.1 heach
    rw [List.map_cons, written_cons]
    exact wp.forM_cons ((hfirst h).mono (fun _ d' hd' => ih hd' hrest) fun _ _ hfalse => hfalse)

/-- Paths that fit are all written to. -/
theorem writeAll_spec (h : w.Holds d contents) (hsuits : ∀ e ∈ es, w.Suits e.1)
    (hfits : ∀ e ∈ es, Fits (w.root.join ⟨e.1⟩)) :
    wp (es.forM fun e => writeWithDirectories (w.root.join ⟨e.1⟩) e.2)
      (fun _ d' => w.Holds d' (written (es.map fun e => (Disk.names ⟨e.1⟩, e.2)) contents))
      (fun _ _ => False) d := by
  refine writeAll_of_each h fun e he {d contents} h => ?_
  obtain ⟨hleads, hmem, hlength⟩ := hsuits e he
  generalize Disk.names ⟨e.1⟩ = names at hleads hmem hlength ⊢
  obtain ⟨before, last, rfl⟩ := (List.eq_nil_or_concat' names).resolve_left (w.ne_nil names hmem)
  have hne : before ≠ [] := by
    rintro rfl
    simp at hlength
  exact h.writeWithDirectories_spec hleads (hfits e he) hmem hne

/-- If all are written to, all paths fit. -/
theorem writeAll_fits (root : Path) :
    wp (es.forM fun e => writeWithDirectories (root.join ⟨e.1⟩) e.2)
      (fun _ _ => ∀ e ∈ es, Fits (root.join ⟨e.1⟩)) (fun _ _ => True) d := by
  induction es generalizing d with
  | nil => exact wp.pure fun _ he => absurd he List.not_mem_nil
  | cons e rest ih =>
    refine wp.forM_cons ?_
    refine fits_of_writeWithDirectories.mono (fun _ d' hfits => ?_) fun _ _ _ => trivial
    exact ih.mono (fun _ _ hfits' => List.forall_mem_cons.2 ⟨hfits, hfits'⟩)
      fun _ _ _ => trivial

end All

/-! ## Counting files -/

/-- There are as many files as names with a content. -/
theorem Holds.ncard_filesBelow (h : w.Holds d contents) :
    (d.filesBelow w.place).ncard = {names | (contents names).isSome = true}.ncard := by
  have himage : d.filesBelow w.place =
      (w.place ++ ·) '' {names | (contents names).isSome = true} := by
    ext there
    constructor
    · rintro ⟨⟨names, rfl⟩, f, hf⟩
      have hne : names ≠ [] := by
        rintro rfl
        rw [List.append_nil] at hf
        obtain ⟨t, ht⟩ := h.top hf
        cases ht
      refine ⟨names, ?_, rfl⟩
      rcases h.only hne hf with ⟨f', -, hcontents⟩ | ⟨⟨t, ht⟩, -⟩
      · exact Option.isSome_iff_exists.2 ⟨_, hcontents⟩
      · cases ht
    · rintro ⟨names, hnames, rfl⟩
      obtain ⟨content, hcontent⟩ := Option.isSome_iff_exists.1 hnames
      obtain ⟨-, f, hf, -⟩ := h.file hcontent
      exact ⟨List.prefix_append _ _, f, hf⟩
  rw [himage]
  exact Set.ncard_image_of_injective _ (List.append_right_injective w.place)

end Site
end Buildwright.Disk
