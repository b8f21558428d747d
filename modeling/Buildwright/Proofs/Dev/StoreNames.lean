-- SUMMARY: When changed sources are staged each under a name of its own: exactly if no two of them differ in parent directories only.
import Buildwright.Dev.Provider
import Buildwright.Proofs.Entries
import Buildwright.Proofs.Path.Relative
import Buildwright.Proofs.WeakestPre

/-!
# Names of changed sources

A changed source is staged under the names of its path. These are all that there is to an absolute path but
for `..`, which is passed over. So two paths that differ only in where they go to a parent directory are
staged under one name: the text of the first source is lost, and that of the second is there twice.
-/
namespace Buildwright

namespace Path

variable {p q : Path}

/-- Paths differ, but in components `..` only. -/
def DifferInParents (p q : Path) : Prop :=
  p ≠ q ∧ p.components.filter (· ≠ .parent) = q.components.filter (· ≠ .parent)

instance (p q : Path) : Decidable (DifferInParents p q) :=
  inferInstanceAs (Decidable (_ ∧ _))

/-- Apart from `..`, the components behind the head are the names. -/
theorem filter_ne_parent {cs : List Component} (h : ∀ c ∈ cs, c = .parent ∨ ∃ name, c = .named name) :
    cs.filter (· ≠ .parent) = (cs.filterMap Component.name?).map .named := by
  induction cs with
  | nil => rfl
  | cons c rest ih =>
    obtain ⟨hc, hrest⟩ := List.forall_mem_cons.1 h
    rcases hc with rfl | ⟨name, rfl⟩
    · rw [List.filter_cons_of_neg (by simp), List.filterMap_cons_none rfl, ih hrest]
    · have hname : Component.name? (.named name) = some name := rfl
      rw [List.filter_cons_of_pos (by simp), List.filterMap_cons_some hname, ih hrest, List.map_cons]

/-- Apart from `..`, an absolute path goes through the root and its names. -/
theorem filter_components_of_isAbsolute (h : p.isAbsolute = true) :
    p.components.filter (· ≠ .parent) = .root :: p.names.map .named := by
  have hroot : Component.name? .root = none := rfl
  rw [names, components_of_isAbsolute h, List.filter_cons_of_pos (by simp),
    List.filterMap_cons_none hroot, filter_ne_parent]
  intro c hc
  obtain ⟨piece, -, hpiece⟩ := List.mem_filterMap.1 hc
  exact (of_ofPiece?_eq_some hpiece).imp_right fun hnamed => ⟨piece, hnamed.1⟩

theorem differInParents_iff (hp : p.isAbsolute = true) (hq : q.isAbsolute = true) :
    DifferInParents p q ↔ p ≠ q ∧ p.names = q.names := by
  rw [DifferInParents, filter_components_of_isAbsolute hp, filter_components_of_isAbsolute hq,
    List.cons_inj_right, Component.named_injective.list_map.eq_iff]

end Path

namespace JavaProvider

variable {p q : Path} {files : SortedSet Path} {d : Disk} {ps : List Path}

/-! ## Names -/

/-- The names of a path can be read off its store name. -/
theorem names_eq_filter_pieces (p : Path) :
    p.names = (Text.pieces '/' (storeName p)).filter (· != "") := by
  have hnames : ∀ name ∈ p.names, name ≠ "" ∧ '/' ∉ name.toList := fun _ => Path.of_mem_names
  by_cases hempty : p.names = []
  · rw [storeName, hempty]
    decide
  · have hpieces : Text.pieces '/' (Text.joined "/" p.names) = p.names :=
      Text.pieces_joined (fun name hname => (hnames name hname).2) hempty
    rw [storeName, hpieces, List.filter_eq_self.2 fun name hname => by simpa using (hnames name hname).1]

/-- Two sources have one store name exactly if they are the same, or differ in `..` only. -/
theorem storeName_eq_iff (hp : p.isAbsolute = true) (hq : q.isAbsolute = true) :
    storeName p = storeName q ↔ p = q ∨ p.DifferInParents q := by
  have hnames : storeName p = storeName q ↔ p.names = q.names := by
    constructor
    · intro h
      rw [names_eq_filter_pieces p, names_eq_filter_pieces q, h]
    · intro h
      rw [storeName, storeName, h]
  rw [hnames, Path.differInParents_iff hp hq]
  constructor
  · exact fun h => (em (p = q)).imp_right fun hne => ⟨hne, h⟩
  · rintro (rfl | ⟨-, h⟩)
    · rfl
    · exact h

/-! ## Staging -/

/-- Sources are staged apart: their names are distinct, there is one for each source, in the same order, and
    under each name the store holds the content of that source. -/
def StagesApart (files : SortedSet Path) (d : Disk) : Prop :=
  ∃ names store, stage files.keys d = .ok (names, store) ∧ names.Nodup ∧
    List.Forall₂ (fun p name => ∃ content, d.read p = .ok content ∧ store.read name = .ok content)
      files.keys names

theorem stageFile_eq_ok {staged staged' : List String × Store} (h : stageFile d staged p = .ok staged') :
    ∃ content, d.read p = .ok content ∧
      staged' = (staged.1 ++ [storeName p], staged.2.write (storeName p) content) := by
  unfold stageFile at h
  split at h
  · next content hcontent => exact ⟨content, hcontent, (Except.ok.inj h).symm⟩
  · cases h

/-- Sources are staged under their store names, in their order. -/
theorem names_of_stage {names : List String} {store : Store} (h : stage ps d = .ok (names, store)) :
    names = ps.map storeName := by
  refine foldlM_invariant (I := fun before s => s.1 = before.map storeName) rfl ?_ h
  intro before p after s s' _ hbefore hstep
  obtain ⟨content, -, rfl⟩ := stageFile_eq_ok hstep
  rw [hbefore, List.map_append, List.map_singleton]

/-- Sources that are staged can all be read. -/
theorem exists_read_of_stage {staged : List String × Store} (h : stage ps d = .ok staged) (hp : p ∈ ps) :
    ∃ content, d.read p = .ok content := by
  obtain ⟨before, after, hstep⟩ := exists_step_of_foldlM h hp
  obtain ⟨content, hcontent, -⟩ := stageFile_eq_ok hstep
  exact ⟨content, hcontent⟩

/-- Sources that can be read are all staged, in their order. -/
theorem exists_stage (hread : ∀ p ∈ ps, ∃ content, d.read p = .ok content) :
    ∃ store, stage ps d = .ok (ps.map storeName, store) := by
  cases hstage : stage ps d with
  | error e =>
    obtain ⟨before, p, after, staged, rfl, -, hfails⟩ := foldlM_eq_error.1 hstage
    obtain ⟨content, hcontent⟩ := hread p (by simp)
    rw [stageFile, hcontent] at hfails
    cases hfails
  | ok staged => exact ⟨staged.2, congrArg Except.ok (Prod.ext (names_of_stage hstage) rfl)⟩

/-- Under names that are distinct, each source is found again. -/
theorem read_of_stage {staged : List String × Store} (hdistinct : (ps.map storeName).Nodup)
    (h : stage ps d = .ok staged) {content : Bytes} (hp : p ∈ ps) (hcontent : d.read p = .ok content) :
    staged.2.read (storeName p) = .ok content := by
  have hinjective : ∀ q ∈ ps, storeName p = storeName q → p = q := fun q hq =>
    List.inj_on_of_nodup_map hdistinct hp hq
  refine foldlM_invariant (I := fun before s => p ∈ before → s.2.read (storeName p) = .ok content)
    (fun hnone => absurd hnone List.not_mem_nil) ?_ h hp
  intro before q after s s' hps hbefore hstep hmem
  obtain ⟨content', hcontent', rfl⟩ := stageFile_eq_ok hstep
  rw [Store.read_write]
  by_cases hsame : storeName p = storeName q
  · obtain rfl : p = q := hinjective q (by simp [hps]) hsame
    rw [hcontent] at hcontent'
    rw [if_pos rfl, Except.ok.inj hcontent']
  · rw [if_neg hsame]
    refine hbefore ((List.mem_append.1 hmem).resolve_right fun hlast => hsame ?_)
    rw [List.mem_singleton.1 hlast]

theorem stagesApart_iff_nodup (hread : ∀ p ∈ files.keys, ∃ content, d.read p = .ok content) :
    StagesApart files d ↔ (files.keys.map storeName).Nodup := by
  obtain ⟨store, hstage⟩ := exists_stage hread
  constructor
  · rintro ⟨names, store', hstage', hdistinct, -⟩
    rw [hstage] at hstage'
    cases hstage'
    exact hdistinct
  · intro hdistinct
    refine ⟨_, store, hstage, hdistinct, List.forall₂_map_right_iff.2 (List.forall₂_same.2 ?_)⟩
    intro p hp
    obtain ⟨content, hcontent⟩ := hread p hp
    exact ⟨content, hcontent, read_of_stage hdistinct hstage hp hcontent⟩

/-- Changed sources with absolute paths that can be read are staged apart exactly if no two of the paths
    differ in `..` only. -/
theorem stagesApart_iff (habsolute : ∀ p ∈ files.keys, p.isAbsolute = true)
    (hread : ∀ p ∈ files.keys, ∃ content, d.read p = .ok content) :
    StagesApart files d ↔ ∀ p ∈ files.keys, ∀ q ∈ files.keys, ¬ p.DifferInParents q := by
  rw [stagesApart_iff_nodup hread, List.nodup_map_iff_inj_on files.keys_nodup]
  constructor
  · intro hinjective p hp q hq hdiffer
    exact hdiffer.1 (hinjective p hp q hq
      ((storeName_eq_iff (habsolute p hp) (habsolute q hq)).2 (.inr hdiffer)))
  · intro hnone p hp q hq hsame
    exact ((storeName_eq_iff (habsolute p hp) (habsolute q hq)).1 hsame).resolve_right (hnone p hp q hq)

/-- A disk with two sources of one name in different directories. -/
def twoRoots : Disk where
  entries := [(["p"], .directory 0), (["p", "q"], .directory 0),
    (["p", "q", "A.java"], .file ⟨Text.encode "class A { int one; }", 0, false⟩),
    (["q"], .directory 0), (["q", "A.java"], .file ⟨Text.encode "class A { int two; }", 0, false⟩)]
  workingDirectory := []
  now := 0

/-- Two sources, one of which goes to a parent directory and back. -/
def detourSources : SortedSet Path :=
  .setOf ["/p/q/A.java", "/q/../q/A.java"]

theorem stagesApart_iff_detourSources : StagesApart detourSources twoRoots := by
  have hread : ∀ p ∈ detourSources.keys, ∃ content, twoRoots.read p = .ok content := by
    have hkeys : detourSources.keys = [Path.mk "/p/q/A.java", Path.mk "/q/../q/A.java"] := by
      decide +kernel
    rw [hkeys, List.forall_mem_cons, List.forall_mem_singleton]
    exact ⟨⟨_, rfl⟩, ⟨_, rfl⟩⟩
  exact (stagesApart_iff (by decide +kernel) hread).2 (by decide +kernel)

/-- Two sources, one of which lies below a source root that is spelled with `..`. -/
def parentSources : SortedSet Path :=
  .setOf ["/p/../q/A.java", "/p/q/A.java"]

/-- The sources are different files and can be read, but both are staged under one name. -/
theorem not_stagesApart_parentSources :
    (∀ p ∈ parentSources.keys, p.isAbsolute = true ∧ (twoRoots.read p).toOption.isSome = true) ∧
      ¬ StagesApart parentSources twoRoots := by
  refine ⟨by decide +kernel, ?_⟩
  rintro ⟨names, store, hstage, hdistinct, -⟩
  have hnames : (stage parentSources.keys twoRoots).toOption.map (·.1) =
      some ["p/q/A.java", "p/q/A.java"] := by decide +kernel
  rw [hstage] at hnames
  obtain rfl : names = ["p/q/A.java", "p/q/A.java"] := Option.some.inj hnames
  exact absurd hdistinct (by decide)

end JavaProvider
end Buildwright
