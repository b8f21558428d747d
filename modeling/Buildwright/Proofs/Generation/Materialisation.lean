-- SUMMARY: When the staged sources of an accepted batch are all there after they are written below an empty directory.
import Buildwright.Proofs.Build.Copying
import Buildwright.Proofs.ClassName.Staging
import Buildwright.Proofs.Disk.Writing

/-!
# Staged sources on the disk

A compiler finds the sources of a batch on the disk, where they are written below an empty directory. A
pool tells staging paths apart by their text, but the disk goes by the names in them: a path with two
slashes in a row leads where the path with one leads. The sources of an accepted batch are all there
afterwards exactly if no two of them are spelled differently for one place, and no path is too long.
-/
namespace Buildwright

open ClassName

namespace Batch

/-- Written below a directory, every source of a batch can be read back at its staging path there, and
    there are as many files as staged names. -/
def Materialises (b : Batch) (d : Disk) (root : Path) (place : Location) : Prop :=
  ∃ d', b.stage.store.writeTo root d = .ok () d' ∧
    (∀ f ∈ b.sources, d'.read (root.join ⟨f.stagingPath⟩) = .ok f.content) ∧
    (d'.filesBelow place).ncard = b.stage.names.length

variable {b : Batch} {d : Disk} {root : Path} {place : Location}

theorem names_stagingPath (f : GeneratedFile) :
    Disk.names ⟨f.stagingPath⟩ = stagedNames f.className := rfl

/-- The empty directory below which the sources of a batch are to be written. -/
def site (b : Batch) (hroot : d.LeadsToEmpty root place) : Disk.Site where
  before := d
  root := root
  place := place
  targets := b.sources.map fun f => stagedNames f.className
  leads := hroot
  ne_nil := by
    intro target htarget
    obtain ⟨f, -, rfl⟩ := List.mem_map.1 htarget
    exact List.ne_nil_of_length_pos (Nat.zero_lt_of_lt (one_lt_length_stagedNames f.className))
  unnested := by
    intro target htarget target' htarget' hbelow
    obtain ⟨f, -, rfl⟩ := List.mem_map.1 htarget
    obtain ⟨f', -, rfl⟩ := List.mem_map.1 htarget'
    exact stagedNames_unnested hbelow

/-- The sources of a batch with the names that lead to them. -/
def located (b : Batch) : List (List String × Bytes) :=
  b.stage.store.entries.map fun e => (Disk.names ⟨e.1⟩, e.2)

theorem located_perm (h : (b.sources.map (·.className)).Nodup) :
    b.located.Perm (b.sources.map fun f => (stagedNames f.className, f.content)) := by
  have hperm := (entries_stage_perm h).map fun e => (Disk.names ⟨e.1⟩, e.2)
  rw [located]
  simpa only [List.map_map, Function.comp_def, names_stagingPath] using hperm

theorem suits_of_mem (hroot : d.LeadsToEmpty root place) {e : String × Bytes}
    (he : e ∈ b.stage.store.entries) : (b.site hroot).Suits e.1 := by
  obtain ⟨f, hf, hname⟩ := mem_stage_store_names.1 (List.mem_map_of_mem he)
  rw [← hname]
  constructor
  case leadsOn => exact leadsOn_stagingPath (b.site hroot).walk_root.1 f.className
  case mem_targets =>
    rw [names_stagingPath]
    exact List.mem_map.2 ⟨f, hf, rfl⟩
  case one_lt_length => exact one_lt_length_stagedNames f.className

/-- Sources with distinct classes have distinct names exactly if no two staging paths of them are
    spelled differently for one place. -/
theorem located_nodup_iff (h : (b.sources.map (·.className)).Nodup) :
    (b.located.map (·.1)).Nodup ↔ ∀ f ∈ b.sources, ∀ g ∈ b.sources,
      Disk.names ⟨f.stagingPath⟩ = Disk.names ⟨g.stagingPath⟩ → f.stagingPath = g.stagingPath := by
  have hperm := (located_perm h).map (·.1)
  rw [List.map_map] at hperm
  rw [hperm.nodup_iff, List.nodup_map_iff_inj_on h.of_map]
  simp only [names_stagingPath, Function.comp_apply]
  constructor
  · intro hinj f hf g hg heq
    rw [hinj f hf g hg heq]
  · intro hspelled f hf g hg heq
    exact List.inj_on_of_nodup_map (stagingPaths_nodup h) hf hg (hspelled f hf g hg heq)

/-! ## Writing the sources -/

/-- Sources whose paths fit are all written, and nothing else is. -/
theorem writeTo_spec (hroot : d.LeadsToEmpty root place)
    (hfits : ∀ f ∈ b.sources, Disk.Fits (root.join ⟨f.stagingPath⟩)) :
    wp (b.stage.store.writeTo root)
      (fun _ d' => (b.site hroot).Holds d' (Disk.Site.written b.located fun _ => none))
      (fun _ _ => False) d := by
  have hsuits : ∀ e ∈ b.stage.store.entries, (b.site hroot).Suits e.1 := fun e => suits_of_mem hroot
  have hfits' : ∀ e ∈ b.stage.store.entries, Disk.Fits ((b.site hroot).root.join ⟨e.1⟩) := by
    intro e he
    obtain ⟨f, hf, hname⟩ := mem_stage_store_names.1 (List.mem_map_of_mem he)
    rw [← hname]
    exact hfits f hf
  have hall := Disk.Site.writeAll_spec (b.site hroot).holds_before hsuits hfits'
  rw [Store.writeTo_eq]
  exact hall

/-- Only sources whose paths fit are written. -/
theorem writeTo_fits :
    wp (b.stage.store.writeTo root)
      (fun _ _ => ∀ f ∈ b.sources, Disk.Fits (root.join ⟨f.stagingPath⟩)) (fun _ _ => True) d := by
  rw [Store.writeTo_eq]
  refine wp.mono ?_ (fun _ _ _ => trivial) (Disk.Site.writeAll_fits root)
  intro _ _ hfits f hf
  obtain ⟨e, he, hname⟩ := List.mem_map.1 (mem_stage_store_names.2 ⟨f, hf, rfl⟩)
  rw [← hname]
  exact hfits e he

theorem ncard_filesBelow (h : (b.sources.map (·.className)).Nodup)
    {hroot : d.LeadsToEmpty root place} {d' : Disk}
    (hholds : (b.site hroot).Holds d' (Disk.Site.written b.located fun _ => none)) :
    (d'.filesBelow place).ncard = b.stage.names.length ↔ (b.located.map (·.1)).Nodup := by
  have hlength : b.located.length = b.stage.names.length := by
    rw [(located_perm h).length_eq, List.length_map, stage, List.length_map]
  have hfiles : (d'.filesBelow place).ncard = _ := hholds.ncard_filesBelow
  rw [hfiles, ← hlength, Disk.Site.ncard_written_eq_length_iff]

theorem materialises_iff_of_nodup (h : (b.sources.map (·.className)).Nodup)
    (hroot : d.LeadsToEmpty root place) :
    b.Materialises d root place ↔
      (∀ f ∈ b.sources, Disk.Fits (root.join ⟨f.stagingPath⟩)) ∧
        ∀ f ∈ b.sources, ∀ g ∈ b.sources,
          Disk.names ⟨f.stagingPath⟩ = Disk.names ⟨g.stagingPath⟩ → f.stagingPath = g.stagingPath := by
  rw [← located_nodup_iff h]
  constructor
  · rintro ⟨d', hrun, -, hfiles⟩
    have hfits := writeTo_fits.of_ok hrun
    have hholds := (writeTo_spec hroot hfits).of_ok hrun
    exact ⟨hfits, (ncard_filesBelow h hholds).1 hfiles⟩
  · rintro ⟨hfits, hnodup⟩
    obtain ⟨⟨⟩, d', hrun, hholds⟩ := (writeTo_spec hroot hfits).returns
    refine ⟨d', hrun, ?_, (ncard_filesBelow h hholds).2 hnodup⟩
    intro f hf
    have hentry : (stagedNames f.className, f.content) ∈ b.located :=
      (located_perm h).mem_iff.2 (List.mem_map.2 ⟨f, hf, rfl⟩)
    have hleads := leadsOn_stagingPath (b.site hroot).walk_root.1 f.className
    exact hholds.read hleads (hfits f hf) (Disk.Site.written_of_mem hnodup hentry)

end Batch

/-! ## Accepted batches -/

namespace GeneratorPool

/-- The sources of an accepted batch, without a bootstrap source, are all there after they are written
    below an empty directory exactly if their paths fit, and no two staging paths that the pool took for
    different ones lead through the same names. -/
theorem materialises_iff {pool : GeneratorPool} {ctx : GenerationContext} {d₀ : Disk} {b : Batch}
    (hbootstrap : pool.bootstrap = none) (h : pool.generate ctx d₀ = .ok b) {d : Disk} {root : Path}
    {place : Location} (hroot : d.LeadsToEmpty root place) :
    b.Materialises d root place ↔
      (∀ f ∈ b.sources, Disk.Fits (root.join ⟨f.stagingPath⟩)) ∧
        ∀ f ∈ b.sources, ∀ g ∈ b.sources,
          Disk.names ⟨f.stagingPath⟩ = Disk.names ⟨g.stagingPath⟩ → f.stagingPath = g.stagingPath :=
  Batch.materialises_iff_of_nodup (generate_without_bootstrap hbootstrap h).2 hroot

/-- A disk with nothing but one empty directory. -/
def oneDirectory : Disk where
  entries := [(["work"], .directory 0)]
  workingDirectory := []
  now := 0

theorem leadsToEmpty_oneDirectory : oneDirectory.LeadsToEmpty "/work" ["work"] where
  resolve_eq := ⟨0, by rfl⟩
  find?_eq := by
    rintro names hne
    cases names with
    | nil => exact absurd rfl hne
    | cons name rest => simp [Disk.find?, oneDirectory]

/-- Two sources in one package, one of which is spelled as a staging path, and a file that is none. -/
def plainFiles : List GeneratedFile :=
  [⟨.rest, "org/kie/A.java", Text.encode "class A {}"⟩,
    ⟨.generic, "./src/main/java/org/kie/B.java", Text.encode "class B {}"⟩,
    ⟨.generic, "org/kie/C.xml", Text.encode "<c/>"⟩]

theorem materialises_iff_plainFiles :
    (GeneratorPool.mk [.constant plainFiles] none).generate (.ofRoot "/project") default =
        .ok ⟨plainFiles, none⟩ ∧
      oneDirectory.LeadsToEmpty "/work" ["work"] ∧
      (⟨plainFiles, none⟩ : Batch).Materialises oneDirectory "/work" ["work"] := by
  have hgenerate : (GeneratorPool.mk [.constant plainFiles] none).generate (.ofRoot "/project") default =
      .ok ⟨plainFiles, none⟩ := rfl
  have hiff := materialises_iff rfl hgenerate leadsToEmpty_oneDirectory
  exact ⟨hgenerate, leadsToEmpty_oneDirectory, hiff.2 (by decide +kernel)⟩

/-- Two sources whose paths differ by a second slash. -/
def slashedFiles : List GeneratedFile :=
  [⟨.generic, "a/B.java", Text.encode "class B { int one; }"⟩,
    ⟨.generic, "a//B.java", Text.encode "class B { int two; }"⟩]

/-- The pool accepts both sources, and all their paths fit, but one replaces the other on the disk. -/
theorem not_materialises_slashedFiles :
    (GeneratorPool.mk [.constant slashedFiles] none).generate (.ofRoot "/project") default =
        .ok ⟨slashedFiles, none⟩ ∧
      oneDirectory.LeadsToEmpty "/work" ["work"] ∧
      (∀ f ∈ (⟨slashedFiles, none⟩ : Batch).sources,
        Disk.Fits ((Path.mk "/work").join ⟨f.stagingPath⟩)) ∧
      ¬ (⟨slashedFiles, none⟩ : Batch).Materialises oneDirectory "/work" ["work"] := by
  refine ⟨rfl, leadsToEmpty_oneDirectory, by decide +kernel, ?_⟩
  have hclasses : ((⟨slashedFiles, none⟩ : Batch).sources.map (·.className)).Nodup := by decide +kernel
  rw [Batch.materialises_iff_of_nodup hclasses leadsToEmpty_oneDirectory]
  decide +kernel

end GeneratorPool
end Buildwright
