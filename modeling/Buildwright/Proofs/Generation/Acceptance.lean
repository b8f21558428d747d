-- SUMMARY: What a pool guarantees of the files it accepts, and where its sources are staged.
import Mathlib.Data.List.Nodup
import Buildwright.Generation.Pool
import Buildwright.Proofs.ClassName.RoundTrip
import Buildwright.Proofs.Entries
import Buildwright.Proofs.WeakestPre

/-!
# Accepted files

A pool accepts files one by one. The invariant `Accepted` says what its checks keep: the slots are
pairwise distinct, and no source has the reserved name. Distinct slots of sources are distinct staging
paths, and these are distinct class names.
-/
namespace Buildwright

/-! ## Sources -/

theorem GeneratedFile.slot_of_isSource {f : GeneratedFile} (h : f.isSource = true) :
    f.slot = f.stagingPath := by
  rw [slot, if_pos h]

theorem GeneratedFile.isSource_iff {f : GeneratedFile} :
    f.isSource = true ↔ ∃ r, f.path = r ++ ClassName.sourceSuffix :=
  Text.endsWith_eq_true

theorem Bootstrap.isSource_file (bs : Bootstrap) : bs.file.isSource = true :=
  GeneratedFile.isSource_iff.2 ⟨ClassName.slashed bs.className, rfl⟩

namespace Batch

/-- What is staged is under the staging paths of the sources. -/
theorem mem_stage_store_names {b : Batch} {name : String} :
    name ∈ b.stage.store.names ↔ ∃ f ∈ b.sources, f.stagingPath = name := by
  rw [stage, Store.mem_names_ofList, List.map_map, List.mem_map]
  rfl

theorem ofFiles_none (files : List GeneratedFile) : ofFiles none files = ⟨files, none⟩ := rfl

theorem ofFiles_some (bs : Bootstrap) {files : List GeneratedFile} (h : files ≠ []) :
    ofFiles (some bs) files = ⟨files ++ [bs.file], some bs.className⟩ := by
  rw [ofFiles, if_neg h]

theorem sources_append_bootstrap (bs : Bootstrap) (files : List GeneratedFile)
    (reserved : Option String) :
    (Batch.mk (files ++ [bs.file]) reserved).sources =
      files.filter (·.isSource) ++ [bs.file] := by
  rw [sources, List.filter_append, List.filter_singleton, bs.isSource_file, cond_true]

end Batch

/-! ## The invariant of a pool -/

namespace GeneratorPool

/-- What the checks of a pool keep of the files it has accepted. -/
structure Accepted (reserved : Option String) (files : List GeneratedFile) : Prop where
  slots_nodup : (files.map (·.slot)).Nodup
  not_reserved : ∀ f ∈ files.filter (·.isSource), reserved ≠ some f.className

variable {pool : GeneratorPool} {ctx : GenerationContext} {d : Disk} {reserved : Option String}
  {files files' : List GeneratedFile}

theorem accepted_nil : Accepted reserved [] :=
  ⟨.nil, fun _ h => by cases h⟩

/-- One more file keeps the invariant. -/
theorem accept_accepted {f : GeneratedFile} (h : Accepted reserved files)
    (hf : accept reserved files f = .ok files') : Accepted reserved files' := by
  unfold accept at hf
  split at hf
  · cases hf
  · next hreserved =>
    split at hf
    · cases hf
    · next hslot =>
      cases hf
      constructor
      · rw [List.map_append]
        refine List.nodup_append.2 ⟨h.slots_nodup, List.nodup_singleton _, ?_⟩
        rintro slot hold slot' hnew rfl
        have heq : slot = f.slot := by simpa using hnew
        exact hslot (heq ▸ hold)
      · intro g hg heq
        obtain ⟨hg, hsource⟩ := List.mem_filter.1 hg
        rcases List.mem_append.1 hg with hg | hg
        · exact h.not_reserved g (List.mem_filter.2 ⟨hg, hsource⟩) heq
        · cases List.mem_singleton.1 hg
          exact hreserved ⟨hsource, heq⟩

theorem runGenerator_accepted {g : Generator} (h : Accepted reserved files)
    (hg : runGenerator reserved ctx d files g = .ok files') : Accepted reserved files' := by
  obtain ⟨produced, -, hfold⟩ := bind_eq_ok.1 hg
  exact foldlM_keeps (fun _ _ _ hb hf => accept_accepted hb hf) h hfold

/-- A run of a pool gives accepted files, with the bootstrap source behind them. -/
theorem generate_accepted {b : Batch} (h : pool.generate ctx d = .ok b) :
    ∃ files, Accepted (pool.bootstrap.map (·.className)) files ∧
      b = Batch.ofFiles pool.bootstrap files ∧ checkBootstrap pool.bootstrap = .ok () := by
  obtain ⟨u, hcheck, hrest⟩ := bind_eq_ok.1 h
  obtain ⟨files, hfiles, hb⟩ := bind_eq_ok.1 hrest
  refine ⟨files, ?_, ?_, hcheck⟩
  · exact foldlM_keeps (fun _ _ _ hacc hg => runGenerator_accepted hacc hg) accepted_nil hfiles
  · cases hb
    rfl

/-! ## Distinct names -/

theorem Accepted.stagingPaths_nodup (h : Accepted reserved files) :
    ((files.filter (·.isSource)).map (·.stagingPath)).Nodup := by
  have hslots : ((files.filter (·.isSource)).map (·.slot)).Nodup :=
    h.slots_nodup.sublist (List.filter_sublist.map _)
  rwa [List.map_congr_left fun f hf => GeneratedFile.slot_of_isSource (List.mem_filter.1 hf).2]
    at hslots

theorem Accepted.classNames_nodup (h : Accepted reserved files) :
    ((files.filter (·.isSource)).map (·.className)).Nodup := by
  apply List.Nodup.of_map ClassName.stagingPath
  rw [List.map_map]
  exact h.stagingPaths_nodup

/-- A pool without a bootstrap source reserves no class, and gives a batch whose sources have distinct
    classes. -/
theorem generate_without_bootstrap {b : Batch} (hbootstrap : pool.bootstrap = none)
    (h : pool.generate ctx d = .ok b) :
    b.bootstrapClass = none ∧ (b.sources.map (·.className)).Nodup := by
  obtain ⟨files, hfiles, hb, -⟩ := generate_accepted h
  rw [hbootstrap, Batch.ofFiles_none] at hb
  rw [hb]
  exact ⟨rfl, hfiles.classNames_nodup⟩

/-- A pool with a bootstrap source puts it, if there is a batch at all, behind accepted files. -/
theorem generate_with_bootstrap {b : Batch} {bs : Bootstrap} (hbootstrap : pool.bootstrap = some bs)
    (h : pool.generate ctx d = .ok b) (hfiles : b.files ≠ []) :
    ClassName.isValid bs.className = true ∧
      ∃ files, Accepted (some bs.className) files ∧ b = ⟨files ++ [bs.file], some bs.className⟩ := by
  obtain ⟨files, haccepted, hb, hcheck⟩ := generate_accepted h
  rw [hbootstrap] at haccepted hb hcheck
  constructor
  · rw [checkBootstrap] at hcheck
    by_contra hvalid
    rw [if_neg hvalid] at hcheck
    cases hcheck
  · have hne : files ≠ [] := by
      rintro rfl
      exact hfiles (by rw [hb]; rfl)
    rw [Batch.ofFiles_some bs hne] at hb
    exact ⟨files, haccepted, hb⟩

end GeneratorPool
end Buildwright
