-- SUMMARY: The assets that a pool watches: known once its files are generated, and never fewer on a disk that has grown.
import Buildwright.Generation.Dump
import Buildwright.Generation.Pool
import Buildwright.Proofs.Disk.Growth
import Buildwright.Proofs.Entries

/-!
# Watched assets

The generators of assets watch the files that they find. A pool of such generators that has generated its
files can tell what it watches on the same disk, since both start with the same search. On a disk that has
grown it watches, up to spelling, all that it watched before, so that it watches the same as long as it
finds nothing new.
-/
namespace Buildwright

variable {ctx : GenerationContext} {d d' : Disk}

namespace AssetGenerator

variable {g : AssetGenerator} {assets assets' : List Path}

theorem discover_eq_ok : g.discover ctx d = .ok assets ↔
    d.filesWithExtension (ctx.projectRoot.join g.root) g.extension = .ok assets := by
  unfold discover
  cases hfound : d.filesWithExtension (ctx.projectRoot.join g.root) g.extension with
  | ok found => simp only [hfound, Except.ok.injEq]
  | error e => simp [hfound]

/-- A generator of assets finds all on a disk that has grown that it found before. -/
theorem discover_subset (hformed : d.WellFormed) (hrooted : d.Rooted) (hgrows : d.Grows d')
    (h : g.discover ctx d = .ok assets) (h' : g.discover ctx d' = .ok assets') : assets ⊆ assets' :=
  hgrows.filesWithExtension hformed hrooted (discover_eq_ok.1 h) (discover_eq_ok.1 h')

theorem exists_discover {files : List GeneratedFile} (h : g.toGenerator.generate ctx d = .ok files) :
    ∃ assets, g.discover ctx d = .ok assets := by
  obtain ⟨assets, hassets, -⟩ := bind_eq_ok.1 h
  exact ⟨assets, hassets⟩

end AssetGenerator

namespace GeneratorPool

/-- A pool all of whose generators are generators of assets. -/
def OfAssets (pool : GeneratorPool) : Prop :=
  ∀ g ∈ pool.generators, ∃ a : AssetGenerator, g = a.toGenerator

variable {pool : GeneratorPool} {b : Batch} {watched watched' : List Path}

theorem watchedAssets_eq_ok : pool.watchedAssets ctx d = .ok watched ↔
    ∃ found, pool.generators.mapM (fun g => g.watchedAssets ctx d) = .ok found ∧
      watched = (SortedMap.setOf found.flatten).keys := by
  rw [watchedAssets, bind_eq_ok]
  simp only [Except.ok.injEq, eq_comm]

/-- A pool of assets that has generated its files can tell what it watches. -/
theorem OfAssets.exists_watchedAssets (hpool : pool.OfAssets) (h : pool.generate ctx d = .ok b) :
    ∃ watched, pool.watchedAssets ctx d = .ok watched := by
  obtain ⟨-, -, hrest⟩ := bind_eq_ok.1 h
  obtain ⟨files, hfiles, -⟩ := bind_eq_ok.1 hrest
  have hall : ∀ g ∈ pool.generators, ∃ assets, g.watchedAssets ctx d = .ok assets := by
    intro g hg
    obtain ⟨accepted, accepted', hrun⟩ := exists_step_of_foldlM hfiles hg
    obtain ⟨produced, hproduced, -⟩ := bind_eq_ok.1 hrun
    obtain ⟨a, rfl⟩ := hpool g hg
    exact a.exists_discover hproduced
  obtain ⟨found, hfound⟩ := exists_mapM_eq_ok hall
  exact ⟨_, watchedAssets_eq_ok.2 ⟨found, hfound, rfl⟩⟩

/-- On a disk that has grown, a pool of assets that finds no file it did not watch before watches the same
    files as before. -/
theorem OfAssets.watchedAssets_eq_iff (hpool : pool.OfAssets) (hformed : d.WellFormed)
    (hrooted : d.Rooted) (hgrows : d.Grows d') (h : pool.watchedAssets ctx d = .ok watched)
    (h' : pool.watchedAssets ctx d' = .ok watched') :
    watched' = watched ↔ ∀ p ∈ watched', p ∈ watched := by
  refine ⟨fun heq p hp => heq ▸ hp, fun hnothing => ?_⟩
  obtain ⟨found, hfound, rfl⟩ := watchedAssets_eq_ok.1 h
  obtain ⟨found', hfound', rfl⟩ := watchedAssets_eq_ok.1 h'
  refine congrArg SortedMap.keys (SortedMap.eq_of_covered (fun p hp => ?_) hnothing).symm
  obtain ⟨g, hg, assets, hassets, hp⟩ :=
    (mem_flatten_of_mapM hfound).1 (SortedMap.mem_of_mem_keys_setOf hp)
  obtain ⟨assets', hassets'⟩ := exists_of_mapM_eq_ok hfound' hg
  have hsubset : assets ⊆ assets' := by
    obtain ⟨a, rfl⟩ := hpool g hg
    exact a.discover_subset hformed hrooted hgrows hassets hassets'
  exact SortedMap.contains_setOf.2
    ⟨p, (mem_flatten_of_mapM hfound').2 ⟨g, hg, assets', hassets', hsubset hp⟩, Std.ReflOrd.compare_self⟩

end GeneratorPool

/-! ## Copies for debugging -/

namespace DebugDump

theorem writeCopy_grows (directory : Path) (acc : Nat × Disk) (f : GeneratedFile) (h : acc.2.Rooted) :
    acc.2.Grows (writeCopy directory acc f).2 := by
  have hwrite := Disk.Growing.writeWithDirectories (directory.join ⟨f.bareTarget⟩) f.content
  unfold writeCopy
  generalize Disk.writeWithDirectories (directory.join ⟨f.bareTarget⟩) f.content = m at hwrite
  have hgrows := hwrite acc.2 h
  unfold wp at hgrows
  split at hgrows
  · next hrun => simpa only [hrun] using hgrows
  · next hrun => simpa only [hrun] using hgrows

/-- Under copies for debugging a disk grows, whichever of them can be written. -/
theorem writeAll_grows (dump : DebugDump) (files : List GeneratedFile) (h : d.Rooted) :
    d.Grows (dump.writeAll files d).2 := by
  have hfold : ∀ directory (acc : Nat × Disk), d.Grows acc.2 →
      d.Grows (files.foldl (writeCopy directory) acc).2 := by
    intro directory
    induction files with
    | nil => exact fun _ hgrows => hgrows
    | cons f rest ih =>
      intro acc hgrows
      have hcopy : acc.2.Grows (writeCopy directory acc f).2 :=
        writeCopy_grows directory acc f hgrows.rooted
      rw [List.foldl_cons]
      exact ih (writeCopy directory acc f) (hgrows.trans hcopy)
  unfold writeAll
  split
  · next directory _ => exact hfold directory (0, d) h.grows
  · exact h.grows

end DebugDump
end Buildwright
