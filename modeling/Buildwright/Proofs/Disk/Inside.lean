-- SUMMARY: The inside of a directory that may still be missing, and why nothing that is written makes links there.
import Buildwright.Proofs.Disk.Enclosure

/-!
# The inside of a directory

A path may lead to a directory that is missing yet. Where the inside of the directory will be is settled all
the same: by where the path leads once the missing directories have been created. Creating directories and
writing files makes no links, so the inside has none as long as it has none at first, and no file is changed
but those whose paths are written to.
-/
namespace Buildwright.Disk

variable {d d' d'' : Disk} {here place top : Location} {names : List String} {p root target : Path} {n : Nat}

/-! ## No new links -/

/-- A disk that has grown by files and directories only. -/
structure GrowsUnlinked (d d' : Disk) : Prop where
  grows : d.Grows d'
  link_before : ∀ {place target}, d'.find? place = some (.link target) → d.find? place = some (.link target)

theorem Rooted.growsUnlinked (hd : d.Rooted) : d.GrowsUnlinked d :=
  ⟨hd.grows, fun h => h⟩

theorem GrowsUnlinked.trans (h : d.GrowsUnlinked d') (h' : d'.GrowsUnlinked d'') : d.GrowsUnlinked d'' :=
  ⟨h.grows.trans h'.grows, fun hlink => h.link_before (h'.link_before hlink)⟩

/-- Growth at one place, by what is no link. -/
theorem Grows.unlinked (h : d.Grows d') (hother : ∀ other, other ≠ place → d.SameAt d' other)
    (hplace : ∀ target, d'.find? place ≠ some (.link target)) : d.GrowsUnlinked d' := by
  refine ⟨h, fun {other target} hlink => ?_⟩
  by_cases heq : other = place
  · exact absurd (heq ▸ hlink) (hplace target)
  · exact ((hother other heq).find?_iff (by simp)).1 hlink

theorem Rooted.growsUnlinked_createDirectory (hd : d.Rooted) (h : d.createDirectory p = .ok d') :
    d.GrowsUnlinked d' := by
  obtain ⟨place, -, -, ⟨t, ht⟩, hother⟩ := hd.leadsTo_createDirectory h
  exact (hd.grows_createDirectory h).unlinked hother (by simp [ht])

theorem Rooted.growsUnlinked_write (hd : d.Rooted) {content : Bytes} (h : d.write p content = .ok d') :
    d.GrowsUnlinked d' := by
  obtain ⟨place, f, hresolve, -, hother⟩ := hd.resolve_write h
  have hgrows := hd.grows_write h
  exact hgrows.unlinked hother (by simp [hgrows.rooted.resolve_lies hresolve])

/-- However far it gets, writing with directories makes no links. -/
theorem Rooted.wp_writeWithDirectories_unlinked (hd : d.Rooted) {content : Bytes} :
    wp (writeWithDirectories p content) (fun _ d' => d.GrowsUnlinked d') (fun _ d' => d.GrowsUnlinked d') d := by
  refine (Disk.wp_writeWithDirectories (I := d.GrowsUnlinked) (P := fun _ => True) ?_
    (fun _ _ _ _ _ _ _ _ _ => trivial) (fun _ _ => trivial) hd.growsUnlinked).mono ?_ fun _ _ h => h
  · exact fun d₁ p d₂ h _ hcreate => h.trans (h.grows.rooted.growsUnlinked_createDirectory hcreate)
  · rintro _ d' ⟨d₁, h, hwrite⟩
    exact h.trans (h.grows.rooted.growsUnlinked_write hwrite)

/-- Files that are written in turn make no links, and change no file but where the path of one of them leads in
    the end. -/
theorem Rooted.wp_writeAll_unlinked (hd : d.Rooted) (root : Path) (es : List (String × Bytes)) :
    wp (es.forM fun e => writeWithDirectories (root.join ⟨e.1⟩) e.2)
      (fun _ d' => d.GrowsUnlinked d' ∧
        ∀ place, (∀ e ∈ es, ¬ d'.LeadsTo (root.join ⟨e.1⟩) place) → d.FilesAgree d' place)
      (fun _ _ => True) d := by
  refine wp.forM_keeps ?_ ⟨hd.growsUnlinked, fun place _ => SameFiles.refl d place⟩
  rintro e he d₁ ⟨hgrows, hagree⟩
  have hrooted := hgrows.grows.rooted
  have hstep : wp (writeWithDirectories (root.join ⟨e.1⟩) e.2)
      (fun _ d₂ => d₁.GrowsUnlinked d₂ ∧ d₁.GrowsAt d₂ (root.join ⟨e.1⟩))
      (fun _ d₂ => d₁.GrowsUnlinked d₂ ∧ d₁.GrowsAt d₂ (root.join ⟨e.1⟩)) d₁ :=
    hrooted.wp_writeWithDirectories_unlinked.and hrooted.wp_writeWithDirectories_elsewhere
  refine hstep.mono ?_ fun _ _ _ => trivial
  rintro _ d₂ ⟨hgrows', hat⟩
  refine ⟨hgrows.trans hgrows', fun place hnone => ?_⟩
  have hbefore := hagree place fun e' he' hleads =>
    hnone e' he' (hleads.extends hgrows'.grows.extends_before)
  exact hbefore.trans (hat.elsewhere place (hnone e he))

/-! ## Where paths do not lead -/

section Ends

variable (hd : d.Rooted)

include hd in
/-- A walk that follows links to the end does not end at one. -/
theorem walk_ne_link (hhere : d.DirectoryAt here) :
    walk d true n here names ≠ .ok (.present place (.link target)) := by
  intro h
  rw [walk_eq_ok] at h
  induction h with
  | done heq =>
    obtain ⟨t, ht⟩ := hhere
    rw [ht] at heq
    cases heq
  | on hstride _ ih => exact ih (hd.directoryAt_of_stride hhere hstride)
  | last hstride => exact (find?_of_stride hstride).2.2 target rfl
  | stop _ hfollow => cases hfollow
  | @link n here there name rest target' _ _ _ ih => exact ih (hhere.start target')

include hd in
/-- A path leads to no link. -/
theorem LeadsTo.ne_link (h : d.LeadsTo p place) : d.find? place ≠ some (.link target) := by
  obtain ⟨n, e, hwalk⟩ := h
  have hstart := hd.working.start p
  have hlies : d.find? place = some e := hd.walk_lies hstart hwalk
  rw [hlies]
  rintro ⟨⟩
  exact walk_ne_link hd hstart hwalk

end Ends

/-! ## Inside -/

/-- A place is inside a directory if it is below where the path of the directory leads, once directories that
    are missing are there. -/
def Inside (d : Disk) (root : Path) (place : Location) : Prop :=
  ∃ d' top names, d.GrowsUnlinked d' ∧ d'.LeadsTo root top ∧ names ≠ [] ∧ place = top ++ names

/-- There are no links inside a directory. -/
def NoLinksInside (d : Disk) (root : Path) : Prop :=
  ∀ place target, d.Inside root place → d.find? place ≠ some (.link target)

/-- A disk has become another without a change inside a directory. -/
structure KeptInside (d d' : Disk) (root : Path) : Prop where
  rooted : d'.Rooted
  inside_iff : ∀ place, d'.Inside root place ↔ d.Inside root place
  find?_eq : ∀ place, d.Inside root place → d'.find? place = d.find? place

/-- Inside a directory that is there is what lies below it. -/
theorem inside_iff (hd : d.Rooted) (h : d.LeadsTo root top) :
    d.Inside root place ↔ ∃ names, names ≠ [] ∧ place = top ++ names := by
  constructor
  · rintro ⟨d', top', names, hgrows, htop', hne, rfl⟩
    obtain rfl := (h.extends hgrows.grows.extends_before).unique htop'
    exact ⟨names, hne, rfl⟩
  · rintro ⟨names, hne, rfl⟩
    exact ⟨d, top, names, hd.growsUnlinked, h, hne, rfl⟩

theorem Rooted.keptInside (hd : d.Rooted) (root : Path) : d.KeptInside d root :=
  ⟨hd, fun _ => .rfl, fun _ _ => rfl⟩

namespace KeptInside

variable (h : d.KeptInside d' root)

include h in
theorem filesAgree (hinside : d.Inside root place) : d.FilesAgree d' place :=
  fun f => by rw [h.find?_eq place hinside]

include h in
theorem noLinksInside (hlinks : d.NoLinksInside root) : d'.NoLinksInside root := by
  intro place target hinside
  have hbefore := (h.inside_iff place).1 hinside
  rw [h.find?_eq place hbefore]
  exact hlinks place target hbefore

end KeptInside

/-- Once the directory is there, there are no links below it. -/
theorem NoLinksInside.noLinksBelow (h : d.NoLinksInside root) (hgrows : d.GrowsUnlinked d') :
    d'.NoLinksBelow root := by
  intro top htop names target hlink
  by_cases hne : names = []
  · rw [hne, List.append_nil] at hlink
    exact htop.ne_link hgrows.grows.rooted hlink
  · exact h _ target ⟨d', top, names, hgrows, htop, hne, rfl⟩ (hgrows.link_before hlink)

end Buildwright.Disk
