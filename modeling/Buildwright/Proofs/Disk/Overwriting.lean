-- SUMMARY: What can be read of files that are written in turn: where several go to one place, the last of them.
import Buildwright.Proofs.Disk.Leading

/-!
# Files that are written over each other

Paths that differ may lead to one place: by their spelling, by `..`, or through links. Files that are written
in turn are all there in the end, but of those that go to one place only the last. On a disk that only grows
paths go on leading where they led, so it can be told in the end which of the files went to one place.
-/
namespace Buildwright.Disk

/-- Two paths lead to one place. -/
def SamePlace (d : Disk) (p q : Path) : Prop :=
  ∃ place, d.LeadsTo p place ∧ d.LeadsTo q place

/-- Of files, the last one that goes where a path leads has the content. -/
def LastThere (d : Disk) (es : List (Path × Bytes)) (p : Path) (content : Bytes) : Prop :=
  ∃ before q after, es = before ++ (q, content) :: after ∧ d.SamePlace p q ∧
    ∀ e ∈ after, ¬ d.SamePlace p e.1

/-- A rooted disk on which files have been written in turn: the path of each leads to a file, which has the
    content of the last that went there. -/
structure HoldsLast (d : Disk) (es : List (Path × Bytes)) : Prop where
  rooted : d.Rooted
  file : ∀ {before p content after}, es = before ++ (p, content) :: after →
    ∃ place f, d.resolve p = .ok (place, .file f) ∧
      ((∀ e ∈ after, ¬ d.LeadsTo e.1 place) → f.content = content)

variable {d d' : Disk} {p : Path} {content : Bytes} {place : Location} {f : File}
  {es : List (Path × Bytes)}

/-- A path that leads to a file leads to one on a disk that has grown, and to the same one if no file has changed
    there. -/
theorem Grows.resolve_file (hd : d.Rooted) (h : d.Grows d') (hresolve : d.resolve p = .ok (place, .file f)) :
    ∃ f', d'.resolve p = .ok (place, .file f') ∧ (d.FilesAgree d' place → f' = f) := by
  obtain ⟨e', hresolve', halike⟩ := h.resolve hd hresolve
  cases halike with
  | file _ f' =>
    refine ⟨f', hresolve', fun hagree => ?_⟩
    have hfile : d.find? place = some (.file f') := (hagree f').1 (h.rooted.resolve_lies hresolve')
    rw [hd.resolve_lies hresolve] at hfile
    cases hfile
    rfl

/-- If some file goes where a path leads, some file is the last that does. -/
theorem exists_lastThere_of_mem {e : Path × Bytes} (he : e ∈ es) (hsame : d.SamePlace p e.1) :
    ∃ content, d.LastThere es p content := by
  induction es generalizing e with
  | nil => cases he
  | cons first rest ih =>
    by_cases hrest : ∃ e ∈ rest, d.SamePlace p e.1
    · obtain ⟨e', he', hsame'⟩ := hrest
      obtain ⟨content, before, q, after, rfl, hlast⟩ := ih he' hsame'
      exact ⟨content, first :: before, q, after, rfl, hlast⟩
    · rcases List.mem_cons.1 he with rfl | he
      · exact ⟨e.2, [], e.1, rest, rfl, hsame, fun e' he' hsame' => hrest ⟨e', he', hsame'⟩⟩
      · exact absurd ⟨e, he, hsame⟩ hrest

namespace HoldsLast

theorem start (hd : d.Rooted) : d.HoldsLast [] where
  rooted := hd
  file := by simp

/-- One more file that is written is the last of all, and changes those only that go to its place. -/
theorem step (h : d.HoldsLast es) (hgrows : d.Grows d') (hresolve : d'.resolve p = .ok (place, .file f))
    (hother : ∀ other, other ≠ place → d.FilesAgree d' other) :
    d'.HoldsLast (es ++ [(p, f.content)]) where
  rooted := hgrows.rooted
  file := by
    intro before q content after hes
    rcases List.eq_nil_or_concat' after with rfl | ⟨after, last, rfl⟩
    · obtain ⟨-, hlast⟩ := List.append_inj' hes rfl
      cases hlast
      exact ⟨place, f, hresolve, fun _ => rfl⟩
    · rw [← List.cons_append, ← List.append_assoc] at hes
      obtain ⟨rfl, hlast⟩ := List.append_inj' hes rfl
      cases hlast
      obtain ⟨place', g, hresolve', hcontent⟩ := h.file rfl
      obtain ⟨g', hresolve'', hsame⟩ := hgrows.resolve_file h.rooted hresolve'
      refine ⟨place', g', hresolve'', fun hafter => ?_⟩
      have hne : place' ≠ place := by
        rintro rfl
        exact hafter (p, f.content) (by simp) (leadsTo_of_resolve hresolve)
      rw [hsame (hother place' hne)]
      refine hcontent fun e he hleads => hafter e (List.mem_append_left _ he) ?_
      exact hleads.extends hgrows.extends_before

/-- What changes no file changes nothing about what can be read. -/
theorem keep (h : d.HoldsLast es) (hgrows : d.Grows d') (hsame : d.SameFiles d') : d'.HoldsLast es where
  rooted := hgrows.rooted
  file := by
    intro before p content after hes
    obtain ⟨place, f, hresolve, hcontent⟩ := h.file hes
    obtain ⟨f', hresolve', hkept⟩ := hgrows.resolve_file h.rooted hresolve
    refine ⟨place, f', hresolve', fun hafter => ?_⟩
    rw [hkept (hsame place)]
    exact hcontent fun e he hleads => hafter e he (hleads.extends hgrows.extends_before)

theorem wp_writeWithDirectories (h : d.HoldsLast es) (p : Path) (content : Bytes) :
    wp (writeWithDirectories p content) (fun _ d' => d'.HoldsLast (es ++ [(p, content)]))
      (fun _ _ => True) d := by
  refine h.rooted.wp_writeWithDirectories.mono ?_ fun _ _ _ => trivial
  rintro - d' ⟨d₁, ⟨hgrows, hsame⟩, hwrite⟩
  obtain ⟨place, f, hresolve, rfl, hother⟩ := hgrows.rooted.resolve_write hwrite
  exact (h.keep hgrows hsame).step (hgrows.rooted.grows_write hwrite) hresolve fun other hne =>
    (hother other hne).filesAgree

/-- Files that are written in turn are the last of all. -/
theorem wp_forM {α : Type} (path : α → Path) (content : α → Bytes) (as : List α) (h : d.HoldsLast es) :
    wp (as.forM fun a => writeWithDirectories (path a) (content a))
      (fun _ d' => d'.HoldsLast (es ++ as.map fun a => (path a, content a))) (fun _ _ => True) d := by
  induction as generalizing d es with
  | nil => exact wp.pure (by simpa using h)
  | cons a rest ih =>
    refine wp.forM_cons ((h.wp_writeWithDirectories (path a) (content a)).mono ?_ fun _ _ _ => trivial)
    intro _ d' h'
    rw [List.map_cons, List.append_cons]
    exact ih h'

/-! ## Reading -/

/-- The path of a file that was written reads as the last file that went to its place. -/
theorem read_of_lastThere (h : d.HoldsLast es) (hp : p ∈ es.map (·.1)) (hlast : d.LastThere es p content) :
    d.read p = .ok content := by
  obtain ⟨before, q, after, rfl, ⟨place, hleads, hleads'⟩, hafter⟩ := hlast
  obtain ⟨placeq, f, hresolve, hcontent⟩ := h.file rfl
  obtain rfl := (leadsTo_of_resolve hresolve).unique hleads'
  obtain ⟨e, he, rfl⟩ := List.mem_map.1 hp
  obtain ⟨before', after', hes⟩ := List.append_of_mem he
  obtain ⟨placep, g, hresolve', -⟩ := h.file hes
  obtain rfl := (leadsTo_of_resolve hresolve').unique hleads
  have hsame : d.find? placep = some (.file f) := h.rooted.resolve_lies hresolve
  rw [h.rooted.resolve_lies hresolve'] at hsame
  cases hsame
  rw [Disk.read, hresolve']
  exact congrArg Except.ok
    (hcontent fun e' he' hleads' => hafter e' he' ⟨placep, hleads, hleads'⟩)

/-- Some file is the last that went where the path of a file leads. -/
theorem exists_lastThere (h : d.HoldsLast es) (hp : p ∈ es.map (·.1)) :
    ∃ content, d.LastThere es p content := by
  obtain ⟨e, he, rfl⟩ := List.mem_map.1 hp
  obtain ⟨before, after, hes⟩ := List.append_of_mem he
  obtain ⟨place, f, hresolve, -⟩ := h.file hes
  have hleads := leadsTo_of_resolve hresolve
  exact exists_lastThere_of_mem he ⟨place, hleads, hleads⟩

/-- What is read at the path of a file that was written is the content of the last file that went to its
    place. -/
theorem read_iff (h : d.HoldsLast es) (hp : p ∈ es.map (·.1)) :
    d.read p = .ok content ↔ d.LastThere es p content := by
  refine ⟨fun hread => ?_, h.read_of_lastThere hp⟩
  obtain ⟨content', hlast⟩ := h.exists_lastThere hp
  rw [h.read_of_lastThere hp hlast] at hread
  cases hread
  exact hlast

end HoldsLast

end Buildwright.Disk
