-- SUMMARY: Writing files to an empty directory: it ends well if all paths fit, for files in the directory itself too.
import Buildwright.Proofs.Disk.Components

/-!
# Writing to an empty directory

The parent of a file in a directory has the components of the directory. As the directory is there, it does
not have to be created, whichever way the parent is spelled.
-/
namespace Buildwright

theorem Text.utf8ByteSize_joined_le (sep : String) {parts parts' : List String} (h : parts <+: parts') :
    (joined sep parts).utf8ByteSize ≤ (joined sep parts').utf8ByteSize := by
  obtain ⟨rest, rfl⟩ := h
  by_cases hparts : parts = []
  · rw [hparts]
    exact Nat.zero_le _
  by_cases hrest : rest = []
  · rw [hrest, List.append_nil]
  rw [joined_append sep hparts hrest, String.utf8ByteSize_append, String.utf8ByteSize_append]
  omega

namespace Disk

variable {d : Disk} {here place : Location} {names : List String} {name : String} {p q root : Path} {n : Nat}
  {t : Int}

/-- The parent of a path in a directory has the components of the directory, and is not longer. -/
theorem exists_parent_join (hroot : root.text ≠ "") (hname : Plain name) :
    ∃ q, (root.join ⟨name⟩).parent? = some q ∧ q.components = root.components ∧
      q.text.utf8ByteSize ≤ (root.join ⟨name⟩).text.utf8ByteSize := by
  have hplain : ∀ name' ∈ [name], Plain name' := by simpa using hname
  have hjoined : Text.joined "/" [name] = name := by simp [Text.joined]
  have hcomponents := Path.components_below root hplain (by simp)
  rw [Path.below, hjoined, List.map_singleton] at hcomponents
  obtain ⟨q, hparent, hq⟩ := Path.exists_parent_of_components hcomponents (by simp)
  obtain ⟨head, body, hanatomy⟩ := Path.exists_anatomy root.front_ne_nil
  obtain ⟨hanatomy, hassemble⟩ := hanatomy _ [name] (by simp) (pieces_join_plain hroot hname)
  refine ⟨q, hparent, hq, ?_⟩
  have hcounts : Path.idle name = false := Path.idle_eq_false.2 ⟨hname.1, hname.2.1⟩
  rw [Path.parent?_of_anatomy hanatomy hcounts] at hparent
  cases hparent
  rw [← hassemble, Path.assemble, Path.assemble, String.utf8ByteSize_append, String.utf8ByteSize_append]
  have hshorter := Text.utf8ByteSize_joined_le "/"
    ((Path.upToLast_begins body).trans (List.prefix_append body [name]))
  omega

/-- Names below a path lead on from there. -/
theorem leadsOn_below (hroot : root.text ≠ "") (hplain : ∀ name ∈ names, Plain name) (hne : names ≠ []) :
    Path.LeadsOn root names (root.below names) := by
  obtain ⟨before, last, rfl⟩ := (List.eq_nil_or_concat' names).resolve_left hne
  have hall : (before ++ [last]).filter (· != "") = before ++ [last] :=
    List.filter_eq_self.2 fun name hname => by simpa using (hplain name hname).1
  have hleads := Path.leadsOn_join hroot (isAbsolute_joined hplain hne) (pieces_joined_of_plain hplain hne)
    (hplain last (by simp)).1
  rw [hall] at hleads
  refine hleads fun name hname => ⟨?_, (hplain name hname).2.2.1⟩
  exact Path.idle_eq_false.2 ⟨(hplain name hname).1, (hplain name hname).2.1⟩

/-! ## Directories that are there -/

/-- A walk to a directory comes to something also if it does not follow a link at its end. -/
theorem walk_unfollowed (h : walk d true n here names = .ok (.present place (.directory t))) :
    ∃ place' e, walk d false n here names = .ok (.present place' e) := by
  simp only [walk_eq_ok] at h ⊢
  induction h with
  | done => exact ⟨_, _, .done rfl⟩
  | on hstride _ ih =>
    obtain ⟨place', e, hrest⟩ := ih
    exact ⟨place', e, .on hstride hrest⟩
  | last hstride => exact ⟨_, _, .last hstride⟩
  | stop _ hfollow => cases hfollow
  | @link n here there name rest target hstride _ _ ih =>
    by_cases hnil : rest = []
    · subst hnil
      exact ⟨_, _, .stop hstride rfl rfl⟩
    · obtain ⟨place', e, hrest⟩ := ih
      exact ⟨place', e, .link hstride (fun hlast => hnil hlast.1) hrest⟩

/-- A walk to a directory depends on the components of its path. -/
theorem walk_names_congr (h : q.components = p.components)
    (hwalk : walk d true n (start d.workingDirectory p) (steps p) = .ok (.present place (.directory t))) :
    walk d true n (start d.workingDirectory q) (Disk.names q) = .ok (.present place (.directory t)) := by
  have hstrides : q.strides = p.strides := by rw [Path.strides, Path.strides, h]
  have hstart : start d.workingDirectory q = start d.workingDirectory p := by
    rw [start, start, Path.isAbsolute_congr h]
  rw [hstart]
  exact walk_of_leavesOut (leavesOut_names q) (hstrides ▸ walk_leavesOut (leavesOut_steps p) hwalk)

/-- A directory that is there already is not created. -/
theorem wp_createDirectories_of_walk (hq : q.text ≠ "") (hlength : q.text.utf8ByteSize ≤ longestPath)
    (hwalk : walk d true mostLinks (start d.workingDirectory q) (Disk.names q) =
      .ok (.present place (.directory t))) :
    wp (createDirectories q) (fun _ d' => d' = d) (fun _ _ => False) d := by
  have hcreate : d.createDirectory q = .error OsError.alreadyExists := by
    obtain ⟨place', e, hfound⟩ := walk_unfollowed hwalk
    have hlocate : d.locateName q = .ok (.present place' e) :=
      locateName_eq_ok.2 ⟨⟨hq, hlength⟩, hfound⟩
    rw [createDirectory, hlocate]
  have hdirectory : d.isDirectory q = true := by
    have hresolve : d.resolve q = .ok (place, .directory t) :=
      resolve_eq_ok.2 (locate_eq_ok.2 ⟨⟨hq, hlength⟩, walk_steps hwalk⟩)
    rw [isDirectory, hresolve]
  obtain ⟨n, hn⟩ : ∃ n, q.components.length = n + 1 :=
    Nat.exists_eq_succ_of_ne_zero (List.length_pos_iff.2 (Path.components_ne_nil hq)).ne'
  rw [createDirectories, hn, createDirectoriesFrom]
  refine wp.tryCatch (wp.change_of_error hcreate ?_)
  rw [if_neg (by decide)]
  exact Site.Holds.unlessDirectory_spec hdirectory rfl

namespace Site

variable {w : Site} {contents : List String → Option Bytes} {content : Bytes} {es : List (String × Bytes)}

/-- A file is written to a target in the directory itself. -/
theorem Holds.writeWithDirectories_here (h : w.Holds d contents) (hname : Plain name)
    (hfits : Fits (w.root.join ⟨name⟩)) (hmem : [name] ∈ w.targets) :
    wp (writeWithDirectories (w.root.join ⟨name⟩) content)
      (fun _ d' => w.Holds d' (Function.update contents [name] (some content)))
      (fun _ _ => False) d := by
  have hroot := w.walk_root.1
  obtain ⟨q, hparent, hcomponents, hshorter⟩ := exists_parent_join hroot hname
  have hq : q.text ≠ "" := by
    intro hempty
    rw [Path.components_of_text_eq hempty] at hcomponents
    exact Path.components_ne_nil hroot hcomponents.symm
  obtain ⟨t, hwalk⟩ := h.walk_root
  have hthere := wp_createDirectories_of_walk hq (Nat.le_trans hshorter hfits.1)
    (walk_names_congr hcomponents hwalk)
  rw [writeWithDirectories, hparent]
  simp only [bne_iff_ne, ne_eq, hq, not_false_eq_true, if_true]
  refine wp.bind (hthere.mono ?_ fun _ _ hfalse => hfalse)
  rintro _ d' rfl
  have hleads : Path.LeadsOn w.root ([] ++ [name]) (w.root.join ⟨name⟩) := leadsOn_join_plain hroot hname
  obtain ⟨d'', hwrite, hholds⟩ : ∃ d'', d'.write (w.root.join ⟨name⟩) content = .ok d'' ∧
      w.Holds d'' (Function.update contents [name] (some content)) :=
    h.write_of_along hleads hfits hmem trivial
  exact wp.change_of_ok hwrite hholds

/-- A file is written to a target. -/
theorem Holds.writeWithDirectories_join {relative : String} (h : w.Holds d contents) (hpath : PlainPath relative)
    (hfits : Fits (w.root.join ⟨relative⟩)) (hmem : Disk.names ⟨relative⟩ ∈ w.targets) :
    wp (writeWithDirectories (w.root.join ⟨relative⟩) content)
      (fun _ d' => w.Holds d' (Function.update contents (Disk.names ⟨relative⟩) (some content)))
      (fun _ _ => False) d := by
  obtain ⟨names, hne, hplain, rfl⟩ := hpath
  rw [names_joined hplain hne] at hmem ⊢
  obtain ⟨before, last, rfl⟩ := (List.eq_nil_or_concat' names).resolve_left hne
  by_cases hbefore : before = []
  · subst hbefore
    have hjoined : Text.joined "/" ([] ++ [last]) = last := by simp [Text.joined]
    rw [hjoined] at hfits ⊢
    exact h.writeWithDirectories_here (hplain last (by simp)) hfits hmem
  · exact h.writeWithDirectories_spec (leadsOn_below w.walk_root.1 hplain hne) hfits hmem hbefore

end Site

/-- Files under plain paths, none of which begins another, are all written to an empty directory exactly if
    the paths fit. -/
theorem LeadsToEmpty.exists_writeAll_iff (hempty : d.LeadsToEmpty root place) {es : List (String × Bytes)}
    (hplain : ∀ e ∈ es, PlainPath e.1)
    (hunnested : ∀ e ∈ es, ∀ e' ∈ es, Disk.names ⟨e.1⟩ <+: Disk.names ⟨e'.1⟩ →
      Disk.names ⟨e.1⟩ = Disk.names ⟨e'.1⟩) :
    (∃ d', (es.forM fun e => writeWithDirectories (root.join ⟨e.1⟩) e.2) d = .ok () d') ↔
      ∀ e ∈ es, Fits (root.join ⟨e.1⟩) := by
  constructor
  · rintro ⟨d', hwrite⟩
    exact (Site.writeAll_fits root).of_ok hwrite
  · intro hfits
    let w : Site :=
      { before := d
        root := root
        place := place
        targets := es.map fun e => Disk.names ⟨e.1⟩
        leads := hempty
        ne_nil := by
          intro target htarget
          obtain ⟨e, he, rfl⟩ := List.mem_map.1 htarget
          obtain ⟨names, hne, hnames, hpath⟩ := hplain e he
          rwa [hpath, names_joined hnames hne]
        unnested := by
          intro target htarget target' htarget' hbegins
          obtain ⟨e, he, rfl⟩ := List.mem_map.1 htarget
          obtain ⟨e', he', rfl⟩ := List.mem_map.1 htarget'
          exact hunnested e he e' he' hbegins }
    obtain ⟨⟨⟩, d', hwrite, -⟩ := (Site.writeAll_of_each w.holds_before fun e he {d contents} h =>
      h.writeWithDirectories_join (hplain e he) (hfits e he) (List.mem_map_of_mem he)).returns
    exact ⟨d', hwrite⟩

end Disk
end Buildwright
