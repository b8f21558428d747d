-- SUMMARY: The names that staging paths go through, none of which is a dot, and none of which leads through another source.
import Buildwright.Proofs.ClassName.RoundTrip
import Buildwright.Proofs.Path
import Buildwright.Disk.Basic

/-!
# Staging paths on the disk

A staging path goes through the names of the staging root, through those of the packages and to the
source. Only the last of them has a dot in it, that of its ending. So none of the names is one that a walk
does not take for a name, and no source lies where another needs a directory. Empty segments of the class
name give empty pieces, which are no names: distinct staging paths may lead through the same names.
-/
namespace Buildwright.ClassName

/-- The names that a staging path goes through. -/
def stagedNames (name : String) : List String :=
  Disk.names ⟨stagingPath name⟩

/-- The pieces of a staging path are those of the staging root, and those of the class with its ending. -/
theorem pieces_stagingPath (name : String) :
    Text.pieces '/' (stagingPath name) =
      ["src", "main", "java"] ++ Text.pieces '/' (slashed name ++ sourceSuffix) := by
  have hroot : Text.pieces '/' "src/main/java" = ["src", "main", "java"] := by decide
  have happend := Text.pieces_append '/' "src/main/java" (slashed name ++ sourceSuffix)
  rw [hroot, ← String.append_assoc] at happend
  exact happend

theorem exists_pieces_source (name : String) :
    ∃ before last, (∀ piece ∈ before ++ [last], '.' ∉ piece.toList) ∧
      Text.pieces '/' (slashed name ++ sourceSuffix) = before ++ [last ++ sourceSuffix] := by
  have hsuffix : '/' ∉ sourceSuffix.toList := by decide
  obtain ⟨before, last, hslashed, hpieces⟩ := Text.pieces_append_of_not_mem (slashed name) hsuffix
  refine ⟨before, last, fun piece hpiece hdot => ?_, hpieces⟩
  rw [← hslashed] at hpiece
  exact dot_not_mem_slashed name (Text.of_mem_pieces hpiece hdot).2

/-- A staging path is relative. -/
theorem isAbsolute_stagingPath (name : String) : (Path.mk (stagingPath name)).isAbsolute = false :=
  Path.isAbsolute_eq_false (pieces_stagingPath name) (by decide)

/-- The names begin with those of the staging root, and the only dot among them is in the last. -/
theorem exists_stagedNames (name : String) :
    ∃ before last, (∀ piece ∈ before ++ [last], '.' ∉ piece.toList) ∧
      stagedNames name = ["src", "main", "java"] ++ (before ++ [last ++ sourceSuffix]) := by
  obtain ⟨before, last, hdots, hpieces⟩ := exists_pieces_source name
  refine ⟨before.filter (· != ""), last, ?_, ?_⟩
  · intro piece hpiece
    apply hdots
    rw [List.mem_append] at hpiece ⊢
    exact hpiece.imp_left fun h => (List.mem_filter.1 h).1
  · have hroot : ["src", "main", "java"].filter (· != "") = ["src", "main", "java"] := by decide
    have hlast : [last ++ sourceSuffix].filter (· != "") = [last ++ sourceSuffix] := by simp [sourceSuffix]
    rw [stagedNames, Disk.names, pieces_stagingPath, hpieces, List.filter_append, List.filter_append, hroot,
      hlast]

theorem one_lt_length_stagedNames (name : String) : 1 < (stagedNames name).length := by
  obtain ⟨before, last, -, hnames⟩ := exists_stagedNames name
  simp [hnames]

/-- A name of a staging path is neither empty nor one of the dots that stand for directories. -/
theorem isName_of_mem_stagedNames {name piece : String} (h : piece ∈ stagedNames name) :
    Path.idle piece = false ∧ piece ≠ ".." := by
  have hne : piece ≠ "" := by simpa using (List.mem_filter.1 h).2
  obtain ⟨before, last, hdots, hnames⟩ := exists_stagedNames name
  have hdot : piece ≠ "." ∧ piece ≠ ".." := by
    rw [hnames, List.mem_append, List.mem_append, List.mem_singleton] at h
    rcases h with h | h | rfl
    · have hroot : ∀ piece ∈ ["src", "main", "java"], piece ≠ "." ∧ piece ≠ ".." := by decide
      exact hroot piece h
    · have hfree := hdots piece (List.mem_append_left _ h)
      constructor
      all_goals
        rintro rfl
        exact hfree (by decide)
    · have hletter : 'j' ∈ (last ++ sourceSuffix).toList := by simp [sourceSuffix]
      constructor
      all_goals
        intro heq
        rw [heq] at hletter
        exact absurd hletter (by decide)
  exact ⟨by simp [Path.idle, hne, hdot.1], hdot.2⟩

/-- No source is staged at a directory that leads to another. -/
theorem stagedNames_unnested {name name' : String}
    (h : stagedNames name <+: stagedNames name') : stagedNames name = stagedNames name' := by
  obtain ⟨before, last, -, hnames⟩ := exists_stagedNames name
  obtain ⟨before', last', hdots', hnames'⟩ := exists_stagedNames name'
  rw [hnames, hnames', List.prefix_append_right_inj] at h
  rw [hnames, hnames']
  rcases List.prefix_concat_iff.1 h with heq | hbelow
  · rw [heq]
  · have hmem : last ++ sourceSuffix ∈ before' := hbelow.subset (by simp)
    have hdot : '.' ∈ (last ++ sourceSuffix).toList := by simp [sourceSuffix]
    exact absurd hdot (hdots' _ (List.mem_append_left _ hmem))

/-- A staging path leads on from any path along its names. -/
theorem leadsOn_stagingPath {root : Path} (hroot : root.text ≠ "") (name : String) :
    root.LeadsOn (stagedNames name) (root.join ⟨stagingPath name⟩) := by
  obtain ⟨before, last, -, hpieces⟩ := exists_pieces_source name
  have hall : Text.pieces '/' (stagingPath name) =
      ["src", "main", "java"] ++ before ++ [last ++ sourceSuffix] := by
    rw [pieces_stagingPath, hpieces, List.append_assoc]
  have hnames : stagedNames name =
      (["src", "main", "java"] ++ before ++ [last ++ sourceSuffix]).filter (· != "") := by
    rw [stagedNames, Disk.names, hall]
  rw [hnames]
  refine Path.leadsOn_join hroot (isAbsolute_stagingPath name) hall (by simp [sourceSuffix]) ?_
  rw [← hnames]
  exact fun piece hpiece => isName_of_mem_stagedNames hpiece

end Buildwright.ClassName
