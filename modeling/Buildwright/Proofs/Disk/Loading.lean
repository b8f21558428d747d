-- SUMMARY: Loading a directory: a store with the files below it, each under its path from there.
import Buildwright.Proofs.Disk.Search
import Buildwright.Proofs.Entries
import Buildwright.Store

/-!
# Loading a directory

A file below a directory has the names that lead to it from there as its relative path. Distinct files have
distinct relative paths, so a store that is loaded from a directory holds the content of every file with
the extension below it, and nothing else.
-/
namespace Buildwright

namespace Disk

variable {d : Disk} {root p p' : Path}

/-- The texts of the components of a relative path along plain names are these names. -/
theorem slashed_joined {names : List String} (hplain : ∀ name ∈ names, Plain name) (hne : names ≠ []) :
    (Path.mk (Text.joined "/" names)).slashed = Text.joined "/" names := by
  have hpieces : Text.pieces '/' (Text.joined "/" names) = names :=
    Text.pieces_joined (fun name hname => (hplain name hname).2.2.2) hne
  exact Path.slashed_of_tidy (hpieces.symm ▸ tidy_of_plain hplain)

/-- The relative path of a file below a directory are the names that lead to the file from there. -/
theorem WellFormed.exists_relativeTo? (hd : d.WellFormed) (h : d.FileBelow root p) :
    ∃ names, names ≠ [] ∧ (∀ name ∈ names, Plain name) ∧
      Text.pieces '/' p.text = root.front ++ names ∧
      p.relativeTo? root = some ⟨Text.joined "/" names⟩ := by
  obtain ⟨names, hne, hplain, hpieces⟩ := hd.exists_pieces h
  have htidy := tidy_of_plain hplain
  refine ⟨names, hne, hplain, hpieces, ?_⟩
  rw [Path.relativeTo?_of_front h.text_ne hpieces htidy hne (hd.startsWith_of_fileBelow h)
    (Nat.le_refl _), Path.components_of_front h.text_ne hpieces hne, List.drop_left,
    Path.text_of_ofPiece? htidy]

theorem WellFormed.slashed_of_relativeTo? (hd : d.WellFormed) (h : d.FileBelow root p) {relative : Path}
    (hrelative : p.relativeTo? root = some relative) : relative.slashed = relative.text := by
  obtain ⟨names, hne, hplain, -, heq⟩ := hd.exists_relativeTo? h
  rw [heq] at hrelative
  cases hrelative
  exact slashed_joined hplain hne

/-- Files below a directory with one relative path are the same file. -/
theorem WellFormed.eq_of_relativeTo? (hd : d.WellFormed) (h : d.FileBelow root p)
    (h' : d.FileBelow root p') (heq : p.relativeTo? root = p'.relativeTo? root) : p = p' := by
  obtain ⟨names, hne, hplain, hpieces, hrelative⟩ := hd.exists_relativeTo? h
  obtain ⟨names', hne', hplain', hpieces', hrelative'⟩ := hd.exists_relativeTo? h'
  have hnames : names = names' := by
    rw [hrelative, hrelative'] at heq
    have hjoined : Text.joined "/" names = Text.joined "/" names' := by simpa using heq
    have hsplit := congrArg (Text.pieces '/') hjoined
    rwa [Text.pieces_joined (fun name hname => (hplain name hname).2.2.2) hne,
      Text.pieces_joined (fun name hname => (hplain' name hname).2.2.2) hne'] at hsplit
  have htext : p.text = p'.text := by
    rw [← Text.joined_pieces '/' p.text, ← Text.joined_pieces '/' p'.text, hpieces, hpieces', hnames]
  cases p
  cases p'
  exact congrArg Path.mk htext

end Disk

namespace Store

variable {d : Disk} {root : Path} {extension : String} {store store' : Store} {files : List Path}

/-- A store holds the given files, each with its content and under its path from a directory, and nothing
    else. -/
def Holds (store : Store) (d : Disk) (root : Path) (files : List Path) : Prop :=
  ∀ name content, store.read name = .ok content ↔
    ∃ p ∈ files, p.relativeTo? root = some ⟨name⟩ ∧ d.read p = .ok content

/-- A store holds the files with an extension below a directory, each with its content and under its path from
    there, and nothing else. -/
def HoldsFilesBelow (store : Store) (d : Disk) (root : Path) (extension : String) : Prop :=
  ∀ name content, store.read name = .ok content ↔
    ∃ p, d.FileBelow root p ∧ p.extension? = some extension ∧ p.relativeTo? root = some ⟨name⟩ ∧
      d.read p = .ok content

theorem holds_empty : empty.Holds d root [] := by
  intro name content
  simp [empty, read, SortedMap.find?, SortedMap.empty]

/-- The step of a load puts the content of the file under its relative path. -/
theorem writeFile_eq_ok {p : Path} (hd : d.WellFormed) (hp : d.FileBelow root p)
    (h : writeFile d root store p = .ok store') :
    ∃ name content, p.relativeTo? root = some ⟨name⟩ ∧ d.read p = .ok content ∧
      store' = store.write name content := by
  obtain ⟨names, -, -, -, hrelative⟩ := hd.exists_relativeTo? hp
  rw [writeFile, hrelative] at h
  obtain ⟨content, hcontent, hstore⟩ := map_eq_ok.1 h
  rw [hd.slashed_of_relativeTo? hp hrelative] at hstore
  exact ⟨_, content, hrelative, hcontent, hstore.symm⟩

/-- One more file of a directory can be loaded into a store that holds others. -/
theorem Holds.writeFile {p : Path} (hd : d.WellFormed) (hfiles : ∀ q ∈ files ++ [p], d.FileBelow root q)
    (h : store.Holds d root files) (hwrite : writeFile d root store p = .ok store') :
    store'.Holds d root (files ++ [p]) := by
  have hp : d.FileBelow root p := hfiles p (by simp)
  obtain ⟨written, content', hrelative, hread, rfl⟩ := writeFile_eq_ok hd hp hwrite
  intro name content
  rw [read_write]
  by_cases hname : name = written
  · subst hname
    have hcontent : (.ok content' : Except StoreError Bytes) = .ok content ↔ d.read p = .ok content := by
      rw [hread]
      simp
    rw [if_pos rfl, hcontent]
    constructor
    · exact fun hcontent => ⟨p, by simp, hrelative, hcontent⟩
    · -- The file under this name is `p`, whichever of the files it is.
      rintro ⟨q, hq, hrelative', hcontent⟩
      rwa [hd.eq_of_relativeTo? hp (hfiles q hq) (hrelative.trans hrelative'.symm)]
  · have hother : p.relativeTo? root ≠ some ⟨name⟩ := by
      rw [hrelative]
      simpa using fun heq => hname heq.symm
    rw [if_neg hname, h name content]
    simp [or_and_right, exists_or, hother]

/-- Files of a directory that are loaded in turn are what is in the store. -/
theorem holds_of_foldlM (hd : d.WellFormed) (hfiles : ∀ p ∈ files, d.FileBelow root p)
    (h : files.foldlM (writeFile d root) empty = .ok store) : store.Holds d root files := by
  refine foldlM_invariant (I := fun loaded s => s.Holds d root loaded) holds_empty ?_ h
  intro before p after s s' hall hloaded hwrite
  refine hloaded.writeFile hd (fun q hq => hfiles q ?_) hwrite
  rw [hall, List.append_cons]
  exact List.mem_append_left _ hq

/-- What is loaded from a directory are the files with the extension below it. -/
theorem holdsFilesBelow_of_loadFrom (hd : d.WellFormed) (h : loadFrom d root extension = .ok store) :
    store.HoldsFilesBelow d root (Text.dropLeading '.' extension) := by
  obtain ⟨files, hfiles, hload⟩ := bind_eq_ok.1 h
  obtain ⟨-, hmem⟩ := hd.filesWithExtension_spec hfiles
  have hbelow : ∀ p ∈ files, d.FileBelow root p := fun p hp => ((hmem p).1 hp).1
  intro name content
  rw [holds_of_foldlM hd hbelow hload name content]
  simp only [hmem, and_assoc]

end Store
end Buildwright
