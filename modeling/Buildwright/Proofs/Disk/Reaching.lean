-- SUMMARY: What is reached from a directory through directories alone, and when the directories on the way can be read.
import Buildwright.Proofs.Disk.Below

/-!
# Reaching entries

From the place of a directory, names lead on to an entry if each but the last is that of a directory. This
says what lies below a directory without a link in between, whatever paths may lead there. Joined to a path
of the directory one after the other, the names give a path of the entry, and the only thing that can be
wrong with it is that it is too long.
-/
namespace Buildwright

/-- The path with names joined to it one after the other. -/
def Path.descend (root : Path) (names : List String) : Path :=
  names.foldl (fun p name => p.join ⟨name⟩) root

/-- Whether an entry is a directory, open or closed. -/
def Entry.isDirectory : Entry → Bool
  | .directory _ | .closed => true
  | _ => false

namespace Disk

/-- From a place, names lead on to an entry, through directories alone. -/
inductive Reaches (d : Disk) : Location → List String → Entry → Prop where
  | here {place : Location} {e : Entry} (h : d.find? place = some e) : Reaches d place [] e
  | deeper {place : Location} {name : String} {rest : List String} {t : Int} {e : Entry}
      (h : d.find? place = some (.directory t)) (hrest : Reaches d (place ++ [name]) rest e) :
      Reaches d place (name :: rest) e

variable {d d' : Disk} {place : Location} {name : String} {names : List String} {e : Entry}
  {p root : Path} {t : Int}

theorem Reaches.find? (h : d.Reaches place names e) : d.find? (place ++ names) = some e := by
  induction h with
  | here h => rwa [List.append_nil]
  | @deeper place name rest t e _ _ ih => rwa [List.append_assoc] at ih

theorem Reaches.exists_find? (h : d.Reaches place names e) : ∃ e', d.find? place = some e' := by
  cases h with
  | here h | deeper h _ => exact ⟨_, h⟩

/-- On the way to a directory there are directories. -/
theorem Reaches.exists_directory (h : d.Reaches place names e) (hdirectory : e.isDirectory = true) :
    ∃ e', d.find? place = some e' ∧ e'.isDirectory = true := by
  cases h with
  | here h => exact ⟨e, h, hdirectory⟩
  | deeper h _ => exact ⟨_, h, rfl⟩

theorem find?_length_lt_depth (h : d.find? place = some e) : place.length < d.depth := by
  by_cases hnil : place = []
  · rw [hnil]
    exact (depth_le_iff.1 (Nat.le_refl _)).1
  · exact length_lt_depth (mem_of_find? hnil h)

theorem WellFormed.plain_of_find? (hd : d.WellFormed) (h : d.find? (place ++ [name]) = some e) :
    Plain name :=
  hd.plain_of_mem (hd.mem_entriesIn_iff.2 h)

theorem WellFormed.plain_of_reaches (hd : d.WellFormed) (h : d.Reaches place names e) :
    ∀ name ∈ names, Plain name := by
  induction h with
  | here => simp
  | deeper _ hrest ih =>
    obtain ⟨e', he'⟩ := hrest.exists_find?
    exact List.forall_mem_cons.2 ⟨hd.plain_of_find? he', ih⟩

/-! ## Paths of entries -/

/-- A path with names joined to it has their pieces behind its own. -/
theorem pieces_descend (hroot : root.text ≠ "") (hplain : ∀ name ∈ names, Plain name) (hne : names ≠ []) :
    Text.pieces '/' (root.descend names).text = root.front ++ names := by
  induction names generalizing root with
  | nil => exact absurd rfl hne
  | cons name rest ih =>
    obtain ⟨hname, hrest⟩ := List.forall_mem_cons.1 hplain
    by_cases hnil : rest = []
    · subst hnil
      exact pieces_join_plain hroot hname
    · have hjoin : (root.join ⟨name⟩).text ≠ "" := (leadsOn_join_plain hroot hname).text_ne
      have hpieces := ih hjoin hrest hnil
      rw [front_join_plain hroot hname, List.append_assoc] at hpieces
      exact hpieces

theorem descend_eq_below (hroot : root.text ≠ "") (hplain : ∀ name ∈ names, Plain name)
    (hne : names ≠ []) : root.descend names = root.below names := by
  have hbelow : Text.pieces '/' (root.below names).text = root.front ++ names := by
    rw [Path.below, Path.pieces_join hroot (isAbsolute_joined hplain hne),
      pieces_joined_of_plain hplain hne]
  rw [← Path.mk_joined hbelow, ← Path.mk_joined (pieces_descend hroot hplain hne)]

/-- A path leads to an entry, unless it is too long. -/
def LeadsUnlessLong (d : Disk) (p : Path) (place : Location) (e : Entry) : Prop :=
  d.resolve p = .ok (place, e) ∨ d.resolve p = .error .nameTooLong

theorem WellFormed.leads_join (hd : d.WellFormed) (hroot : d.resolve root = .ok (place, .directory t))
    (hentry : d.find? (place ++ [name]) = some e) (hlink : ∀ target, e ≠ .link target) :
    d.LeadsUnlessLong (root.join ⟨name⟩) (place ++ [name]) e := by
  unfold LeadsUnlessLong
  rw [hd.resolve_join_eq hroot (hd.mem_entriesIn_iff.2 hentry) hlink]
  split
  · exact .inl rfl
  · exact .inr rfl

/-- A path grows by a name that is joined to it. -/
theorem utf8ByteSize_add_le_join (root : Path) (hname : Plain name) :
    root.text.utf8ByteSize + name.utf8ByteSize ≤ (root.join ⟨name⟩).text.utf8ByteSize := by
  rw [Path.join, if_neg (by simp [isAbsolute_of_plain hname])]
  split
  · simp only [String.utf8ByteSize_append]
    omega
  · simp only [String.utf8ByteSize_append]
    omega

theorem utf8ByteSize_le_descend (root : Path) (hplain : ∀ name ∈ names, Plain name) :
    root.text.utf8ByteSize ≤ (root.descend names).text.utf8ByteSize := by
  induction names generalizing root with
  | nil => exact Nat.le_refl _
  | cons name rest ih =>
    obtain ⟨hname, hrest⟩ := List.forall_mem_cons.1 hplain
    have hjoin := utf8ByteSize_add_le_join root hname
    exact Nat.le_trans (Nat.le_trans (Nat.le_add_right _ _) hjoin) (ih _ hrest)

/-- With names joined to it, a path of a directory leads to what they reach from there, if it does not
    become too long. -/
theorem WellFormed.resolve_descend (hd : d.WellFormed)
    (hroot : d.resolve root = .ok (place, .directory t)) (h : d.Reaches place names e)
    (hlink : ∀ target, e ≠ .link target)
    (hlength : (root.descend names).text.utf8ByteSize ≤ longestPath)
    (hnames : ∀ name ∈ names, name.utf8ByteSize ≤ longestName) :
    d.resolve (root.descend names) = .ok (place ++ names, e) := by
  induction h generalizing root t with
  | @here place e h =>
    obtain ⟨-, hwalk⟩ := locate_eq_ok.1 (resolve_eq_ok.1 hroot)
    have hpresent := walk_present hwalk
    rw [h, Option.getD_some] at hpresent
    rw [List.append_nil, hpresent]
    exact hroot
  | @deeper place name rest t' e h hrest ih =>
    obtain ⟨hname, hothers⟩ := List.forall_mem_cons.1 hnames
    have hjoin : (root.join ⟨name⟩).text.utf8ByteSize ≤ longestPath :=
      Nat.le_trans (utf8ByteSize_le_descend _ (hd.plain_of_reaches hrest)) hlength
    cases hrest with
    | here hlast =>
      have hresolve := hd.resolve_join_eq hroot (hd.mem_entriesIn_iff.2 hlast) hlink
      rwa [if_pos ⟨hjoin, hname⟩] at hresolve
    | deeper hdirectory hrest =>
      have hresolve := hd.resolve_join_eq hroot (hd.mem_entriesIn_iff.2 hdirectory) (by simp)
      rw [if_pos ⟨hjoin, hname⟩] at hresolve
      have hbelow := ih hresolve hlink hlength hothers
      rwa [List.append_assoc] at hbelow

/-! ## Directories that can be read -/

/-- Every directory that is reached from the place of a directory can be read at its path. -/
def AllReadable (d : Disk) (root : Path) (place : Location) : Prop :=
  ∀ names e, d.Reaches place names e → e.isDirectory = true →
    ∃ found, d.readDirectory (root.descend names) = .ok found

theorem AllReadable.join (h : d.AllReadable root place) (hplace : d.find? place = some (.directory t)) :
    d.AllReadable (root.join ⟨name⟩) (place ++ [name]) :=
  fun names e hreaches => h (name :: names) e (.deeper hplace hreaches)

/-- A directory that can be read is what its path leads to. -/
theorem LeadsUnlessLong.resolve_of_read (h : d.LeadsUnlessLong p place e) {found : List (String × Entry)}
    (hread : d.readDirectory p = .ok found) :
    ∃ t, d.resolve p = .ok (place, .directory t) ∧ e = .directory t ∧ found = d.entriesIn place := by
  obtain ⟨place', t, hresolve, rfl⟩ := readDirectory_eq_ok.1 hread
  rcases h with hleads | hlong
  · rw [hleads] at hresolve
    cases hresolve
    exact ⟨t, hleads, rfl, rfl⟩
  · rw [hlong] at hresolve
    cases hresolve

/-- A directory that cannot be read is never reported as missing. -/
theorem LeadsUnlessLong.kind_of_error (h : d.LeadsUnlessLong p place e) (hdirectory : e.isDirectory = true)
    {error : IoError} (hread : d.readDirectory p = .error error) : error.kind ≠ .notFound := by
  rcases h with hleads | hlong
  · rw [readDirectory, hleads] at hread
    cases e with
    | directory t => cases hread
    | closed =>
      cases hread
      decide
    | file f => cases hdirectory
    | link target => cases hdirectory
  · rw [readDirectory, hlong] at hread
    cases hread
    decide

end Disk
end Buildwright
