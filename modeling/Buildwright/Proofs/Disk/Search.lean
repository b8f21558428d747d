-- SUMMARY: Searching a directory: the files found are exactly those that lie below it without links in between.
import Mathlib.Data.List.Nodup
import Buildwright.Disk.Scan
import Buildwright.Proofs.Disk.Walk
import Buildwright.Proofs.Path.Relative
import Buildwright.Proofs.WeakestPre

/-!
# Searching a directory

`FileBelow` says which files lie below a directory: those among its entries, and those below the
directories among its entries. Links are followed on the way to the directory, but not from there.
On a well-formed disk on which all these directories can be read, `filesWithExtension` finds the files
with the extension among them and nothing else: the depth to which it searches is never reached, since
each step leads to an entry that lies one name deeper.
-/
namespace Buildwright

/-! ## Well-formed disks -/

namespace Disk

/-- A name that can stand between slashes, for an entry of its own. -/
def Plain (name : String) : Prop :=
  name ≠ "" ∧ name ≠ "." ∧ name ≠ ".." ∧ '/' ∉ name.toList

instance (name : String) : Decidable (Plain name) :=
  inferInstanceAs (Decidable (_ ∧ _))

/-- A disk on which no place is taken twice, and the names of all places can be written in paths. -/
structure WellFormed (d : Disk) : Prop where
  nodup : (d.entries.map (·.1)).Nodup
  plain : ∀ place ∈ d.entries.map (·.1), ∀ name ∈ place, Plain name

variable {d : Disk} {place : Location} {name : String} {e : Entry} {p root : Path}

theorem nameIn?_eq_some {directory : Location} :
    nameIn? directory place = some name ↔ place = directory ++ [name] := by
  unfold nameIn?
  constructor
  · intro h
    split at h
    · next other hbegins =>
      cases h
      exact (List.isPrefixOf?_eq_some_iff_append_eq.1 hbegins).symm
    · cases h
  · rintro rfl
    rw [List.isPrefixOf?_eq_some_iff_append_eq.2 rfl]

theorem mem_entriesIn {directory : Location} :
    (name, e) ∈ d.entriesIn directory ↔ (directory ++ [name], e) ∈ d.entries := by
  unfold entriesIn
  rw [List.mem_filterMap]
  constructor
  · rintro ⟨⟨place, e'⟩, hmem, hname⟩
    obtain ⟨name', hname', heq⟩ := Option.map_eq_some_iff.1 hname
    cases heq
    rwa [← nameIn?_eq_some.1 hname']
  · intro hmem
    have hname : nameIn? directory (directory ++ [name]) = some name := nameIn?_eq_some.2 rfl
    exact ⟨_, hmem, by simp only [hname, Option.map_some]⟩

theorem mem_of_find? (hplace : place ≠ []) (h : d.find? place = some e) : (place, e) ∈ d.entries := by
  rw [find?, if_neg hplace] at h
  obtain ⟨before, after, heq, -⟩ := List.lookup_eq_some_iff.1 h
  rw [heq]
  simp

theorem WellFormed.find?_of_mem (h : d.WellFormed) (hplace : place ≠ [])
    (hmem : (place, e) ∈ d.entries) : d.find? place = some e := by
  rw [find?, if_neg hplace]
  have hnodup := h.nodup
  obtain ⟨before, after, heq⟩ := List.append_of_mem hmem
  refine List.lookup_eq_some_iff.2 ⟨before, after, heq, fun x hx => ?_⟩
  rw [heq, List.map_append, List.map_cons, List.nodup_middle, List.nodup_cons] at hnodup
  have hother : place ≠ x.1 := fun heq =>
    hnodup.1 (List.mem_append_left _ (List.mem_map.2 ⟨x, hx, heq.symm⟩))
  simpa using hother

/-- What a directory shows is what lies in it. -/
theorem WellFormed.mem_entriesIn_iff (h : d.WellFormed) {directory : Location} :
    (name, e) ∈ d.entriesIn directory ↔ d.find? (directory ++ [name]) = some e := by
  rw [mem_entriesIn]
  exact ⟨h.find?_of_mem (by simp), mem_of_find? (by simp)⟩

theorem WellFormed.plain_of_mem (h : d.WellFormed) {directory : Location}
    (hmem : (name, e) ∈ d.entriesIn directory) : Plain name :=
  h.plain _ (List.mem_map_of_mem (mem_entriesIn.1 hmem)) name (by simp)

/-- A directory shows no name twice. -/
theorem WellFormed.entriesIn_nodup (h : d.WellFormed) (directory : Location) :
    (d.entriesIn directory).Pairwise fun x y => x.1 ≠ y.1 := by
  have hplaces : d.entries.Pairwise fun x y => x.1 ≠ y.1 := List.pairwise_map.1 h.nodup
  refine List.Pairwise.filterMap _ ?_ hplaces
  rintro ⟨place, e⟩ ⟨place', e'⟩ hne x hx y hy hxy
  obtain ⟨name, hname, rfl⟩ := Option.map_eq_some_iff.1 hx
  obtain ⟨name', hname', rfl⟩ := Option.map_eq_some_iff.1 hy
  apply hne
  show place = place'
  rw [nameIn?_eq_some.1 hname, nameIn?_eq_some.1 hname']
  exact congrArg (directory ++ [·]) hxy

theorem readDirectory_eq_ok {found : List (String × Entry)} :
    d.readDirectory p = .ok found ↔
      ∃ place t, d.resolve p = .ok (place, .directory t) ∧ found = d.entriesIn place := by
  unfold readDirectory
  cases hresolve : d.resolve p with
  | error e => simp
  | ok result =>
    obtain ⟨place, e⟩ := result
    cases e <;> simp [eq_comm]

/-! ## Paths into a directory -/

theorem tidy_of_plain {names : List String} (h : ∀ name ∈ names, Plain name) : Path.Tidy names :=
  fun name hname => by simp [Path.idle, (h name hname).1, (h name hname).2.1]

theorem filterMap_ofPiece?_of_plain {names : List String} (h : ∀ name ∈ names, Plain name) :
    names.filterMap Path.Component.ofPiece? = names.map .named := by
  rw [← List.filterMap_eq_map]
  refine List.filterMap_congr fun name hname => ?_
  obtain ⟨hempty, hcurrent, hparent, -⟩ := h name hname
  rw [Path.Component.ofPiece?, if_neg (by simp [hempty, hcurrent]), if_neg hparent]
  rfl

theorem text_length_of_modifiedMillis {time : Nat} (h : d.modifiedMillis p = .ok time) :
    p.text.utf8ByteSize ≤ longestPath := by
  cases hresolve : d.resolve p with
  | error e =>
    rw [modifiedMillis, modifiedAt, hresolve] at h
    cases h
  | ok result => exact (locate_eq_ok.1 (resolve_eq_ok.1 hresolve)).1.2

theorem text_ne_of_resolve {result : Location × Entry} (h : d.resolve p = .ok result) : p.text ≠ "" :=
  (locate_eq_ok.1 (resolve_eq_ok.1 h)).1.1

theorem pieces_of_plain (h : Plain name) : Text.pieces '/' name = [name] := by
  have hjoined : Text.joined (String.ofList ['/']) [name] = name := by simp [Text.joined]
  have hpieces : Text.pieces '/' (Text.joined (String.ofList ['/']) [name]) = [name] :=
    Text.pieces_joined (by simpa using h.2.2.2) (by simp)
  rwa [hjoined] at hpieces

theorem isAbsolute_of_plain (h : Plain name) : (Path.mk name).isAbsolute = false := by
  cases habsolute : (Path.mk name).isAbsolute with
  | false => rfl
  | true =>
    obtain ⟨r, hr⟩ := Text.beginsWith_eq_true.1 habsolute
    refine absurd ?_ h.2.2.2
    have hname : name = "/" ++ r := hr
    simp [hname]

/-- The pieces of a path into a directory are those of the directory and the name. -/
theorem pieces_join_plain (hroot : root.text ≠ "") (h : Plain name) :
    Text.pieces '/' (root.join ⟨name⟩).text = root.front ++ [name] := by
  rw [Path.pieces_join hroot (isAbsolute_of_plain h), pieces_of_plain h]

theorem leadsOn_join_plain (hroot : root.text ≠ "") (h : Plain name) :
    Path.LeadsOn root [name] (root.join ⟨name⟩) := by
  refine ⟨?_, [], name, pieces_join_plain hroot h, ?_, h.1⟩
  · intro other hother
    rw [List.mem_singleton.1 hother]
    exact ⟨by simp [Path.idle, h.1, h.2.1], h.2.2.1⟩
  · simp [h.1]

theorem front_join_plain (hroot : root.text ≠ "") (h : Plain name) :
    (root.join ⟨name⟩).front = root.front ++ [name] := by
  rw [Path.front, (leadsOn_join_plain hroot h).endsWith_eq_false, ← pieces_join_plain hroot h]
  rfl

/-- The path into a directory to one of its entries leads there, unless the path or the name is too long. -/
theorem WellFormed.resolve_join_eq (h : d.WellFormed) {t : Int}
    (hroot : d.resolve root = .ok (place, .directory t)) (hentry : (name, e) ∈ d.entriesIn place)
    (hlink : ∀ target, e ≠ .link target) :
    d.resolve (root.join ⟨name⟩) =
      if (root.join ⟨name⟩).text.utf8ByteSize ≤ longestPath ∧ name.utf8ByteSize ≤ longestName then
        .ok (place ++ [name], e)
      else .error .nameTooLong := by
  have hplain := h.plain_of_mem hentry
  obtain ⟨⟨hne, -⟩, hwalk⟩ := locate_eq_ok.1 (resolve_eq_ok.1 hroot)
  have hleads := leadsOn_join_plain hne hplain
  obtain ⟨final, hsteps, hfinal⟩ := steps_eq root
  rw [hsteps] at hwalk
  obtain ⟨left, hon⟩ : ∃ left, ∀ rest, rest ≠ [] →
      walk d true mostLinks (start d.workingDirectory root) (Disk.names root ++ rest) =
        walk d true left place rest := walk_append hfinal hwalk
  have hgoes : walk d true mostLinks (start d.workingDirectory (root.join ⟨name⟩))
      (steps (root.join ⟨name⟩)) = walk d true left place [name] := by
    rw [start, hleads.isAbsolute_eq hne, ← start, steps_of_leadsOn hleads, names_of_leadsOn hleads,
      hon [name] (by simp)]
  by_cases hlong : (root.join ⟨name⟩).text.utf8ByteSize ≤ longestPath
  · have hcheck : checkLength (root.join ⟨name⟩) = .ok () := checkLength_eq_ok.2 ⟨hleads.text_ne, hlong⟩
    have hlocate : d.locate (root.join ⟨name⟩) true = walk d true left place [name] := by
      rw [locate, hcheck, ← hgoes]
      rfl
    by_cases hname : name.utf8ByteSize ≤ longestName
    · rw [if_pos ⟨hlong, hname⟩, resolve_eq_ok, hlocate, walk_cons,
        stride_of_isName ⟨hplain.2.1, hplain.2.2.1, hname⟩, h.mem_entriesIn_iff.1 hentry]
      cases e with
      | link target => exact absurd rfl (hlink target)
      | file f => rfl
      | closed => rfl
      | directory t' => simp only [walk_nil, h.mem_entriesIn_iff.1 hentry, Option.getD_some]
    · have hstride : d.stride place name = .tooLong := by
        rw [stride, if_neg hplain.2.1, if_neg hplain.2.2.1, if_pos (Nat.lt_of_not_le hname)]
      rw [if_neg fun hfits => hname hfits.2, resolve, hlocate, walk_cons, hstride]
  · have hcheck : checkLength (root.join ⟨name⟩) = .error .nameTooLong := by
      rw [checkLength, if_neg hleads.text_ne, if_pos (Nat.lt_of_not_le hlong)]
    have hlocate : d.locate (root.join ⟨name⟩) true = .error .nameTooLong := by
      rw [locate, hcheck]
      rfl
    rw [if_neg fun hfits => hlong hfits.1, resolve, hlocate]

/-- An entry that a directory shows is what the path into the directory leads to, if it leads anywhere. -/
theorem WellFormed.resolve_join (h : d.WellFormed) {t : Int}
    (hroot : d.resolve root = .ok (place, .directory t)) (hentry : (name, e) ∈ d.entriesIn place)
    (hlink : ∀ target, e ≠ .link target) {result : Location × Entry}
    (hresult : d.resolve (root.join ⟨name⟩) = .ok result) : result = (place ++ [name], e) := by
  rw [h.resolve_join_eq hroot hentry hlink] at hresult
  split at hresult
  · exact (Except.ok.inj hresult).symm
  · cases hresult

/-! ## Files below a directory -/

/-- A file that lies below the directory to which a path leads, with no link on the way from there, and
    the path of the file. -/
inductive FileBelow (d : Disk) : Path → Path → Prop where
  | here {root : Path} {found : List (String × Entry)} {name : String} {f : File}
      (hread : d.readDirectory root = .ok found) (hname : (name, .file f) ∈ found) :
      FileBelow d root (root.join ⟨name⟩)
  | deeper {root p : Path} {found : List (String × Entry)} {name : String} {t : Int}
      (hread : d.readDirectory root = .ok found) (hname : (name, .directory t) ∈ found)
      (h : FileBelow d (root.join ⟨name⟩) p) : FileBelow d root p

/-- A directory that can be read, with all the directories below it and the times of the files. -/
inductive Readable (d : Disk) : Path → Prop where
  | intro {root : Path} {found : List (String × Entry)} (hread : d.readDirectory root = .ok found)
      (hfiles : ∀ name f, (name, .file f) ∈ found → ∃ time, d.modifiedMillis (root.join ⟨name⟩) = .ok time)
      (hopen : ∀ name, (name, .closed) ∉ found)
      (hbelow : ∀ name t, (name, .directory t) ∈ found → Readable d (root.join ⟨name⟩)) :
      Readable d root

theorem FileBelow.exists_resolve (h : d.FileBelow root p) :
    ∃ place t, d.resolve root = .ok (place, .directory t) := by
  cases h with
  | here hread | deeper hread =>
    obtain ⟨place, t, hresolve, -⟩ := readDirectory_eq_ok.1 hread
    exact ⟨place, t, hresolve⟩

/-- The path of a file below a directory goes on from that of the directory along plain names. -/
theorem WellFormed.exists_pieces (hd : d.WellFormed) (h : d.FileBelow root p) :
    ∃ names, names ≠ [] ∧ (∀ name ∈ names, Plain name) ∧
      Text.pieces '/' p.text = root.front ++ names := by
  induction h with
  | @here root found name f hread hname =>
    obtain ⟨place, t, hresolve, rfl⟩ := readDirectory_eq_ok.1 hread
    have hplain := hd.plain_of_mem hname
    exact ⟨[name], by simp, by simpa using hplain,
      pieces_join_plain (text_ne_of_resolve hresolve) hplain⟩
  | @deeper root p found name t hread hname hp ih =>
    obtain ⟨place, t, hresolve, rfl⟩ := readDirectory_eq_ok.1 hread
    have hplain := hd.plain_of_mem hname
    have hroot := text_ne_of_resolve hresolve
    obtain ⟨names, hne, hnames, hpieces⟩ := ih
    rw [front_join_plain hroot hplain, List.append_assoc] at hpieces
    exact ⟨name :: names, by simp, List.forall_mem_cons.2 ⟨hplain, hnames⟩, hpieces⟩

theorem FileBelow.text_ne (h : d.FileBelow root p) : root.text ≠ "" := by
  obtain ⟨place, t, hresolve⟩ := h.exists_resolve
  exact text_ne_of_resolve hresolve

/-- A file lies below the path of the directory also in its spelling. -/
theorem WellFormed.startsWith_of_fileBelow (hd : d.WellFormed) (h : d.FileBelow root p) :
    p.startsWith root = true := by
  obtain ⟨names, hne, -, hpieces⟩ := hd.exists_pieces h
  rw [Path.startsWith_iff, Path.components_of_front h.text_ne hpieces hne]
  exact List.prefix_append _ _

/-- The time of a file below a readable directory can be told. -/
theorem Readable.exists_time (h : d.Readable root) (hp : d.FileBelow root p) :
    ∃ time, d.modifiedMillis p = .ok time := by
  induction hp with
  | here hread hname =>
    cases h with | intro hread' hfiles _ _ => ?_
    rw [hread] at hread'
    cases hread'
    exact hfiles _ _ hname
  | deeper hread hname _ ih =>
    cases h with | intro hread' _ _ hbelow => ?_
    rw [hread] at hread'
    cases hread'
    exact ih (hbelow _ _ hname)

/-! ## Searching -/

theorem depth_le_iff {n : Nat} : d.depth ≤ n ↔ 0 < n ∧ ∀ x ∈ d.entries, x.1.length < n := by
  have hmax : ∀ (es : List (Location × Entry)) (m : Nat),
      es.foldl (fun m x => max m x.1.length) m < n ↔ m < n ∧ ∀ x ∈ es, x.1.length < n := by
    intro es
    induction es with
    | nil => simp
    | cons x rest ih =>
      intro m
      rw [List.foldl_cons, ih, Nat.max_lt, List.forall_mem_cons, and_assoc]
  exact hmax d.entries 0

theorem length_lt_depth (hmem : (place, e) ∈ d.entries) : place.length < d.depth :=
  (depth_le_iff.1 (Nat.le_refl _)).2 _ hmem

/-- Nothing lies in a directory that is as deep as the disk. -/
theorem FileBelow.length_lt_depth (h : d.FileBelow root p) {t : Int}
    (hroot : d.resolve root = .ok (place, .directory t)) : place.length < d.depth := by
  have hentry : ∃ name e, (name, e) ∈ d.entriesIn place := by
    cases h with
    | here hread hname | deeper hread hname =>
      obtain ⟨place', t', hresolve, rfl⟩ := readDirectory_eq_ok.1 hread
      rw [hroot] at hresolve
      cases hresolve
      exact ⟨_, _, hname⟩
  obtain ⟨name, e, hmem⟩ := hentry
  have hlt := Disk.length_lt_depth (mem_entriesIn.1 hmem)
  rw [List.length_append] at hlt
  exact Nat.lt_of_le_of_lt (Nat.le_add_right _ _) hlt

/-- The step of a search at an entry of a directory. -/
def filesAt (d : Disk) (extension : String) (n : Nat) (root : Path) (x : String × Entry) :
    Except IoError (List Path) :=
  match x.2 with
  | .directory _ | .closed => d.filesWithin extension n (root.join ⟨x.1⟩)
  | .file _ =>
    .ok (if (root.join ⟨x.1⟩).extension? = some extension then [root.join ⟨x.1⟩] else [])
  | .link _ => .ok []

theorem filesWithin_succ {extension : String} {n : Nat} :
    d.filesWithin extension (n + 1) root =
      match d.readDirectory root with
      | .error e => if e.kind = .notFound then .ok [] else .error e
      | .ok found => found.mapM (d.filesAt extension n root) >>= fun below => .ok below.flatten := by
  rw [filesWithin]
  cases d.readDirectory root with
  | error e => rfl
  | ok found => rfl

/-- A search that ends well has found nothing where no directory can be read, and otherwise what it finds at
    the entries of the directory. -/
theorem filesWithin_succ_eq_ok {extension : String} {n : Nat} {files : List Path}
    (h : d.filesWithin extension (n + 1) root = .ok files) :
    (files = [] ∧ ∀ found, d.readDirectory root ≠ .ok found) ∨
      ∃ found parts, d.readDirectory root = .ok found ∧
        found.mapM (d.filesAt extension n root) = .ok parts ∧ files = parts.flatten := by
  rw [filesWithin_succ] at h
  cases hread : d.readDirectory root with
  | error e =>
    simp only [hread] at h
    split at h
    · cases h
      exact .inl ⟨rfl, fun found hfound => by cases hfound⟩
    · cases h
  | ok found =>
    simp only [hread] at h
    obtain ⟨parts, hparts, heq⟩ := bind_eq_ok.1 h
    cases heq
    exact .inr ⟨found, parts, rfl, hparts, rfl⟩

/-- A file that lies below a directory by way of one of its entries. -/
def BelowEntry (d : Disk) (root : Path) (x : String × Entry) (p : Path) : Prop :=
  (∃ f, x.2 = .file f ∧ p = root.join ⟨x.1⟩) ∨ ∃ t, x.2 = .directory t ∧ d.FileBelow (root.join ⟨x.1⟩) p

theorem fileBelow_iff {found : List (String × Entry)} (hread : d.readDirectory root = .ok found) :
    d.FileBelow root p ↔ ∃ x ∈ found, d.BelowEntry root x p := by
  constructor
  · intro h
    cases h with
    | here hread' hname =>
      rw [hread] at hread'
      cases hread'
      exact ⟨_, hname, .inl ⟨_, rfl, rfl⟩⟩
    | deeper hread' hname hp =>
      rw [hread] at hread'
      cases hread'
      exact ⟨_, hname, .inr ⟨_, rfl, hp⟩⟩
  · rintro ⟨⟨name, e⟩, hname, ⟨f, rfl, rfl⟩ | ⟨t, rfl, hp⟩⟩
    · exact .here hread hname
    · exact .deeper hread hname hp

theorem not_fileBelow (hread : ∀ found, d.readDirectory root ≠ .ok found) : ¬ d.FileBelow root p := by
  intro h
  cases h with
  | here hread' | deeper hread' => exact hread _ hread'

/-- What is below a directory by way of an entry has the name of the entry behind the pieces of the
    directory. -/
theorem WellFormed.pieces_of_belowEntry (hd : d.WellFormed) {x : String × Entry} {t : Int}
    (hroot : d.resolve root = .ok (place, .directory t)) (hx : x ∈ d.entriesIn place)
    (h : d.BelowEntry root x p) :
    ∃ rest, Text.pieces '/' p.text = root.front ++ x.1 :: rest := by
  have hplain := hd.plain_of_mem hx
  have hne := text_ne_of_resolve hroot
  rcases h with ⟨f, -, rfl⟩ | ⟨t', -, hp⟩
  · exact ⟨[], pieces_join_plain hne hplain⟩
  · obtain ⟨names, -, -, hpieces⟩ := hd.exists_pieces hp
    refine ⟨names, ?_⟩
    rw [hpieces, front_join_plain hne hplain, List.append_assoc]
    rfl

/-- The depth that is left suffices at every entry of a directory. -/
theorem WellFormed.depth_le_join (hd : d.WellFormed) {n : Nat} {t : Int}
    (hroot : d.resolve root = .ok (place, .directory t)) (hdepth : d.depth ≤ n + 1 + place.length)
    (hentry : (name, e) ∈ d.entriesIn place) (hlink : ∀ target, e ≠ .link target)
    {place' : Location} {t' : Int}
    (hresolve : d.resolve (root.join ⟨name⟩) = .ok (place', .directory t')) :
    d.depth ≤ n + place'.length := by
  have heq : place' = place ++ [name] :=
    congrArg Prod.fst (hd.resolve_join hroot hentry hlink hresolve)
  rw [heq, List.length_append, List.length_singleton]
  omega

/-- The step of a search at an entry finds no file twice, and exactly what it should below the entry, if the
    search of the entry does. -/
theorem WellFormed.filesAt_spec (hd : d.WellFormed) {extension : String} {n : Nat} {t : Int}
    {part : List Path} (hroot : d.resolve root = .ok (place, .directory t))
    (hentry : (name, e) ∈ d.entriesIn place)
    (hwithin : (∀ target, e ≠ .link target) → ∀ found,
      d.filesWithin extension n (root.join ⟨name⟩) = .ok found → found.Nodup ∧
        ∀ p, p ∈ found ↔ d.FileBelow (root.join ⟨name⟩) p ∧ p.extension? = some extension)
    (h : d.filesAt extension n root (name, e) = .ok part) :
    part.Nodup ∧ ∀ p, p ∈ part ↔ d.BelowEntry root (name, e) p ∧ p.extension? = some extension := by
  cases e with
  | directory t' =>
    obtain ⟨hnodup, hmem⟩ := hwithin (by simp) part h
    exact ⟨hnodup, fun p => by simp [hmem, BelowEntry]⟩
  | closed =>
    obtain ⟨hnodup, hmem⟩ := hwithin (by simp) part h
    have hnone : ∀ p, ¬ d.FileBelow (root.join ⟨name⟩) p := by
      intro p hp
      obtain ⟨place', t', hresolve'⟩ := hp.exists_resolve
      cases hd.resolve_join hroot hentry (by simp) hresolve'
    exact ⟨hnodup, fun p => by simp [hmem, hnone, BelowEntry]⟩
  | file f =>
    have hpart : part =
        if (root.join ⟨name⟩).extension? = some extension then [root.join ⟨name⟩] else [] :=
      (Except.ok.inj h).symm
    have hbelow : ∀ p, d.BelowEntry root (name, .file f) p ↔ p = root.join ⟨name⟩ :=
      fun p => by simp [BelowEntry]
    rw [hpart]
    split
    · next hextension =>
      refine ⟨List.nodup_singleton _, fun p => ?_⟩
      rw [List.mem_singleton, hbelow]
      exact ⟨fun hp => ⟨hp, hp ▸ hextension⟩, And.left⟩
    · next hextension =>
      refine ⟨List.nodup_nil, fun p => ?_⟩
      rw [hbelow]
      exact ⟨fun hp => absurd hp List.not_mem_nil, fun ⟨hp, hother⟩ => absurd (hp ▸ hother) hextension⟩
  | link target =>
    have hpart : part = [] := (Except.ok.inj h).symm
    exact ⟨hpart ▸ List.nodup_nil, fun p => by simp [hpart, BelowEntry]⟩

/-- A search finds no file twice, nothing but the files below the directory that have the extension, and
    all of them. The induction is on the depth that is left; `hdepth` says that it suffices. -/
theorem WellFormed.filesWithin_spec (hd : d.WellFormed) {extension : String} {n : Nat}
    {files : List Path}
    (hdepth : ∀ place t, d.resolve root = .ok (place, .directory t) → d.depth ≤ n + place.length)
    (h : d.filesWithin extension n root = .ok files) :
    files.Nodup ∧ ∀ p, p ∈ files ↔ d.FileBelow root p ∧ p.extension? = some extension := by
  induction n generalizing root files with
  | zero =>
    cases h
    refine ⟨List.nodup_nil, fun p => ?_⟩
    simp only [List.not_mem_nil, false_iff, not_and]
    intro hbelow
    obtain ⟨place, t, hresolve⟩ := hbelow.exists_resolve
    have hlt := hbelow.length_lt_depth hresolve
    have hle := hdepth place t hresolve
    omega
  | succ n ih =>
    rcases filesWithin_succ_eq_ok h with ⟨rfl, hread⟩ | ⟨found, parts, hread, hparts, rfl⟩
    · exact ⟨List.nodup_nil, fun p => by simp [not_fileBelow hread]⟩
    obtain ⟨place, t, hresolve, rfl⟩ := readDirectory_eq_ok.1 hread
    have hpart : ∀ x ∈ d.entriesIn place, ∀ part, d.filesAt extension n root x = .ok part →
        part.Nodup ∧ ∀ p, p ∈ part ↔ d.BelowEntry root x p ∧ p.extension? = some extension :=
      fun x hx part => hd.filesAt_spec hresolve hx fun hlink _ =>
        ih fun place' t' => hd.depth_le_join hresolve (hdepth place t hresolve) hx hlink
    constructor
    · refine nodup_flatten_of_mapM hparts (fun x hx part hx' => (hpart x hx part hx').1) ?_
      refine (hd.entriesIn_nodup place).imp_of_mem fun {x y} hx hy hne part part' hp hp' p hmem hmem' => ?_
      obtain ⟨rest, hpieces⟩ :=
        hd.pieces_of_belowEntry hresolve hx (((hpart x hx part hp).2 p).1 hmem).1
      obtain ⟨rest', hpieces'⟩ :=
        hd.pieces_of_belowEntry hresolve hy (((hpart y hy part' hp').2 p).1 hmem').1
      rw [hpieces] at hpieces'
      exact hne (List.cons.inj (List.append_cancel_left hpieces')).1
    · intro p
      rw [mem_flatten_of_mapM hparts, fileBelow_iff hread]
      constructor
      · rintro ⟨x, hx, part, hx', hp⟩
        obtain ⟨hbelow, hextension⟩ := ((hpart x hx part hx').2 p).1 hp
        exact ⟨⟨x, hx, hbelow⟩, hextension⟩
      · rintro ⟨⟨x, hx, hbelow⟩, hextension⟩
        obtain ⟨part, hx'⟩ := exists_of_mapM_eq_ok hparts hx
        exact ⟨x, hx, part, hx', ((hpart x hx part hx').2 p).2 ⟨hbelow, hextension⟩⟩

/-- A search of a readable directory ends well. -/
theorem Readable.exists_filesWithin (h : d.Readable root) (extension : String) (n : Nat) :
    ∃ files, d.filesWithin extension n root = .ok files := by
  induction n generalizing root with
  | zero => exact ⟨[], rfl⟩
  | succ n ih =>
    cases h with | @intro _ found hread hfiles hopen hbelow => ?_
    have hparts : ∀ x ∈ found, ∃ part, d.filesAt extension n root x = .ok part := by
      rintro ⟨name, e⟩ hx
      cases e with
      | file f => exact ⟨_, rfl⟩
      | link target => exact ⟨_, rfl⟩
      | directory t => exact ih (hbelow name t hx)
      | closed => exact absurd hx (hopen name)
    obtain ⟨parts, hparts⟩ := exists_mapM_eq_ok hparts
    refine ⟨parts.flatten, ?_⟩
    rw [filesWithin_succ, hread]
    exact bind_eq_ok.2 ⟨parts, hparts, rfl⟩

/-! ## The files with an extension -/

theorem insertPath_perm (p : Path) (ps : List Path) : (insertPath p ps).Perm (p :: ps) := by
  induction ps with
  | nil => exact .refl _
  | cons q rest ih =>
    rw [insertPath]
    split
    · exact (ih.cons q).trans (.swap p q rest)
    · exact .refl _

theorem sortPaths_perm (ps : List Path) : (sortPaths ps).Perm ps := by
  induction ps with
  | nil => exact .refl _
  | cons p rest ih => exact (insertPath_perm p _).trans (ih.cons p)

/-- The files found by extension are those that lie below the directory. -/
theorem WellFormed.filesWithExtension_spec (hd : d.WellFormed) {extension : String} {files : List Path}
    (h : d.filesWithExtension root extension = .ok files) :
    files.Nodup ∧ ∀ p, p ∈ files ↔
      d.FileBelow root p ∧ p.extension? = some (Text.dropLeading '.' extension) := by
  unfold filesWithExtension at h
  split at h
  · cases hwithin : d.filesWithin (Text.dropLeading '.' extension) d.depth root with
    | error e =>
      rw [hwithin] at h
      cases h
    | ok found =>
      rw [hwithin] at h
      cases h
      have hdepth : ∀ place t, d.resolve root = .ok (place, .directory t) →
          d.depth ≤ d.depth + place.length := fun _ _ _ => Nat.le_add_right _ _
      obtain ⟨hnodup, hmem⟩ := hd.filesWithin_spec hdepth hwithin
      exact ⟨(sortPaths_perm found).nodup_iff.2 hnodup,
        fun p => (sortPaths_perm found).mem_iff.trans (hmem p)⟩
  · next hdirectory =>
    cases h
    refine ⟨List.nodup_nil, fun p => ⟨fun hp => absurd hp List.not_mem_nil, ?_⟩⟩
    rintro ⟨hbelow, -⟩
    obtain ⟨place, t, hresolve⟩ := hbelow.exists_resolve
    rw [isDirectory, hresolve] at hdirectory
    exact absurd rfl hdirectory

theorem exists_filesWithExtension (h : d.isDirectory root = true → d.Readable root)
    (extension : String) : ∃ files, d.filesWithExtension root extension = .ok files := by
  unfold filesWithExtension
  split
  · next hdirectory =>
    obtain ⟨found, hfound⟩ := (h hdirectory).exists_filesWithin (Text.dropLeading '.' extension) d.depth
    exact ⟨sortPaths found, by rw [hfound]; rfl⟩
  · exact ⟨[], rfl⟩

end Disk
end Buildwright
