-- SUMMARY: Following paths: the way of a walk that ends well, how walks go on, and walks on a disk that has grown.
import Buildwright.Disk.Write
import Buildwright.Proofs.Path

/-!
# Walks

A walk ends well if there is a way for it, name by name and link by link: `walk_eq_ok` says so, and what
holds of such walks is shown by induction on the way. A walk to a directory can be continued: the rest of
the names is followed from there, with some of the links already spent. On a disk that keeps all entries, up
to the contents of files and the times, a walk ends where it did. Along directories a walk meets no link, so
that it goes straight to its last name.
-/
namespace Buildwright

/-! ## Disks that have grown -/

/-- Entries that a walk cannot tell apart. -/
inductive Entry.Alike : Entry → Entry → Prop where
  | file (f f' : File) : Alike (.file f) (.file f')
  | directory (t t' : Int) : Alike (.directory t) (.directory t')
  | link (target : Path) : Alike (.link target) (.link target)
  | closed : Alike .closed .closed

theorem Entry.Alike.refl (e : Entry) : e.Alike e := by
  cases e <;> constructor

theorem Entry.Alike.trans {e e' e'' : Entry} (h : e.Alike e') (h' : e'.Alike e'') : e.Alike e'' := by
  cases h <;> cases h' <;> constructor

/-- An entry without the time of a directory. -/
def Entry.untimed : Entry → Entry
  | .directory _ => .directory 0
  | e => e

theorem Entry.alike_of_untimed {e e' : Entry} (h : e'.untimed = e.untimed) : e.Alike e' := by
  cases e <;> cases e' <;> cases h <;> constructor

/-- Only directories have a time that does not count. -/
theorem Entry.eq_of_untimed {e e' : Entry} (he : ∀ t, e ≠ .directory t) (h : e'.untimed = e.untimed) :
    e' = e := by
  cases e with
  | directory t => exact absurd rfl (he t)
  | file | link | closed =>
    cases e' <;> cases h
    rfl

namespace Disk

/-- The disk `d'` has all entries of `d`, up to the contents of files and the times. -/
structure Extends (d d' : Disk) : Prop where
  workingDirectory : d'.workingDirectory = d.workingDirectory
  find? : ∀ {place e}, d.find? place = some e → ∃ e', d'.find? place = some e' ∧ e.Alike e'

variable {d d' d'' : Disk} {place here : Location} {follow : Bool}

theorem Extends.refl (d : Disk) : d.Extends d :=
  ⟨rfl, fun {_ e} h => ⟨e, h, .refl e⟩⟩

theorem Extends.trans (h : d.Extends d') (h' : d'.Extends d'') : d.Extends d'' where
  workingDirectory := h'.workingDirectory.trans h.workingDirectory
  find? hplace := by
    obtain ⟨e', he', halike⟩ := h.find? hplace
    obtain ⟨e'', he'', halike'⟩ := h'.find? he'
    exact ⟨e'', he'', halike.trans halike'⟩

/-- An entry that is put at a free place, or at that of an entry like it, extends a disk. -/
theorem extends_put {e : Entry} (hplace : place ≠ [])
    (h : ∀ old, d.find? place = some old → old.Alike e) : d.Extends (d.put place e) where
  workingDirectory := rfl
  find? {place' old} hold := by
    rw [find?_put d hplace]
    by_cases heq : place' = place
    · rw [if_pos heq]
      exact ⟨e, rfl, h old (heq ▸ hold)⟩
    · rw [if_neg heq]
      exact ⟨old, hold, .refl old⟩

/-! ## Strides -/

/-- What becomes of a walk at one name. -/
inductive Stride where
  /-- It goes on in a directory. -/
  | on (there : Location)
  /-- It ends there if no name follows, and fails otherwise. -/
  | last (found : Place) (e : OsError)
  | tooLong
  /-- It comes upon a link. -/
  | link (there : Location) (target : Path)

/-- What becomes of a walk in a directory at a name. -/
def stride (d : Disk) (here : Location) (name : String) : Stride :=
  if name = "." then .on here
  else if name = ".." then .on here.dropLast
  else if longestName < name.utf8ByteSize then .tooLong
  else
    match d.find? (here ++ [name]) with
    | none => .last (.absent here name) .notFound
    | some (.directory _) => .on (here ++ [name])
    | some .closed => .last (.present (here ++ [name]) .closed) .permissionDenied
    | some (.file f) => .last (.present (here ++ [name]) (.file f)) .notADirectory
    | some (.link target) => .link (here ++ [name]) target

/-- A walk is a stride at its first name, and what follows. -/
theorem walkWith_cons {onLink : Location → List String → Except OsError Place} {name : String}
    {rest : List String} :
    walkWith d follow onLink here (name :: rest) =
      match d.stride here name with
      | .on there => walkWith d follow onLink there rest
      | .last found e => if rest = [] then .ok found else .error e
      | .tooLong => .error .nameTooLong
      | .link there target =>
        if rest = [] ∧ follow = false then .ok (.present there (.link target))
        else onLink (start here target) (steps target ++ rest) := by
  rw [walkWith, stride]
  by_cases hcurrent : name = "."
  · simp only [if_pos hcurrent]
  by_cases hparent : name = ".."
  · simp only [if_neg hcurrent, if_pos hparent]
  by_cases hlong : longestName < name.utf8ByteSize
  · simp only [if_neg hcurrent, if_neg hparent, if_pos hlong]
  simp only [if_neg hcurrent, if_neg hparent, if_neg hlong]
  cases d.find? (here ++ [name]) with
  | none => rfl
  | some e => cases e <;> rfl

/-- A name that stands for an entry of its own. -/
def IsName (name : String) : Prop :=
  name ≠ "." ∧ name ≠ ".." ∧ name.utf8ByteSize ≤ longestName

section Stride

variable {name : String}

theorem stride_of_isName (h : IsName name) :
    d.stride here name =
      match d.find? (here ++ [name]) with
      | none => .last (.absent here name) .notFound
      | some (.directory _) => .on (here ++ [name])
      | some .closed => .last (.present (here ++ [name]) .closed) .permissionDenied
      | some (.file f) => .last (.present (here ++ [name]) (.file f)) .notADirectory
      | some (.link target) => .link (here ++ [name]) target := by
  rw [stride, if_neg h.1, if_neg h.2.1, if_neg (Nat.not_lt.2 h.2.2)]

/-- What becomes of a walk at any other text does not depend on the disk. -/
theorem stride_of_not_isName (h : ¬ IsName name) :
    (∃ there, ∀ d : Disk, d.stride here name = .on there) ∨
      ∀ d : Disk, d.stride here name = .tooLong := by
  unfold stride
  by_cases hcurrent : name = "."
  · exact .inl ⟨here, fun _ => if_pos hcurrent⟩
  by_cases hparent : name = ".."
  · exact .inl ⟨here.dropLast, fun _ => by rw [if_neg hcurrent, if_pos hparent]⟩
  have hlong : longestName < name.utf8ByteSize :=
    Nat.lt_of_not_le fun hle => h ⟨hcurrent, hparent, hle⟩
  exact .inr fun _ => by rw [if_neg hcurrent, if_neg hparent, if_pos hlong]

/-- Only at a name a walk ends or comes upon a link. -/
theorem isName_of_stride (hon : ∀ there, d.stride here name ≠ .on there)
    (hlong : d.stride here name ≠ .tooLong) : IsName name := by
  by_contra hname
  rcases stride_of_not_isName hname with ⟨there, hstride⟩ | hstride
  · exact hon there (hstride d)
  · exact hlong (hstride d)

/-- A name that is not too long is no hindrance. -/
theorem utf8ByteSize_le_of_stride (h : d.stride here name ≠ .tooLong) :
    name.utf8ByteSize ≤ longestName := by
  by_contra hlong
  apply h
  have hcurrent : name ≠ "." := by
    rintro rfl
    exact hlong (by decide)
  have hparent : name ≠ ".." := by
    rintro rfl
    exact hlong (by decide)
  rw [stride, if_neg hcurrent, if_neg hparent, if_pos (Nat.lt_of_not_le hlong)]

/-- A walk comes upon a link where it lies. -/
theorem stride_eq_link {there : Location} {target : Path} (h : d.stride here name = .link there target) :
    IsName name ∧ there = here ++ [name] ∧ d.find? there = some (.link target) := by
  have hname : IsName name :=
    isName_of_stride (fun _ => ne_of_eq_of_ne h (by simp)) (ne_of_eq_of_ne h (by simp))
  rw [stride_of_isName hname] at h
  split at h
  all_goals cases h
  exact ⟨hname, rfl, by assumption⟩

/-- A walk ends at a free name, or at an entry that is neither a directory nor a link. -/
theorem stride_eq_last {found : Place} {e : OsError} (h : d.stride here name = .last found e) :
    IsName name ∧ (found = .absent here name ∨
      ∃ entry, found = .present (here ++ [name]) entry ∧ d.find? (here ++ [name]) = some entry ∧
        (∀ t, entry ≠ .directory t) ∧ ∀ target, entry ≠ .link target) := by
  have hname : IsName name :=
    isName_of_stride (fun _ => ne_of_eq_of_ne h (by simp)) (ne_of_eq_of_ne h (by simp))
  refine ⟨hname, ?_⟩
  rw [stride_of_isName hname] at h
  split at h
  case h_1 =>
    cases h
    exact .inl rfl
  case h_3 | h_4 =>
    cases h
    exact .inr ⟨_, rfl, by assumption, by simp, by simp⟩
  all_goals cases h

/-- What ends a walk before its names do is an entry of the disk, and neither a directory nor a link. -/
theorem find?_of_stride {there : Location} {entry : Entry} {e : OsError}
    (h : d.stride here name = .last (.present there entry) e) :
    d.find? there = some entry ∧ (∀ t, entry ≠ .directory t) ∧ ∀ target, entry ≠ .link target := by
  obtain ⟨-, hfound | ⟨entry', hfound, hentry⟩⟩ := stride_eq_last h
  · cases hfound
  · cases hfound
    exact hentry

theorem stride_dot : d.stride here "." = .on here :=
  if_pos rfl

/-- On a disk that has grown, a stride is what it was, unless its name was free or is that of a file. -/
theorem stride_extends (hd : d.Extends d') (here : Location) (name : String) :
    d'.stride here name = d.stride here name ∨
      (d.stride here name = .last (.absent here name) .notFound) ∨
      ∃ f f', d.stride here name = .last (.present (here ++ [name]) (.file f)) .notADirectory ∧
        d'.stride here name = .last (.present (here ++ [name]) (.file f')) .notADirectory := by
  by_cases hname : IsName name
  · rw [stride_of_isName hname, stride_of_isName hname]
    cases hentry : d.find? (here ++ [name]) with
    | none => exact .inr (.inl rfl)
    | some e =>
      obtain ⟨e', he', halike⟩ := hd.find? hentry
      rw [he']
      cases halike with
      | file f f' => exact .inr (.inr ⟨f, f', rfl, rfl⟩)
      | directory | link | closed => exact .inl rfl
  · left
    rcases stride_of_not_isName hname with ⟨there, hstride⟩ | hstride
    all_goals rw [hstride d, hstride d']

/-- A stride that does not end a walk is the same on a disk that has grown. -/
theorem stride_eq_of_extends (hd : d.Extends d') (h : ∀ found e, d.stride here name ≠ .last found e) :
    d'.stride here name = d.stride here name := by
  rcases stride_extends hd here name with heq | hfree | ⟨f, -, hf, -⟩
  · exact heq
  · exact absurd hfree (h _ _)
  · exact absurd hf (h _ _)

end Stride

/-! ## Walks that end well -/

/-- A walk from a directory along names ends well, through at most the given number of links. -/
inductive Walks (d : Disk) (follow : Bool) (found : Place) : Nat → Location → List String → Prop where
  | done {n : Nat} {here : Location}
      (hfound : .present here ((d.find? here).getD (.directory d.now)) = found) :
      Walks d follow found n here []
  | on {n : Nat} {here there : Location} {name : String} {rest : List String}
      (hstride : d.stride here name = .on there) (hrest : Walks d follow found n there rest) :
      Walks d follow found n here (name :: rest)
  | last {n : Nat} {here : Location} {name : String} {e : OsError}
      (hstride : d.stride here name = .last found e) : Walks d follow found n here [name]
  /-- It ends at a link that it is not to follow. -/
  | stop {n : Nat} {here there : Location} {name : String} {target : Path}
      (hstride : d.stride here name = .link there target) (hfollow : follow = false)
      (hfound : .present there (.link target) = found) : Walks d follow found n here [name]
  | link {n : Nat} {here there : Location} {name : String} {rest : List String} {target : Path}
      (hstride : d.stride here name = .link there target) (hgoes : ¬ (rest = [] ∧ follow = false))
      (hrest : Walks d follow found n (start here target) (steps target ++ rest)) :
      Walks d follow found (n + 1) here (name :: rest)

section Walks

variable {n : Nat} {names : List String} {found : Place}

theorem walk_nil : walk d follow n here [] = .ok (.present here ((d.find? here).getD (.directory d.now))) := by
  cases n <;> rfl

theorem walk_cons {name : String} {rest : List String} :
    walk d follow n here (name :: rest) =
      match d.stride here name with
      | .on there => walk d follow n there rest
      | .last found e => if rest = [] then .ok found else .error e
      | .tooLong => .error .nameTooLong
      | .link there target =>
        if rest = [] ∧ follow = false then .ok (.present there (.link target))
        else
          match n with
          | 0 => .error .tooManyLinks
          | n + 1 => walk d follow n (start here target) (steps target ++ rest) := by
  cases n with
  | zero => exact walkWith_cons
  | succ n => exact walkWith_cons

theorem walks_of_walk (h : walk d follow n here names = .ok found) : Walks d follow found n here names := by
  induction n using Nat.strongRecOn generalizing here names with
  | ind n ihn =>
    induction names generalizing here with
    | nil =>
      rw [walk_nil] at h
      exact .done (Except.ok.inj h)
    | cons name rest ih =>
      rw [walk_cons] at h
      cases hstride : d.stride here name with
      | on there =>
        rw [hstride] at h
        exact .on hstride (ih h)
      | last found' e =>
        simp only [hstride] at h
        split at h
        · next hnil =>
          cases h
          subst hnil
          exact .last hstride
        · cases h
      | tooLong =>
        rw [hstride] at h
        cases h
      | link there target =>
        simp only [hstride] at h
        split at h
        · next hlast =>
          obtain ⟨rfl, hfollow⟩ := hlast
          exact .stop hstride hfollow (Except.ok.inj h)
        · next hgoes =>
          cases n with
          | zero => cases h
          | succ n => exact .link hstride hgoes (ihn n (Nat.lt_succ_self n) h)

/-- A walk ends well exactly if there is a way for it. -/
theorem walk_eq_ok : walk d follow n here names = .ok found ↔ Walks d follow found n here names := by
  refine ⟨walks_of_walk, fun h => ?_⟩
  induction h with
  | done hfound => rw [walk_nil, hfound]
  | on hstride _ ih =>
    rw [walk_cons, hstride]
    exact ih
  | last hstride =>
    rw [walk_cons, hstride]
    exact if_pos rfl
  | stop hstride hfollow hfound =>
    rw [walk_cons, hstride, ← hfound]
    exact if_pos ⟨rfl, hfollow⟩
  | link hstride hgoes _ ih =>
    simp only [walk_cons, hstride]
    rw [if_neg hgoes]
    exact ih

/-- A walk to an entry leads to the same place on a disk that has grown. -/
theorem walk_extends (hd : d.Extends d') {e : Entry}
    (h : walk d follow n here names = .ok (.present place e)) :
    ∃ e', walk d' follow n here names = .ok (.present place e') := by
  simp only [walk_eq_ok] at h ⊢
  induction h with
  | done hfound =>
    cases hfound
    exact ⟨_, .done rfl⟩
  | on hstride _ ih =>
    obtain ⟨e', hrest⟩ := ih
    exact ⟨e', .on ((stride_eq_of_extends hd (by simp [hstride])).trans hstride) hrest⟩
  | last hstride =>
    rcases stride_extends hd _ _ with heq | hfree | ⟨f, f', hf, hf'⟩
    · exact ⟨e, .last (heq.trans hstride)⟩
    · cases hstride.symm.trans hfree
    · cases hstride.symm.trans hf
      exact ⟨_, .last hf'⟩
  | stop hstride hfollow hfound =>
    exact ⟨e, .stop ((stride_eq_of_extends hd (by simp [hstride])).trans hstride) hfollow hfound⟩
  | link hstride hgoes _ ih =>
    obtain ⟨e', hrest⟩ := ih
    exact ⟨e', .link ((stride_eq_of_extends hd (by simp [hstride])).trans hstride) hgoes hrest⟩

/-- A walk that leads to an entry shows what lies there, or a directory where nothing does. -/
theorem walk_present {e : Entry} (h : walk d follow n here names = .ok (.present place e)) :
    (d.find? place).getD (.directory d.now) = e := by
  rw [walk_eq_ok] at h
  induction h with
  | done hfound =>
    cases hfound
    rfl
  | on _ _ ih => exact ih
  | last hstride => rw [(find?_of_stride hstride).1, Option.getD_some]
  | stop hstride _ hfound =>
    cases hfound
    rw [(stride_eq_link hstride).2.2, Option.getD_some]
  | link _ _ _ ih => exact ih

/-- A walk that ends well has no name that is too long. -/
theorem walk_utf8ByteSize_le (h : walk d follow n here names = .ok found) :
    ∀ name ∈ names, name.utf8ByteSize ≤ longestName := by
  rw [walk_eq_ok] at h
  induction h with
  | done => exact fun _ hname => absurd hname List.not_mem_nil
  | on hstride _ ih =>
    exact List.forall_mem_cons.2 ⟨utf8ByteSize_le_of_stride (ne_of_eq_of_ne hstride (by simp)), ih⟩
  | last hstride => simpa using (stride_eq_last hstride).1.2.2
  | stop hstride => simpa using (stride_eq_link hstride).1.2.2
  | link hstride _ _ ih =>
    refine List.forall_mem_cons.2 ⟨(stride_eq_link hstride).1.2.2, ?_⟩
    exact fun other hother => ih other (List.mem_append_right _ hother)

end Walks

/-! ## Walks that go on -/

/-- What may follow the names of a path in its steps. -/
theorem steps_eq (p : Path) :
    ∃ final, steps p = names p ++ final ∧ (final = [] ∨ final = ["."]) := by
  unfold steps
  split
  · exact ⟨["."], rfl, .inr rfl⟩
  · exact ⟨[], (List.append_nil _).symm, .inl rfl⟩

/-- A walk to a directory goes on from there, with the links that are left. The induction is on the way to the
    directory, which may end in a step that goes nowhere. -/
theorem walk_append {final : List String} (hfinal : final = [] ∨ final = ["."]) {n : Nat}
    {names : List String} {t : Int}
    (h : walk d true n here (names ++ final) = .ok (.present place (.directory t))) :
    ∃ left, ∀ rest, rest ≠ [] → walk d follow n here (names ++ rest) = walk d follow left place rest := by
  generalize hall : names ++ final = all at h
  rw [walk_eq_ok] at h
  induction h generalizing names with
  | done hfound =>
    obtain ⟨rfl, -⟩ := Place.present.inj hfound
    obtain ⟨rfl, -⟩ := List.append_eq_nil_iff.1 hall
    exact ⟨_, fun rest _ => rfl⟩
  | on hstride hrest ih =>
    cases names with
    | nil =>
      rcases hfinal with rfl | rfl
      · cases hall
      · cases hall
        cases stride_dot.symm.trans hstride
        cases hrest with
        | done hfound =>
          obtain ⟨rfl, -⟩ := Place.present.inj hfound
          exact ⟨_, fun rest _ => rfl⟩
    | cons name others =>
      cases hall
      obtain ⟨left, hgoesOn⟩ := ih rfl
      refine ⟨left, fun rest hrest => ?_⟩
      rw [List.cons_append, walk_cons, hstride]
      exact hgoesOn rest hrest
  | last hstride => exact absurd rfl ((find?_of_stride hstride).2.1 t)
  | stop _ hfollow => cases hfollow
  | link hstride _ _ ih =>
    cases names with
    | nil =>
      rcases hfinal with rfl | rfl
      · cases hall
      · cases hall
        cases stride_dot.symm.trans hstride
    | cons name others =>
      cases hall
      obtain ⟨left, hgoesOn⟩ := ih (List.append_assoc _ _ _)
      refine ⟨left, fun rest hrest => ?_⟩
      simp only [List.cons_append, walk_cons, hstride]
      rw [if_neg (by simp [hrest]), ← List.append_assoc]
      exact hgoesOn rest hrest

/-! ## Walks along directories -/

/-- From `here`, every one of the names leads to a directory. -/
def DirectoriesAlong (d : Disk) : Location → List String → Prop
  | _, [] => True
  | here, name :: rest =>
    (∃ t, d.find? (here ++ [name]) = some (.directory t)) ∧ DirectoriesAlong d (here ++ [name]) rest

section Along

variable {names rest : List String} {n : Nat}

theorem directoriesAlong_concat {name : String} :
    d.DirectoriesAlong here (names ++ [name]) ↔
      d.DirectoriesAlong here names ∧
        ∃ t, d.find? (here ++ (names ++ [name])) = some (.directory t) := by
  induction names generalizing here with
  | nil => simp [DirectoriesAlong]
  | cons first others ih =>
    rw [List.cons_append, DirectoriesAlong, DirectoriesAlong, ih, and_assoc, List.append_assoc]
    rfl

theorem DirectoriesAlong.extends (h : d.DirectoriesAlong here names) (hd : d.Extends d') :
    d'.DirectoriesAlong here names := by
  induction names generalizing here with
  | nil => trivial
  | cons name rest ih =>
    obtain ⟨⟨t, ht⟩, hrest⟩ := h
    obtain ⟨e, he, halike⟩ := hd.find? ht
    cases halike with
    | directory _ t' => exact ⟨⟨t', he⟩, ih hrest⟩

theorem walk_directory {name : String} (h : IsName name) {t : Int}
    (hentry : d.find? (here ++ [name]) = some (.directory t)) :
    walk d follow n here (name :: rest) =
      walk d follow n (here ++ [name]) rest := by
  rw [walk_cons, stride_of_isName h, hentry]

theorem walk_free {name : String} (h : IsName name) (hentry : d.find? (here ++ [name]) = none) :
    walk d follow n here (name :: rest) =
      if rest = [] then .ok (.absent here name) else .error .notFound := by
  rw [walk_cons, stride_of_isName h, hentry]

theorem walk_file {name : String} (h : IsName name) {f : File}
    (hentry : d.find? (here ++ [name]) = some (.file f)) :
    walk d follow n here (name :: rest) =
      if rest = [] then .ok (.present (here ++ [name]) (.file f)) else .error .notADirectory := by
  rw [walk_cons, stride_of_isName h, hentry]

/-- A walk goes through the directories along its first names to those that follow. -/
theorem walk_along (h : d.DirectoriesAlong here names) (hnames : ∀ name ∈ names, IsName name) :
    walk d follow n here (names ++ rest) =
      walk d follow n (here ++ names) rest := by
  induction names generalizing here with
  | nil => rw [List.nil_append, List.append_nil]
  | cons name others ih =>
    obtain ⟨⟨t, ht⟩, hothers⟩ := h
    rw [List.cons_append, walk_directory (hnames name List.mem_cons_self) ht,
      ih hothers fun other hother => hnames other (List.mem_cons_of_mem name hother),
      List.append_assoc, List.singleton_append]

/-- Where the directories along its first names are missing, a walk ends with a report. -/
theorem walk_not_along (h : ¬ d.DirectoriesAlong here names)
    (hnames : ∀ name ∈ names, IsName name) (hrest : rest ≠ [])
    (honly : ∀ before, before <+: names → before ≠ [] → ∀ e, d.find? (here ++ before) = some e →
      ∃ t, e = .directory t) :
    walk d follow n here (names ++ rest) = .error .notFound := by
  induction names generalizing here with
  | nil => exact absurd trivial h
  | cons name others ih =>
    have hname := hnames name List.mem_cons_self
    rw [List.cons_append]
    cases hentry : d.find? (here ++ [name]) with
    | none => rw [walk_free hname hentry, if_neg (by simp [hrest])]
    | some e =>
      obtain ⟨t, rfl⟩ := honly [name] (List.cons_prefix_cons.2 ⟨rfl, List.nil_prefix⟩)
        (List.cons_ne_nil name []) e hentry
      rw [walk_directory hname hentry]
      apply ih
      · exact fun hothers => h ⟨⟨t, hentry⟩, hothers⟩
      · exact fun other hother => hnames other (List.mem_cons_of_mem name hother)
      · intro before hbefore hne e he
        rw [List.append_assoc] at he
        exact honly (name :: before) (List.cons_prefix_cons.2 ⟨rfl, hbefore⟩)
          (List.cons_ne_nil name before) e he

end Along

/-! ## Paths -/

/-- A path whose length and names are not too long. -/
def Fits (p : Path) : Prop :=
  p.text.utf8ByteSize ≤ longestPath ∧ ∀ name ∈ names p, name.utf8ByteSize ≤ longestName

instance (p : Path) : Decidable (Fits p) :=
  inferInstanceAs (Decidable (_ ∧ _))

theorem checkLength_eq_ok {p : Path} :
    checkLength p = .ok () ↔ p.text ≠ "" ∧ p.text.utf8ByteSize ≤ longestPath := by
  unfold checkLength
  split
  · next h => simp [h]
  · next h =>
    split
    · next hlong => simp [Nat.not_le.2 hlong]
    · next hlong => simp [h, Nat.le_of_not_lt hlong]

theorem locate_eq_ok {p : Path} {found : Place} :
    d.locate p follow = .ok found ↔
      (p.text ≠ "" ∧ p.text.utf8ByteSize ≤ longestPath) ∧
        walk d follow mostLinks (start d.workingDirectory p) (steps p) = .ok found := by
  rw [← checkLength_eq_ok, locate]
  cases checkLength p with
  | ok u => simp [bind, Except.bind]
  | error e => simp [bind, Except.bind]

theorem locateName_eq_ok {p : Path} {found : Place} :
    d.locateName p = .ok found ↔
      (p.text ≠ "" ∧ p.text.utf8ByteSize ≤ longestPath) ∧
        walk d false mostLinks (start d.workingDirectory p) (names p) = .ok found := by
  rw [← checkLength_eq_ok, locateName]
  cases checkLength p with
  | ok u => simp [bind, Except.bind]
  | error e => simp [bind, Except.bind]

theorem resolve_eq_ok {p : Path} {e : Entry} :
    d.resolve p = .ok (place, e) ↔ d.locate p true = .ok (.present place e) := by
  unfold resolve
  cases d.locate p true with
  | ok found => cases found <;> simp
  | error e => simp

section LeadsOn

variable {root p : Path} {ahead : List String}

/-- A path that leads on goes through the names of its root first. -/
theorem names_of_leadsOn (h : Path.LeadsOn root ahead p) : names p = names root ++ ahead := by
  obtain ⟨-, pieces, last, hp, hahead, -⟩ := h
  have hroot : names root = root.front.filter (· != "") := by
    unfold names
    rcases root.pieces_eq_front with heq | heq <;> simp [heq]
  rw [hroot, names, hp, List.filter_append, hahead]

theorem steps_of_leadsOn (h : Path.LeadsOn root ahead p) : steps p = names p := by
  rw [steps, h.endsWith_eq_false, Bool.and_false]
  rfl

theorem isName_of_leadsOn (h : Path.LeadsOn root ahead p) (hfits : Fits p) :
    ∀ name ∈ ahead, IsName name := by
  intro name hname
  have hidle : ¬ (name = "" ∨ name = ".") := by simpa [Path.idle] using (h.1 name hname).1
  have hmem : name ∈ names p := by
    rw [names_of_leadsOn h]
    exact List.mem_append_right _ hname
  exact ⟨fun heq => hidle (.inr heq), (h.1 name hname).2, hfits.2 name hmem⟩

end LeadsOn

/-! ## Files that are to be written -/

theorem linksTaken_le (d : Disk) (n : Nat) (here : Location) (names : List String) :
    d.linksTaken n here names ≤ n := by
  unfold linksTaken
  cases hfound : (List.range n).find? fun k =>
      (walk d false k here names).toOption = (walk d false n here names).toOption with
  | none => exact Nat.le_refl n
  | some k => exact Nat.le_of_lt (List.mem_range.1 (List.mem_of_find?_eq_some hfound))

/-- With the links that it takes, a walk ends as it does. -/
theorem walk_linksTaken {n : Nat} {names : List String} {found : Place}
    (h : walk d false n here names = .ok found) :
    walk d false (d.linksTaken n here names) here names = .ok found := by
  unfold linksTaken
  cases hfound : (List.range n).find? fun k =>
      (walk d false k here names).toOption = (walk d false n here names).toOption with
  | none => exact h
  | some k =>
    have hk := List.find?_some hfound
    rw [h] at hk
    cases hwalk : walk d false k here names with
    | error e => simp [hwalk, Except.toOption] at hk
    | ok found' => simpa [hwalk, Except.toOption] using hk

/-- The file that is to be written lies where a walk ends, unless this is at a link. Behind a link the search
    goes on with the links that are left. -/
theorem fileToWrite_eq_ok {n left : Nat} {directory : Location} {p : Path} {found : Place}
    (h : d.fileToWrite (n + 1) left directory p = .ok found) :
    Text.endsWith "/" p.text = false ∧
      ∃ found', walk d false left (start directory p) (names p) = .ok found' ∧
        (found' = found ∨ ∃ place target left', found' = .present place (.link target) ∧
          left = d.linksTaken left (start directory p) (names p) + (left' + 1) ∧
          d.fileToWrite n left' place.dropLast target = .ok found) := by
  simp only [fileToWrite] at h
  split at h
  · split at h <;> cases h
  next hslash =>
  refine ⟨by simpa using hslash, ?_⟩
  cases hwalk : walk d false left (start directory p) (names p) with
  | error e =>
    rw [hwalk] at h
    cases h
  | ok found' =>
    rw [hwalk] at h
    refine ⟨found', rfl, ?_⟩
    split at h
    · next place target heq =>
      cases heq
      split at h
      · cases h
      · next left' hleft =>
        have hle := d.linksTaken_le left (start directory p) (names p)
        exact .inr ⟨place, target, left', rfl, by omega, h⟩
    · cases h
      exact .inl rfl

/-- A path that does not end in a slash is written to where its names lead, unless that is a link. -/
theorem fileToWrite_of_walk {left : Nat} {directory : Location} {p : Path} {found : Place}
    (hslash : Text.endsWith "/" p.text = false)
    (hwalk : walk d false left (start directory p) (names p) = .ok found)
    (hfound : ∀ place target, found ≠ .present place (.link target)) (n : Nat) :
    d.fileToWrite (n + 1) left directory p = .ok found := by
  simp only [fileToWrite, hslash, hwalk]
  rw [if_neg Bool.false_ne_true]
  split
  · next place target heq => exact absurd (Except.ok.inj heq) (hfound place target)
  · rfl

theorem placeToWrite_eq_ok {p : Path} {found : Place} :
    d.placeToWrite p = .ok found ↔ checkLength p = .ok () ∧
      d.fileToWrite (mostLinks + 1) mostLinks d.workingDirectory p = .ok found := by
  unfold placeToWrite
  cases hlength : checkLength p with
  | ok u => simp [bind, Except.bind]
  | error e => simp [bind, Except.bind]

/-! ## Single changes -/

/-- A directory is created at a free name. -/
theorem createDirectory_eq_ok {p : Path} :
    d.createDirectory p = .ok d' ↔ ∃ directory name,
      d.locateName p = .ok (.absent directory name) ∧ d' = d.addIn directory name (.directory d.now) := by
  unfold createDirectory
  constructor
  · intro h
    split at h
    · cases h
    · next directory name hlocate => exact ⟨directory, name, hlocate, (Except.ok.inj h).symm⟩
    · cases h
  · rintro ⟨directory, name, hlocate, rfl⟩
    rw [hlocate]

/-- A file is written over one that is there, or at a free name. -/
theorem write_eq_ok {p : Path} {content : Bytes} :
    d.write p content = .ok d' ↔
      (∃ here f, d.placeToWrite p = .ok (.present here (.file f)) ∧
        d' = d.put here (.file { f with content, modified := d.now })) ∨
      ∃ directory name, d.placeToWrite p = .ok (.absent directory name) ∧
        d' = d.addIn directory name (.file ⟨content, d.now, false⟩) := by
  unfold write
  constructor
  · intro h
    split at h
    · next here f hfound => exact .inl ⟨here, f, hfound, (Except.ok.inj h).symm⟩
    · cases h
    · next directory name hfound => exact .inr ⟨directory, name, hfound, (Except.ok.inj h).symm⟩
    · cases h
  · rintro (⟨here, f, hfound, rfl⟩ | ⟨directory, name, hfound, rfl⟩)
    · rw [hfound]
    · rw [hfound]

/-- What is written to has been found, and is no directory. -/
theorem exists_placeToWrite {p : Path} {content : Bytes} (h : d.write p content = .ok d') :
    ∃ found, d.placeToWrite p = .ok found ∧ ∀ place t, found ≠ .present place (.directory t) := by
  rcases write_eq_ok.1 h with ⟨here, f, hfound, -⟩ | ⟨directory, name, hfound, -⟩
  · exact ⟨_, hfound, by simp⟩
  · exact ⟨_, hfound, by simp⟩

end Disk
end Buildwright
