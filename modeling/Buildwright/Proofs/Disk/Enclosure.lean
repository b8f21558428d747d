-- SUMMARY: Work in a directory without links: every change lies below it, and nothing is left of it once the directory is removed.
import Buildwright.Proofs.Disk.Below

/-!
# Enclosures

In a directory without links, a path that leads on from the directory leads to a place below it. Directories
that are created and files that are written under such paths therefore leave everything else as it was. A
temporary directory is an enclosure at first, since nothing lies below a free name of a rooted disk. Once it
is removed, the disk is the one before, up to the times of directories.
-/
namespace Buildwright

namespace Path

variable {root p q : Path} {names ahead : List String}

theorem LeadsOn.front_eq (h : LeadsOn root names p) : p.front = Text.pieces '/' p.text := by
  rw [front, h.endsWith_eq_false]
  rfl

/-- What leads on from a path that leads on from a root leads on from the root. -/
theorem LeadsOn.trans (h : LeadsOn root names p) (h' : LeadsOn p ahead q) :
    LeadsOn root (names ++ ahead) q := by
  have hfront := h.front_eq
  obtain ⟨hnames, pieces, last, hp, hfilter, hlast⟩ := h
  obtain ⟨hahead, pieces', last', hq, hfilter', hlast'⟩ := h'
  refine ⟨fun name hname => ?_, pieces ++ [last] ++ pieces', last', ?_, ?_, hlast'⟩
  · rcases List.mem_append.1 hname with hname | hname
    · exact hnames name hname
    · exact hahead name hname
  · rw [hq, hfront, hp]
    simp only [List.append_assoc]
  · rw [List.append_assoc (pieces ++ [last]), List.filter_append, hfilter, hfilter']

end Path

namespace Disk

variable {d d' d'' : Disk} {here place top directory : Location} {name : String} {names : List String}
  {found : Place} {follow : Bool} {p root : Path} {n : Nat} {e : Entry} {content : Bytes}

/-! ## Outside a place -/

/-- Two disks differ at most at a place and below it. -/
structure SameOutside (d d' : Disk) (top : Location) : Prop where
  workingDirectory : d'.workingDirectory = d.workingDirectory
  find? : ∀ {place}, place ≠ [] → ¬ top <+: place → d'.find? place = d.find? place

theorem SameOutside.refl (d : Disk) (top : Location) : d.SameOutside d top :=
  ⟨rfl, fun _ _ => rfl⟩

theorem SameOutside.trans (h : d.SameOutside d' top) (h' : d'.SameOutside d'' top) :
    d.SameOutside d'' top where
  workingDirectory := h'.workingDirectory.trans h.workingDirectory
  find? hne hout := (h'.find? hne hout).trans (h.find? hne hout)

theorem SameOutside.widen {top' : Location} (h : d.SameOutside d' top') (htop : top <+: top') :
    d.SameOutside d' top :=
  ⟨h.workingDirectory, fun hne hout => h.find? hne fun hbelow => hout (htop.trans hbelow)⟩

theorem sameOutside_put (hplace : place ≠ []) (e : Entry) (h : top <+: place) :
    d.SameOutside (d.put place e) top := by
  refine ⟨rfl, fun _ hout => ?_⟩
  rw [find?_put d hplace, if_neg]
  rintro rfl
  exact hout h

theorem sameOutside_touchDirectory (h : top <+: place) : d.SameOutside (d.touchDirectory place) top := by
  unfold touchDirectory
  split
  · exact .refl d top
  · next hplace => exact sameOutside_put hplace _ h

theorem sameOutside_addIn (name : String) (e : Entry) (h : top <+: directory) :
    d.SameOutside (d.addIn directory name e) top :=
  (sameOutside_put (by simp) e (h.trans (List.prefix_append _ _))).trans (sameOutside_touchDirectory h)

/-- A link that is there after an addition was there before, unless it is what was added. -/
theorem find?_of_addIn {target : Path} (he : ∀ target, e ≠ .link target)
    (h : (d.addIn directory name e).find? place = some (.link target)) :
    d.find? place = some (.link target) := by
  have hput : (d.put (directory ++ [name]) e).find? place = some (.link target) := by
    by_cases hplace : place = directory
    · subst hplace
      unfold addIn touchDirectory at h
      split at h
      · exact h
      · next hne =>
        rw [find?_put _ hne, if_pos rfl] at h
        cases h
    · rwa [addIn, find?_touchDirectory hplace] at h
  rw [find?_put d (by simp)] at hput
  split at hput
  · exact absurd (Option.some.inj hput) (he target)
  · exact hput

/-! ## Enclosures -/

/-- A path leads to a directory with no links below it. -/
structure Enclosed (d : Disk) (root : Path) (top : Location) : Prop where
  rooted : d.Rooted
  leads : ∃ t, d.resolve root = .ok (top, .directory t)
  unlinked : ∀ names target, d.find? (top ++ names) ≠ some (.link target)

namespace Enclosed

variable (h : d.Enclosed root top)

include h in
theorem text_ne : root.text ≠ "" := by
  obtain ⟨t, ht⟩ := h.leads
  exact text_ne_of_resolve ht

include h in
theorem grows (hd : d.Grows d')
    (hlinks : ∀ place target, d'.find? place = some (.link target) → d.find? place = some (.link target)) :
    d'.Enclosed root top := by
  obtain ⟨t, ht⟩ := h.leads
  obtain ⟨e, he, halike⟩ := hd.resolve h.rooted ht
  refine ⟨hd.rooted, ?_, fun names target hentry => h.unlinked names target (hlinks _ _ hentry)⟩
  cases halike with
  | directory _ t' => exact ⟨t', he⟩

section LeadsOn

variable (hp : Path.LeadsOn root names p) (hne : names ≠ [])

include h hp hne in
/-- A path that leads on is followed from the directory that its root leads to. -/
theorem walk_eq (hn : mostLinks ≤ n) : ∃ left,
    walk d follow n (start d.workingDirectory p) (Disk.names p) = walk d follow left top names := by
  obtain ⟨t, ht⟩ := h.leads
  obtain ⟨-, hwalk⟩ := locate_eq_ok.1 (resolve_eq_ok.1 ht)
  obtain ⟨final, hsteps, hfinal⟩ := steps_eq root
  have hstart : start d.workingDirectory p = start d.workingDirectory root := by
    rw [start, start, hp.isAbsolute_eq h.text_ne]
  have hwalk' := walk_mono hwalk hn
  rw [hsteps] at hwalk'
  obtain ⟨left, hgoesOn⟩ := walk_append hfinal hwalk'
  refine ⟨left, ?_⟩
  rw [names_of_leadsOn hp, hstart]
  exact hgoesOn names hne

include h hp hne in
/-- A path that leads on leads to where its names say. -/
theorem location_of_walk
    (hwalk : walk d follow n (start d.workingDirectory p) (Disk.names p) = .ok found) :
    found.location = top ++ names := by
  have hmost := walk_mono hwalk (Nat.le_max_left n mostLinks)
  obtain ⟨left, hgo⟩ := h.walk_eq hp hne (Nat.le_max_right n mostLinks)
  rw [hgo] at hmost
  have hnames : ∀ name ∈ names, name ≠ "." ∧ name ≠ ".." := fun name hname =>
    ⟨fun heq => absurd (hp.1 name hname).1 (by rw [heq]; decide), (hp.1 name hname).2⟩
  exact (walk_unlinked follow left left hnames hne
    fun before target _ _ => h.unlinked before target).2 found hmost

include h hp hne in
theorem leadsTo (hleads : d.LeadsTo p place) : place = top ++ names := by
  obtain ⟨n, e, hwalk⟩ := hleads
  rw [steps_of_leadsOn hp] at hwalk
  exact h.location_of_walk hp hne hwalk

include h hp hne in
theorem location_of_placeToWrite (hfound : d.placeToWrite p = .ok found) :
    found.location = top ++ names := by
  obtain ⟨-, found', hwalk, hends⟩ := fileToWrite_eq_ok (placeToWrite_eq_ok.1 hfound).2
  have hplace := h.location_of_walk hp hne hwalk
  have hlies := h.rooted.walk_lies (h.rooted.working.start p) hwalk
  rcases hends with rfl | ⟨place, target, -, rfl, -⟩
  · exact hplace
  · obtain rfl : place = top ++ names := hplace
    exact absurd hlies (h.unlinked names target)

/-- A directory in which something lies below the top is not above it. -/
theorem begins_directory {directory : Location} (hne : names ≠ []) (h : directory ++ [name] = top ++ names) :
    top <+: directory := by
  obtain ⟨before, last, rfl⟩ := (List.eq_nil_or_concat' names).resolve_left hne
  rw [← List.append_assoc] at h
  obtain ⟨rfl, -⟩ := List.append_inj' h rfl
  exact List.prefix_append _ _

include h hp hne in
/-- A directory that is created under a path that leads on is one below the top. -/
theorem createDirectory (hcreate : d.createDirectory p = .ok d') :
    d'.Enclosed root top ∧ d.SameOutside d' top := by
  have hgrows := h.rooted.grows_createDirectory hcreate
  obtain ⟨directory, name, hlocate, rfl⟩ := createDirectory_eq_ok.1 hcreate
  obtain ⟨-, hwalk⟩ := locateName_eq_ok.1 hlocate
  exact ⟨h.grows hgrows fun _ _ => find?_of_addIn (by simp),
    sameOutside_addIn _ _ (begins_directory hne (h.location_of_walk hp hne hwalk))⟩

include h hp hne in
/-- A file that is written under a path that leads on is one below the top. -/
theorem write (hwrite : d.write p content = .ok d') : d'.Enclosed root top ∧ d.SameOutside d' top := by
  have hgrows := h.rooted.grows_write hwrite
  rcases write_eq_ok.1 hwrite with ⟨here, f, hfound, rfl⟩ | ⟨directory, name, hfound, rfl⟩
  · obtain rfl : here = top ++ names := h.location_of_placeToWrite hp hne hfound
    have hhere : top ++ names ≠ [] := by simp [hne]
    refine ⟨h.grows hgrows fun place target hlink => ?_, sameOutside_put hhere _ (List.prefix_append _ _)⟩
    rw [find?_put d hhere] at hlink
    split at hlink
    · cases hlink
    · exact hlink
  · exact ⟨h.grows hgrows fun _ _ => find?_of_addIn (by simp),
      sameOutside_addIn _ _ (begins_directory hne (h.location_of_placeToWrite hp hne hfound))⟩

end LeadsOn

/-- At a single name, a walk fails for its length only. -/
theorem eq_nameTooLong_of_walk {error : OsError} (h : walk d false n here [name] = .error error) :
    error = .nameTooLong := by
  rw [walk_cons] at h
  cases hstride : d.stride here name with
  | on there =>
    simp only [hstride, walk_nil] at h
    cases h
  | last found' e =>
    simp only [hstride] at h
    cases h
  | tooLong =>
    rw [hstride] at h
    cases h
    rfl
  | link there target =>
    simp only [hstride] at h
    rw [if_pos (by simp)] at h
    cases h

include h in
/-- A directory that is to lie directly in the enclosure does not lack its parent. -/
theorem kind_ne_notFound (hp : Path.LeadsOn root [name] p) {error : IoError}
    (hcreate : d.createDirectory p = .error error) : error.kind ≠ .notFound := by
  obtain ⟨left, hgo⟩ : ∃ left, walk d false mostLinks (start d.workingDirectory p) (Disk.names p) =
      walk d false left top [name] := h.walk_eq hp (by simp) (Nat.le_refl mostLinks)
  have hlocate : ∀ e, d.locateName p = .error e → e = .nameTooLong := by
    intro e he
    rcases bind_eq_error.1 he with hlength | ⟨-, -, hwalk⟩
    · unfold checkLength at hlength
      rw [if_neg hp.text_ne] at hlength
      split at hlength
      · cases hlength
        rfl
      · cases hlength
    · rw [hgo] at hwalk
      exact eq_nameTooLong_of_walk hwalk
  unfold Disk.createDirectory at hcreate
  split at hcreate
  · cases hcreate
    decide
  · cases hcreate
  · next e he =>
    cases hcreate
    rw [hlocate e he]
    decide

section Computations

/-- All that has changed since `before` lies in the enclosure. -/
def Within (before : Disk) (root : Path) (top : Location) (d : Disk) : Prop :=
  d.Enclosed root top ∧ before.SameOutside d top

variable {before : Disk}

theorem Within.createDirectory (hd : Within before root top d)
    (hp : ∃ names, names ≠ [] ∧ Path.LeadsOn root names p) (hcreate : d.createDirectory p = .ok d') :
    Within before root top d' := by
  obtain ⟨names, hne, hleads⟩ := hp
  obtain ⟨henclosed, hsame⟩ := hd.1.createDirectory hleads hne hcreate
  exact ⟨henclosed, hd.2.trans hsame⟩

theorem Within.parent (hd : Within before root top d)
    (hp : ∃ names, names ≠ [] ∧ Path.LeadsOn root names p) {error : IoError}
    (hcreate : d.createDirectory p = .error error) (hkind : error.kind = .notFound) {parent : Path}
    (hparent : p.parent? = some parent) : ∃ names, names ≠ [] ∧ Path.LeadsOn root names parent := by
  obtain ⟨names, hne, hleads⟩ := hp
  obtain ⟨front, last, rfl⟩ := (List.eq_nil_or_concat' names).resolve_left hne
  have hfront : front ≠ [] := by
    rintro rfl
    exact hd.1.kind_ne_notFound hleads hcreate hkind
  obtain ⟨q, hq, hleads', -⟩ := hleads.exists_parent hfront
  rw [hparent] at hq
  cases hq
  exact ⟨front, hfront, hleads'⟩

/-- A directory below the top is created with its parents there. -/
theorem Within.wp_createDirectories (hd : Within before root top d) (hp : Path.LeadsOn root names p)
    (hne : names ≠ []) :
    wp (createDirectories p) (fun _ => Within before root top) (fun _ => Within before root top) d :=
  wp_createDirectoriesFrom (P := fun p => ∃ names, names ≠ [] ∧ Path.LeadsOn root names p)
    (fun _ _ _ hd' hp' => hd'.createDirectory hp')
    (fun _ _ _ _ hd' hp' hcreate hkind => hd'.parent hp' hcreate hkind) _ ⟨names, hne, hp⟩ hd

/-- A file in a directory below the top is written with its directories there. -/
theorem Within.wp_writeWithDirectories (hd : Within before root top d) (hp : Path.LeadsOn root names p)
    (hlength : 1 < names.length) :
    wp (writeWithDirectories p content) (fun _ => Within before root top) (fun _ => Within before root top)
      d := by
  obtain ⟨front, last, rfl⟩ :=
    (List.eq_nil_or_concat' names).resolve_left (List.ne_nil_of_length_pos (by omega))
  have hfront : front ≠ [] := by
    rintro rfl
    simp at hlength
  have hparent : ∀ parent, p.parent? = some parent →
      ∃ names, names ≠ [] ∧ Path.LeadsOn root names parent := by
    intro parent hup
    obtain ⟨q, hq, hleads, -⟩ := hp.exists_parent hfront
    rw [hup] at hq
    cases hq
    exact ⟨front, hfront, hleads⟩
  refine (Disk.wp_writeWithDirectories (fun _ _ _ hd' hp' => Within.createDirectory hd' hp')
    (fun _ _ _ _ hd' hp' hcreate hkind => Within.parent hd' hp' hcreate hkind) hparent hd).mono ?_
    fun _ _ hd' => hd'
  rintro _ d' ⟨d₁, ⟨henclosed, hsame⟩, hwrite⟩
  obtain ⟨henclosed', hsame'⟩ := henclosed.write hp (by simp) hwrite
  exact ⟨henclosed', hsame.trans hsame'⟩

end Computations

end Enclosed

/-! ## Temporary directories -/

/-- Below a free place of a rooted disk there is nothing. -/
theorem Rooted.find?_below (hd : d.Rooted) (hfree : d.find? top = none) (hbelow : top <+: place) :
    d.find? place = none := by
  obtain ⟨names, rfl⟩ := hbelow
  induction names using List.reverseRecOn with
  | nil => rwa [List.append_nil]
  | append_singleton names name ih =>
    rw [Option.eq_none_iff_forall_ne_some]
    intro e he
    obtain ⟨t, ht⟩ := hd.parent he
    rw [← List.append_assoc, List.dropLast_concat, ih] at ht
    cases ht

theorem find?_dropWhere (q : Location → Bool) (hplace : place ≠ []) :
    (d.dropWhere q).find? place = if q place then none else d.find? place := by
  have hlookup : ∀ es : List (Location × Entry), (es.filter fun x => !q x.1).lookup place =
      if q place then none else es.lookup place := by
    intro es
    induction es with
    | nil => simp
    | cons x rest ih =>
      obtain ⟨other, e⟩ := x
      by_cases hq : q other = true
      · rw [List.filter_cons_of_neg (by simp [hq]), ih, List.lookup_cons]
        by_cases hother : place = other
        · rw [hother, if_pos hq, if_pos hq]
        · rw [beq_eq_false_iff_ne.2 hother]
      · rw [List.filter_cons_of_pos (by simp [hq]), List.lookup_cons, List.lookup_cons, ih]
        by_cases hother : place = other
        · rw [hother, if_neg hq]
          simp [hq]
        · rw [beq_eq_false_iff_ne.2 hother]
  rw [Disk.find?, Disk.find?, if_neg hplace, if_neg hplace, dropWhere, hlookup]

/-- A disk is as another was, up to the times of directories. -/
structure Restored (d d' : Disk) : Prop where
  workingDirectory : d'.workingDirectory = d.workingDirectory
  find? : ∀ place, (d'.find? place).map Entry.untimed = (d.find? place).map Entry.untimed

namespace Restored

theorem refl (d : Disk) : d.Restored d :=
  ⟨rfl, fun _ => rfl⟩

variable (h : d.Restored d')

include h in
theorem exists_find? (hentry : d.find? place = some e) :
    ∃ e', d'.find? place = some e' ∧ e'.untimed = e.untimed := by
  have heq := h.find? place
  rw [hentry, Option.map_some] at heq
  exact Option.map_eq_some_iff.1 heq

include h in
theorem symm : d'.Restored d :=
  ⟨h.workingDirectory.symm, fun place => (h.find? place).symm⟩

include h in
theorem directoryAt (hplace : d.DirectoryAt place) : d'.DirectoryAt place := by
  obtain ⟨t, ht⟩ := hplace
  obtain ⟨e', he', huntimed⟩ := h.exists_find? ht
  cases e' with
  | directory t' => exact ⟨t', he'⟩
  | _ => cases huntimed

include h in
theorem grows (hd : d.Rooted) : d.Grows d' where
  extends_before := ⟨h.workingDirectory, fun hentry => by
    obtain ⟨e', he', huntimed⟩ := h.exists_find? hentry
    exact ⟨e', he', Entry.alike_of_untimed huntimed⟩⟩
  rooted := ⟨fun hentry => by
    obtain ⟨e, he, -⟩ := h.symm.exists_find? hentry
    exact h.directoryAt (hd.parent he), by
    rw [h.workingDirectory]
    exact h.directoryAt hd.working⟩

include h in
theorem sameFiles : d.SameFiles d' :=
  fun place => SameAt.filesAgree (h.find? place)

end Restored

section Temporary

variable (hd : d.Rooted) (hlocate : d.locateName p = .ok (.absent directory name))

include hlocate in
/-- On a disk that has been extended since, a path that led to a free name leads to what is there now. -/
theorem locateName_filled (hextends : d.Extends d') (hentry : d'.find? (directory ++ [name]) = some e)
    (hlink : ∀ target, e ≠ .link target) :
    d'.locateName p = .ok (.present (directory ++ [name]) e) := by
  obtain ⟨hlength, hwalk⟩ := locateName_eq_ok.1 hlocate
  have hfilled := walk_filled hextends hentry hlink hwalk
  rw [← hextends.workingDirectory] at hfilled
  exact locateName_eq_ok.2 ⟨hlength, hfilled⟩

/-- A path without a slash behind it that leads to an entry by its name leads there, unless it is a link. -/
theorem resolve_of_locateName (hslash : Text.endsWith "/" p.text = false)
    (hlocate : d.locateName p = .ok (.present place e)) (hlink : ∀ target, e ≠ .link target) :
    d.resolve p = .ok (place, e) := by
  obtain ⟨hlength, hwalk⟩ := locateName_eq_ok.1 hlocate
  have hsteps : steps p = Disk.names p := by simp [steps, hslash]
  refine resolve_eq_ok.2 (locate_eq_ok.2 ⟨hlength, ?_⟩)
  rw [hsteps]
  refine walk_follow (fun place' target heq => ?_) hwalk
  cases heq
  exact hlink target rfl

include hd hlocate in
theorem Rooted.find?_addIn_below {names : List String} (hne : names ≠ []) (e : Entry) :
    (d.addIn directory name e).find? (directory ++ [name] ++ names) = none := by
  obtain ⟨-, hfree⟩ := hd.locateName_lies hlocate
  have hother : directory ++ [name] ++ names ≠ directory := by
    intro heq
    have hlength := congrArg List.length heq
    simp only [List.length_append, List.length_singleton] at hlength
    omega
  have hself : directory ++ [name] ++ names ≠ directory ++ [name] := by simpa using hne
  rw [addIn, find?_touchDirectory hother, find?_put d (by simp), if_neg hself]
  exact hd.find?_below hfree (List.prefix_append _ _)

include hd hlocate in
/-- A new directory is an enclosure. -/
theorem Rooted.enclosed_addIn (hslash : Text.endsWith "/" p.text = false) (t : Int) :
    (d.addIn directory name (.directory t)).Enclosed p (directory ++ [name]) := by
  obtain ⟨hdirectory, hfree⟩ := hd.locateName_lies hlocate
  have hgrows := hd.grows_addIn hdirectory hfree (.directory t)
  have hentry := find?_addIn d directory name (.directory t)
  refine ⟨hgrows.rooted, ⟨t, ?_⟩, fun names target hlink => ?_⟩
  · have hfilled := locateName_filled hlocate hgrows.extends_before hentry (by simp)
    exact resolve_of_locateName hslash hfilled (by simp)
  · by_cases hne : names = []
    · rw [hne, List.append_nil, hentry] at hlink
      cases hlink
    · rw [hd.find?_addIn_below hlocate hne] at hlink
      cases hlink

include hd hlocate in
/-- What happens below a new directory takes nothing away from the disk before. -/
theorem Rooted.extends_of_sameOutside {e : Entry}
    (hsame : (d.addIn directory name e).SameOutside d' (directory ++ [name])) : d.Extends d' := by
  obtain ⟨hdirectory, hfree⟩ := hd.locateName_lies hlocate
  have hadded := (hd.grows_addIn hdirectory hfree e).extends_before
  refine ⟨hsame.workingDirectory.trans hadded.workingDirectory, fun {place old} hold => ?_⟩
  by_cases hnil : place = []
  · rw [hnil] at hold ⊢
    cases hold
    exact ⟨_, rfl, .directory _ _⟩
  · have hout : ¬ directory ++ [name] <+: place := by
      intro hbelow
      rw [hd.find?_below hfree hbelow] at hold
      cases hold
    rw [hsame.find? hnil hout]
    exact hadded.find? hold

include hd hlocate in
/-- Once a new directory is removed, whatever has happened below it, the disk is as it was before. -/
theorem Rooted.restored_removeAll {e : Entry}
    (hsame : (d.addIn directory name e).SameOutside d' (directory ++ [name]))
    (hstill : d'.DirectoryAt (directory ++ [name])) : d.Restored (d'.removeAll p) := by
  obtain ⟨hdirectory, hfree⟩ := hd.locateName_lies hlocate
  obtain ⟨t, ht⟩ := hstill
  have hextends := hd.extends_of_sameOutside hlocate hsame
  have hworking : d'.workingDirectory = d.workingDirectory := hextends.workingDirectory
  have hremove : d'.removeAll p = (d'.dropWhere (directory ++ [name]).isPrefixOf).touchDirectory directory := by
    rw [removeAll, locateName_filled hlocate hextends ht (by simp)]
    simp only [List.dropLast_concat]
  rw [hremove]
  refine ⟨?_, fun place => ?_⟩
  · unfold touchDirectory
    split
    · exact hworking
    · exact hworking
  by_cases hnil : place = []
  · rw [hnil]
    rfl
  by_cases hplace : place = directory
  · -- The directory in which the new one lay has another time.
    subst hplace
    obtain ⟨t₀, ht₀⟩ := hdirectory
    rw [touchDirectory, if_neg hnil, find?_put _ hnil, if_pos rfl, ht₀]
    rfl
  rw [find?_touchDirectory hplace, find?_dropWhere _ hnil]
  by_cases hbelow : directory ++ [name] <+: place
  · rw [if_pos (List.isPrefixOf_iff_prefix.2 hbelow), hd.find?_below hfree hbelow]
  · rw [if_neg (by simpa using hbelow), hsame.find? hnil hbelow, addIn, find?_touchDirectory hplace,
      find?_put d (by simp), if_neg]
    rintro rfl
    exact hbelow (List.prefix_refl _)

end Temporary

/-! ## Directories that are there -/

/-- A directory that is created is where its path leads from then on, and nothing else has changed. -/
theorem Rooted.leadsTo_createDirectory (hd : d.Rooted) (hcreate : d.createDirectory p = .ok d') :
    ∃ place, d'.LeadsTo p place ∧ d.find? place = none ∧ d'.DirectoryAt place ∧
      ∀ other, other ≠ place → d.SameAt d' other := by
  have hgrows := hd.grows_createDirectory hcreate
  obtain ⟨directory, name, hlocate, rfl⟩ := createDirectory_eq_ok.1 hcreate
  obtain ⟨hdirectory, hfree⟩ := hd.locateName_lies hlocate
  have hentry := find?_addIn d directory name (.directory d.now)
  have hfilled := locateName_filled hlocate hgrows.extends_before hentry (by simp)
  obtain ⟨-, hwalk⟩ := locateName_eq_ok.1 hfilled
  exact ⟨_, leadsTo_of_walk (walk_follow (by simp) hwalk), hfree, ⟨_, hentry⟩,
    fun other => sameAt_addIn hdirectory _⟩

theorem wp_unlessDirectory_leadsTo (error : IoError) :
    wp (unlessDirectory p error) (fun _ d' => ∃ place, d'.LeadsTo p place) (fun _ _ => True) d := by
  refine wp.bind (wp.run_ok rfl ?_)
  split
  · next hdirectory =>
    unfold isDirectory at hdirectory
    cases hresolve : d.resolve p with
    | ok result => exact wp.pure ⟨result.1, leadsTo_of_resolve hresolve⟩
    | error e =>
      rw [hresolve] at hdirectory
      cases hdirectory
  · exact wp.throw trivial

/-- A directory whose creation ends well is there, whether it is new or not. -/
theorem Rooted.wp_createDirectories_leadsTo (hd : d.Rooted) (hp : p.text ≠ "") :
    wp (createDirectories p) (fun _ d' => ∃ place, d'.LeadsTo p place) (fun _ _ => True) d := by
  have hcreate : ∀ {d : Disk}, d.Rooted → ∀ d', d.createDirectory p = .ok d' →
      ∃ place, d'.LeadsTo p place := by
    intro d hd d' hd'
    obtain ⟨place, hleads, -⟩ := hd.leadsTo_createDirectory hd'
    exact ⟨place, hleads⟩
  obtain ⟨n, hn⟩ : ∃ n, p.components.length = n + 1 :=
    Nat.exists_eq_succ_of_ne_zero (List.length_pos_iff.2 (Path.components_ne_nil hp)).ne'
  rw [createDirectories, hn, createDirectoriesFrom]
  refine wp.tryCatch (wp.change (hcreate hd) fun e _ => ?_)
  split
  · split
    · exact wp.throw trivial
    · next parent _ =>
      refine wp.bind ((Growing.createDirectoriesFrom n parent d hd).mono ?_ fun _ _ _ => trivial)
      intro _ d₁ hgrows
      exact wp.tryCatch (wp.change (hcreate hgrows.rooted) fun e' _ => wp_unlessDirectory_leadsTo e')
  · exact wp_unlessDirectory_leadsTo e

end Disk
end Buildwright
