-- SUMMARY: Where paths lead, through however many links, and that a file which is written lies where its path leads.
import Buildwright.Proofs.Disk.Growth

/-!
# Where paths lead

Following a path ends in an error once it comes upon too many links. Where the path leads does not depend on
that: with more links to spend, a walk that ends well ends at the same place, on a disk that has grown as
well. Writing a file follows the links at the end of its path one by one, and so gets to the place that the
path leads to afterwards. All other files stay as they are.
-/
namespace Buildwright.Disk

/-- A path leads to an entry at a place, through however many links. -/
def LeadsTo (d : Disk) (p : Path) (place : Location) : Prop :=
  ∃ n e, walk d true n (start d.workingDirectory p) (steps p) = .ok (.present place e)

/-- The place where an entry lies, or would lie. -/
def Place.location : Place → Location
  | .present place _ => place
  | .absent directory name => directory ++ [name]

variable {d d' : Disk} {here place place' directory : Location} {name : String} {names rest : List String}
  {found : Place} {follow : Bool} {p target : Path} {n n' : Nat} {e : Entry}

/-! ## More links to spend -/

/-- With more links to spend, a walk that ends well ends as it did. -/
theorem walk_mono (h : walk d follow n here names = .ok found) (hn : n ≤ n') :
    walk d follow n' here names = .ok found := by
  rw [walk_eq_ok] at h ⊢
  induction h generalizing n' with
  | done hfound => exact .done hfound
  | on hstride _ ih => exact .on hstride (ih hn)
  | last hstride => exact .last hstride
  | stop hstride hfollow hfound => exact .stop hstride hfollow hfound
  | link hstride hgoes _ ih =>
    cases n' with
    | zero => cases hn
    | succ n' => exact .link hstride hgoes (ih (Nat.le_of_succ_le_succ hn))

theorem leadsTo_of_resolve (h : d.resolve p = .ok (place, e)) : d.LeadsTo p place :=
  ⟨mostLinks, e, (locate_eq_ok.1 (resolve_eq_ok.1 h)).2⟩

/-- A path leads to one place. -/
theorem LeadsTo.unique (h : d.LeadsTo p place) (h' : d.LeadsTo p place') : place = place' := by
  obtain ⟨n, e, hwalk⟩ := h
  obtain ⟨n', e', hwalk'⟩ := h'
  have hmost := walk_mono hwalk (Nat.le_max_left n n')
  rw [walk_mono hwalk' (Nat.le_max_right n n')] at hmost
  cases hmost
  rfl

/-- A path leads to the same place on a disk that has grown. -/
theorem LeadsTo.extends (h : d.LeadsTo p place) (hd : d.Extends d') : d'.LeadsTo p place := by
  obtain ⟨n, e, hwalk⟩ := h
  obtain ⟨e', hwalk'⟩ := walk_extends hd hwalk
  rw [← hd.workingDirectory] at hwalk'
  exact ⟨n, e', hwalk'⟩

/-! ## Links at the end of a path -/

/-- A walk that does not end at a link may follow links at its end as well. -/
theorem walk_follow (hfound : ∀ place target, found ≠ .present place (.link target))
    (h : walk d false n here names = .ok found) : walk d true n here names = .ok found := by
  rw [walk_eq_ok] at h ⊢
  induction h with
  | done heq => exact .done heq
  | on hstride _ ih => exact .on hstride ih
  | last hstride => exact .last hstride
  | stop _ _ heq => exact absurd heq.symm (hfound _ _)
  | link hstride _ _ ih => exact .link hstride (by simp) ih

/-- A walk to a link goes on to where the link leads, with one link more than both take. -/
theorem walk_through (hd : d.Rooted) {m : Nat}
    (hend : walk d true m (start place.dropLast target) (steps target) = .ok found) (hhere : d.DirectoryAt here)
    (h : walk d false n here names = .ok (.present place (.link target))) :
    walk d true (n + (m + 1)) here names = .ok found := by
  rw [walk_eq_ok] at h ⊢
  induction h with
  | done heq =>
    obtain ⟨t, ht⟩ := hhere
    rw [ht] at heq
    cases heq
  | on hstride _ ih => exact .on hstride (ih (hd.directoryAt_of_stride hhere hstride))
  | last hstride => exact absurd rfl ((find?_of_stride hstride).2.2 target)
  | @stop n here there name target' hstride _ heq =>
    cases heq
    obtain ⟨-, hplace, -⟩ := stride_eq_link hstride
    rw [hplace, List.dropLast_concat] at hend
    have hmore := walk_eq_ok.1 (walk_mono hend (Nat.le_add_left m n))
    exact .link hstride (by simp) (by rwa [List.append_nil])
  | @link n here there name rest target' hstride _ _ ih =>
    rw [Nat.add_right_comm]
    exact .link hstride (by simp) (ih (hhere.start target'))

/-! ## Free names that are taken -/

/-- A walk at the name of an entry ends there, unless it is a link. -/
theorem walk_entry (hname : IsName name) (hentry : d.find? (here ++ [name]) = some e)
    (hnolink : ∀ target, e ≠ .link target) :
    walk d follow n here [name] = .ok (.present (here ++ [name]) e) := by
  have hstride : d.stride here name = _ := stride_of_isName hname
  rw [hentry] at hstride
  rw [walk_eq_ok]
  cases e with
  | directory t => exact .on hstride (.done (by rw [hentry, Option.getD_some]))
  | file f => exact .last hstride
  | closed => exact .last hstride
  | link target => exact absurd rfl (hnolink target)

/-- Where a walk has ended at a free name, it ends at the entry that has taken the name. -/
theorem walk_filled (hd : d.Extends d') (hentry : d'.find? (directory ++ [name]) = some e)
    (hnolink : ∀ target, e ≠ .link target) (h : walk d follow n here names = .ok (.absent directory name)) :
    walk d' follow n here names = .ok (.present (directory ++ [name]) e) := by
  rw [walk_eq_ok] at h ⊢
  induction h with
  | done heq => cases heq
  | on hstride _ ih => exact .on ((stride_eq_of_extends hd (by simp [hstride])).trans hstride) ih
  | last hstride =>
    obtain ⟨hname, hfree | ⟨entry, hpresent, -⟩⟩ := stride_eq_last hstride
    · cases hfree
      exact walk_eq_ok.1 (walk_entry hname hentry hnolink)
    · cases hpresent
  | stop _ _ heq => cases heq
  | link hstride hgoes _ ih =>
    exact .link ((stride_eq_of_extends hd (by simp [hstride])).trans hstride) hgoes ih

/-! ## Writing -/

/-- A file that is to be written is found at the end of its path once it is there, with no more links than the
    search had. -/
theorem walk_of_fileToWrite (hd : d.Rooted) (hgrows : d.Grows d') {left : Nat}
    (hdirectory : d.DirectoryAt directory) {f : File} (hentry : d'.find? found.location = some (.file f))
    (h : d.fileToWrite n left directory p = .ok found) :
    walk d' true left (start directory p) (steps p) = .ok (.present found.location (.file f)) := by
  induction n generalizing left directory p with
  | zero => cases h
  | succ n ih =>
    obtain ⟨hslash, found', hwalk, hends⟩ := fileToWrite_eq_ok h
    have hsteps : steps p = names p := by
      rw [steps, if_neg]
      simp [hslash]
    have hlies := hd.walk_lies (hdirectory.start p) hwalk
    have hstart' := (hdirectory.start p).extends hgrows.extends_before
    rw [hsteps]
    rcases hends with rfl | ⟨place, target, left', rfl, hleft, h⟩
    · cases found' with
      | present place e =>
        obtain ⟨e', hwalk'⟩ := walk_extends hgrows.extends_before hwalk
        have hlies' : d'.find? place = some e' := hgrows.rooted.walk_lies hstart' hwalk'
        have hfile : d'.find? place = some (.file f) := hentry
        rw [hfile] at hlies'
        cases hlies'
        exact walk_follow (by simp) hwalk'
      | absent directory' name =>
        have hwalk' := walk_filled hgrows.extends_before hentry (by simp) hwalk
        exact walk_follow (by simp) hwalk'
    · -- The link is there on the other disk, too, and what it leads to goes by induction.
      obtain ⟨e', hwalk'⟩ := walk_extends hgrows.extends_before (walk_linksTaken hwalk)
      obtain ⟨e'', he'', halike⟩ := hgrows.extends_before.find? hlies
      have hlies' : d'.find? place = some e' := hgrows.rooted.walk_lies hstart' hwalk'
      rw [he''] at hlies'
      cases hlies'
      cases halike
      have hthrough := walk_through hgrows.rooted (ih (hd.parent hlies) h) hstart' hwalk'
      rwa [← hleft] at hthrough

/-! ## Files that stay -/

/-- A file is at a place on one disk exactly if the same file is there on the other. -/
def FilesAgree (d d' : Disk) (place : Location) : Prop :=
  ∀ f, d'.find? place = some (.file f) ↔ d.find? place = some (.file f)

/-- All files of two disks are the same. -/
def SameFiles (d d' : Disk) : Prop :=
  ∀ place, d.FilesAgree d' place

theorem SameFiles.refl (d : Disk) : d.SameFiles d :=
  fun _ _ => .rfl

theorem FilesAgree.trans {d'' : Disk} (h : d.FilesAgree d' place) (h' : d'.FilesAgree d'' place) :
    d.FilesAgree d'' place :=
  fun f => (h' f).trans (h f)

theorem SameFiles.trans {d'' : Disk} (h : d.SameFiles d') (h' : d'.SameFiles d'') : d.SameFiles d'' :=
  fun place => (h place).trans (h' place)

theorem find?_touchDirectory {other : Location} (hother : other ≠ place) :
    (d.touchDirectory place).find? other = d.find? other := by
  unfold touchDirectory
  split
  · rfl
  · next hplace => rw [find?_put d hplace, if_neg hother]

theorem find?_addIn (d : Disk) (directory : Location) (name : String) (e : Entry) :
    (d.addIn directory name e).find? (directory ++ [name]) = some e := by
  rw [addIn, find?_touchDirectory (by simp), find?_put d (by simp), if_pos rfl]

/-- The same lies at a place on two disks, up to the time of a directory. -/
def SameAt (d d' : Disk) (place : Location) : Prop :=
  (d'.find? place).map Entry.untimed = (d.find? place).map Entry.untimed

theorem SameAt.trans {d'' : Disk} (h : d.SameAt d' place) (h' : d'.SameAt d'' place) : d.SameAt d'' place :=
  Eq.trans h' h

/-- What lies at a place and is no directory lies there on both disks. -/
theorem SameAt.find?_iff (h : d.SameAt d' place) (he : ∀ t, e ≠ .directory t) :
    d'.find? place = some e ↔ d.find? place = some e := by
  have hkept : ∀ {d d' : Disk}, d.SameAt d' place → d.find? place = some e → d'.find? place = some e := by
    intro d d' h hentry
    rw [SameAt, hentry, Option.map_some] at h
    obtain ⟨e', he', huntimed⟩ := Option.map_eq_some_iff.1 h
    rw [he', Entry.eq_of_untimed he huntimed]
  exact ⟨hkept (Eq.symm h), hkept h⟩

theorem SameAt.filesAgree (h : d.SameAt d' place) : d.FilesAgree d' place :=
  fun _ => h.find?_iff (by simp)

/-- An entry that is put at a place changes nothing at any other. -/
theorem sameAt_put (hplace : place ≠ []) (e : Entry) {other : Location} (hother : other ≠ place) :
    d.SameAt (d.put place e) other := by
  rw [SameAt, find?_put d hplace, if_neg hother]

/-- A directory that is touched changes in its time only. -/
theorem sameAt_touchDirectory (hdirectory : d.DirectoryAt place) (other : Location) :
    d.SameAt (d.touchDirectory place) other := by
  unfold touchDirectory
  split
  · rfl
  · next hplace =>
    by_cases hother : other = place
    · obtain ⟨t, ht⟩ := hdirectory
      rw [SameAt, find?_put d hplace, if_pos hother, hother, ht]
      rfl
    · exact sameAt_put hplace _ hother

/-- An addition changes nothing but what is added. -/
theorem sameAt_addIn (hdirectory : d.DirectoryAt directory) (e : Entry) {other : Location}
    (hother : other ≠ directory ++ [name]) : d.SameAt (d.addIn directory name e) other := by
  have hput : d.SameAt (d.put (directory ++ [name]) e) other := sameAt_put (by simp) e hother
  have hstill : (d.put (directory ++ [name]) e).DirectoryAt directory := by
    obtain ⟨t, ht⟩ := hdirectory
    refine ⟨t, ?_⟩
    rw [find?_put d (by simp), if_neg (by simp)]
    exact ht
  exact hput.trans (sameAt_touchDirectory hstill other)

/-- A new directory changes no file. -/
theorem Rooted.sameFiles_createDirectory (hd : d.Rooted) (h : d.createDirectory p = .ok d') :
    d.SameFiles d' := by
  obtain ⟨directory, name, hlocate, rfl⟩ := createDirectory_eq_ok.1 h
  obtain ⟨hdirectory, hfree⟩ := hd.locateName_lies hlocate
  intro other
  by_cases hother : other = directory ++ [name]
  · intro f
    rw [hother, find?_addIn, hfree]
    simp
  · exact (sameAt_addIn hdirectory _ hother).filesAgree

/-- Writing puts a file with the content where its path is resolved to from then on, and changes nothing
    else. -/
theorem Rooted.resolve_write (hd : d.Rooted) {content : Bytes} (h : d.write p content = .ok d') :
    ∃ place f, d'.resolve p = .ok (place, .file f) ∧ f.content = content ∧
      ∀ other, other ≠ place → d.SameAt d' other := by
  have hgrows := hd.grows_write h
  have hresolve : ∀ {found f}, d.placeToWrite p = .ok found →
      d'.find? found.location = some (.file f) → d'.resolve p = .ok (found.location, .file f) := by
    intro found f hfound hentry
    obtain ⟨hlength, hfile⟩ := placeToWrite_eq_ok.1 hfound
    have hwalk := walk_of_fileToWrite hd hgrows hd.working hentry hfile
    rw [← hgrows.extends_before.workingDirectory] at hwalk
    exact resolve_eq_ok.2 (locate_eq_ok.2 ⟨checkLength_eq_ok.1 hlength, hwalk⟩)
  rcases write_eq_ok.1 h with ⟨here, f, hfound, rfl⟩ | ⟨directory, name, hfound, rfl⟩
  · have hfile : d.find? here = some (.file f) := hd.placeToWrite_lies hfound
    have hne : here ≠ [] := by
      rintro rfl
      cases hfile
    have hentry := find?_put d hne here (.file { f with content, modified := d.now })
    rw [if_pos rfl] at hentry
    exact ⟨here, _, hresolve hfound hentry, rfl, fun other => sameAt_put hne _⟩
  · obtain ⟨hdirectory, -⟩ := hd.placeToWrite_lies hfound
    have hentry := find?_addIn d directory name (.file ⟨content, d.now, false⟩)
    exact ⟨directory ++ [name], _, hresolve hfound hentry, rfl,
      fun other => sameAt_addIn hdirectory _⟩

/-! ## Writing with directories -/

section Directories

variable {I : Disk → Prop} {P : Path → Prop}
  (hstep : ∀ d p d', I d → P p → d.createDirectory p = .ok d' → I d')
  (hparent : ∀ d p e parent, I d → P p → d.createDirectory p = .error e → e.kind = .notFound →
    p.parent? = some parent → P parent)

include hstep in
theorem wp_createDirectory {Q : Unit → Disk → Prop} {E : IoError → Disk → Prop} (hp : P p) (hd : I d)
    (hok : ∀ d', I d' → Q () d') (herror : ∀ e, d.createDirectory p = .error e → E e d) :
    wp (change (·.createDirectory p)) Q E d :=
  wp.change (fun d' hd' => hok d' (hstep d p d' hd hp hd')) herror

theorem wp_unlessDirectory {error : IoError} (hd : I d) :
    wp (unlessDirectory p error) (fun _ => I) (fun _ => I) d := by
  refine wp.bind (wp.run_ok rfl ?_)
  split
  · exact wp.pure hd
  · exact wp.throw hd

include hstep hparent in
/-- What the creation of a directory keeps, that of a directory with its parents keeps. The induction is on how
    many may be missing. -/
theorem wp_createDirectoriesFrom (n : Nat) (hp : P p) (hd : I d) :
    wp (createDirectoriesFrom n p) (fun _ => I) (fun _ => I) d := by
  induction n generalizing p d with
  | zero => exact wp.pure hd
  | succ n ih =>
    refine wp.tryCatch (wp_createDirectory hstep hp hd (fun _ hd' => hd') fun e he => ?_)
    split
    · next hmissing =>
      cases hup : p.parent? with
      | none => exact wp.throw hd
      | some parent =>
        refine wp.bind ((ih (hparent d p e parent hd hp he hmissing hup) hd).mono ?_ fun _ _ hd' => hd')
        intro _ d' hd'
        exact wp.tryCatch (wp_createDirectory hstep hp hd' (fun _ hd'' => hd'') fun e' _ =>
          wp_unlessDirectory hd')
    · exact wp_unlessDirectory hd

include hstep hparent in
/-- A file is written last of all, if at all. -/
theorem wp_writeWithDirectories {content : Bytes} (hp : ∀ parent, p.parent? = some parent → P parent)
    (hd : I d) :
    wp (writeWithDirectories p content) (fun _ d' => ∃ d₁, I d₁ ∧ d₁.write p content = .ok d')
      (fun _ => I) d := by
  have hwrite : ∀ d₁, I d₁ → wp (change (·.write p content))
      (fun _ d' => ∃ d₁, I d₁ ∧ d₁.write p content = .ok d') (fun _ => I) d₁ :=
    fun d₁ hd₁ => wp.change (fun d' hd' => ⟨d₁, hd₁, hd'⟩) fun _ _ => hd₁
  unfold writeWithDirectories
  split
  · next parent hup =>
    split
    · refine wp.bind ((wp_createDirectoriesFrom hstep hparent _ (hp parent hup) hd).mono ?_
        fun _ _ hd' => hd')
      exact fun _ d₁ hd₁ => hwrite d₁ hd₁
    · exact hwrite d hd
  · exact hwrite d hd

end Directories

/-- However far it gets, writing with directories changes no file before the file itself is written. -/
theorem Rooted.wp_writeWithDirectories (hd : d.Rooted) {content : Bytes} :
    wp (writeWithDirectories p content)
      (fun _ d' => ∃ d₁, (d.Grows d₁ ∧ d.SameFiles d₁) ∧ d₁.write p content = .ok d')
      (fun _ d' => d.Grows d' ∧ d.SameFiles d') d := by
  refine Disk.wp_writeWithDirectories (P := fun _ => True) ?_ (fun _ _ _ _ _ _ _ _ _ => trivial)
    (fun _ _ => trivial) ⟨hd.grows, .refl d⟩
  rintro d₁ p d' ⟨hgrows, hsame⟩ - hcreate
  exact ⟨hgrows.trans (hgrows.rooted.grows_createDirectory hcreate),
    hsame.trans (hgrows.rooted.sameFiles_createDirectory hcreate)⟩

/-- One disk has become another by writing to a path: it has grown, and no file has changed but where the path
    leads. -/
structure GrowsAt (d d' : Disk) (p : Path) : Prop where
  grows : d.Grows d'
  elsewhere : ∀ place, ¬ d'.LeadsTo p place → d.FilesAgree d' place

theorem Rooted.wp_writeWithDirectories_elsewhere (hd : d.Rooted) {content : Bytes} :
    wp (writeWithDirectories p content) (fun _ d' => d.GrowsAt d' p) (fun _ d' => d.GrowsAt d' p) d := by
  refine hd.wp_writeWithDirectories.mono ?_ ?_
  · rintro _ d' ⟨d₁, ⟨hgrows, hsame⟩, hwrite⟩
    obtain ⟨place, f, hresolve, -, hother⟩ := hgrows.rooted.resolve_write hwrite
    refine ⟨hgrows.trans (hgrows.rooted.grows_write hwrite), fun other hnot => ?_⟩
    exact (hsame other).trans (hother other fun heq => hnot (heq ▸ leadsTo_of_resolve hresolve)).filesAgree
  · exact fun _ d' ⟨hgrows, hsame⟩ => ⟨hgrows, fun place _ => hsame place⟩

end Buildwright.Disk
