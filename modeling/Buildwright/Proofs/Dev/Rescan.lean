-- SUMMARY: A rescan does what reports of changes to all files below the source roots would have done.
import Buildwright.Proofs.Dev.OrderIndependence
import Buildwright.Proofs.Disk.Search

/-!
# Rescans

When a watcher may have lost changes, all files below the source roots that have a provider are evaluated
anew. That comes to the same as a report of a change to every file below the roots: the search goes by the
extension without dots, the providers by the extension with its dot, and what the one finds for which the
others have no use is ignored. Files may be found several times, and in several spellings, since source
roots may lie within each other; so reports are compared up to the spelling of paths.
-/
namespace Buildwright

/-! ## Records that show other spellings -/

/-- Sets of paths that compare equal one by one, if they hold the same paths up to spelling. -/
theorem SortedMap.keys_alike {s t : SortedSet Path} (h : ∀ p, s.contains p = t.contains p) :
    Path.Alike s.keys t.keys := by
  have hmatch : ∀ {s t : SortedSet Path}, (∀ p, s.contains p = t.contains p) → ∀ e ∈ s.entries,
      ∃ e' ∈ t.entries, compare e.1 e'.1 = .eq := by
    intro s t h e he
    have hs : s.contains e.1 = true :=
      SortedMap.contains_iff.2 ⟨e.1, List.mem_map_of_mem he, Std.ReflOrd.compare_self⟩
    obtain ⟨p, hp, hcompare⟩ := SortedMap.contains_iff.1 ((h e.1).symm.trans hs)
    obtain ⟨e', he', rfl⟩ := List.mem_map.1 hp
    exact ⟨e', he', hcompare⟩
  have hentries := SortedMap.forall₂_of_matches (R := fun _ _ => True) s.increasing t.increasing
    (fun e he => by simpa using hmatch h e he)
    (fun e' he' => by
      obtain ⟨e, he, hcompare⟩ := hmatch (fun p => (h p).symm) e' he'
      exact ⟨e, he, Std.OrientedCmp.eq_symm hcompare, trivial⟩)
  exact List.forall₂_map_left_iff.2 (List.forall₂_map_right_iff.2 (hentries.imp fun _ _ h => h.1))

namespace Evaluation

/-- The same states and the same batches, up to the spelling of files. -/
structure Alike (acc acc' : Evaluation) : Prop where
  states : List.Forall₂ (fun e e' => compare e.1 e'.1 = .eq ∧ e.2 = e'.2) acc.states.entries
    acc'.states.entries
  stale : List.Forall₂ (fun b b' => b.1 = b'.1 ∧ Path.Alike b.2.keys b'.2.keys) acc.stale.entries
    acc'.stale.entries

variable {acc acc' : Evaluation} {verdict : Path → Verdict} {seen seen' : List Path}

/-- What is judged in one list of files is judged alike in another, in some spelling. -/
def Covered (verdict : Path → Verdict) (seen seen' : List Path) : Prop :=
  ∀ p ∈ seen, verdict p ≠ .ignored → ∃ q ∈ seen', compare p q = .eq ∧ verdict q = verdict p

theorem Judges.states_of_covered (h : acc.Judges verdict seen) (h' : acc'.Judges verdict seen')
    (hcovered : Covered verdict seen seen') {p : Path} {s : FileState}
    (hp : acc.states.find? p = some s) : acc'.states.find? p = some s := by
  obtain ⟨q, hq, hcompare, hs⟩ := (h.states p s).1 hp
  have hjudged : verdict q ≠ .ignored := by
    intro hignored
    rw [hignored] at hs
    cases hs
  obtain ⟨q', hq', hcompare', hverdict⟩ := hcovered q hq hjudged
  exact (h'.states p s).2 ⟨q', hq', Std.TransCmp.eq_trans hcompare hcompare', by rw [hverdict, hs]⟩

theorem Judges.queued_of_covered (h : acc.Judges verdict seen) (h' : acc'.Judges verdict seen')
    (hcovered : Covered verdict seen seen') {e : String} {p : Path} (hp : acc.Queued e p) :
    acc'.Queued e p := by
  obtain ⟨q, hq, hcompare, hs⟩ := (h.stale e p).1 hp
  have hjudged : verdict q ≠ .ignored := by
    intro hignored
    rw [hignored] at hs
    cases hs
  obtain ⟨q', hq', hcompare', hverdict⟩ := hcovered q hq hjudged
  exact (h'.stale e p).2 ⟨q', hq', Std.TransCmp.eq_trans hcompare hcompare', by rw [hverdict, hs]⟩

/-- An entry of one map of states is matched in the other. -/
theorem Judges.states_match (h : acc.Judges verdict seen) (h' : acc'.Judges verdict seen')
    (hcovered : Covered verdict seen seen') {e : Path × FileState} (he : e ∈ acc.states.entries) :
    ∃ e' ∈ acc'.states.entries, compare e.1 e'.1 = .eq ∧ e.2 = e'.2 := by
  have hfind : acc.states.find? e.1 = some e.2 :=
    SortedMap.find?_eq_some_iff.2 ⟨e.1, he, Std.ReflOrd.compare_self⟩
  obtain ⟨p, hp, hcompare⟩ :=
    SortedMap.find?_eq_some_iff.1 (h.states_of_covered h' hcovered hfind)
  exact ⟨(p, e.2), hp, hcompare, rfl⟩

/-- A batch of one record is matched in the other. -/
theorem Judges.stale_match (h : acc.Judges verdict seen) (h' : acc'.Judges verdict seen')
    (hcovered : Covered verdict seen seen') (hcovered' : Covered verdict seen' seen)
    {b : String × SortedSet Path} (hb : b ∈ acc.stale.entries) :
    ∃ b' ∈ acc'.stale.entries, b.1 = b'.1 ∧ Path.Alike b.2.keys b'.2.keys := by
  obtain ⟨e, files⟩ := b
  have hfiles : acc.stale.find? e = some files := SortedMap.find?_eq_some.2 hb
  obtain ⟨p, hp⟩ := List.exists_mem_of_ne_nil _ (h.occupied e files hfiles)
  have hqueued : acc.Queued e p :=
    ⟨files, hfiles, SortedMap.contains_iff.2 ⟨p, hp, Std.ReflOrd.compare_self⟩⟩
  obtain ⟨files', hfiles', -⟩ := h.queued_of_covered h' hcovered hqueued
  have hsame : ∀ q, files.contains q = true ↔ files'.contains q = true := by
    intro q
    have hleft : acc.Queued e q ↔ files.contains q = true := by simp [Queued, hfiles]
    have hright : acc'.Queued e q ↔ files'.contains q = true := by simp [Queued, hfiles']
    rw [← hleft, ← hright]
    exact ⟨h.queued_of_covered h' hcovered, h'.queued_of_covered h hcovered'⟩
  exact ⟨(e, files'), SortedMap.find?_eq_some.1 hfiles', rfl,
    SortedMap.keys_alike fun q => Bool.eq_iff_iff.2 (hsame q)⟩

/-- Records of lists of files that cover each other show the same. -/
theorem Judges.alike (h : acc.Judges verdict seen) (h' : acc'.Judges verdict seen')
    (hcovered : Covered verdict seen seen') (hcovered' : Covered verdict seen' seen) :
    acc.Alike acc' where
  states := by
    refine SortedMap.forall₂_of_matches acc.states.increasing acc'.states.increasing
      (fun e he => h.states_match h' hcovered he) fun e' he' => ?_
    obtain ⟨e, he, hcompare, hs⟩ := h'.states_match h hcovered' he'
    exact ⟨e, he, Std.OrientedCmp.eq_symm hcompare, hs.symm⟩
  stale := by
    refine (SortedMap.forall₂_of_matches (R := fun files files' => Path.Alike files.keys files'.keys)
      acc.stale.increasing acc'.stale.increasing (fun b hb => ?_) fun b' hb' => ?_).imp
      fun b b' hmatch => ⟨Std.LawfulEqOrd.eq_of_compare hmatch.1, hmatch.2⟩
    · obtain ⟨b', hb', heq, halike⟩ := h.stale_match h' hcovered hcovered' hb
      exact ⟨b', hb', by rw [heq, Std.ReflOrd.compare_self], halike⟩
    · obtain ⟨b, hb, heq, halike⟩ := h'.stale_match h hcovered' hcovered hb'
      exact ⟨b, hb, by rw [heq, Std.ReflOrd.compare_self], halike.symm⟩

end Evaluation

/-! ## Files below the source roots -/

namespace IncrementalRecompiler

/-- A path that the disk takes, and that is spelled by its components from its innermost root on. -/
structure WellSpelled (roots : List Path) (p : Path) : Prop where
  direct : Disk.Direct p
  relativeTo?_eq : ∀ root, Innermost roots p root → p.relativeTo? root =
    some ⟨Text.joined "/" ((p.components.drop root.components.length).map Path.Component.text)⟩

variable {r : IncrementalRecompiler} {d : Disk} {roots : List Path} {p q root : Path}

/-- The paths that a search below a root finds are well spelled. -/
theorem WellSpelled.of_fileBelow (hd : d.WellFormed) (hroot : root ∈ roots) (hread : d.Readable root)
    (h : d.FileBelow root p) : WellSpelled roots p := by
  obtain ⟨time, htime⟩ := hread.exists_time h
  obtain ⟨names, hne, hplain, hpieces⟩ := hd.exists_pieces h
  have htidy : Path.Tidy names := Disk.tidy_of_plain hplain
  refine ⟨Disk.direct_of_pieces (Disk.text_length_of_modifiedMillis htime) hpieces hne htidy, ?_⟩
  intro base hbase
  exact Path.relativeTo?_of_front h.text_ne hpieces htidy hne hbase.startsWith
    (hbase.longest root hroot (hd.startsWith_of_fileBelow h))

/-- The canonical path of a file below a root is well spelled. -/
theorem WellSpelled.of_canonical (hd : d.WellFormed) (hroot : root ∈ roots) (h : d.FileBelow root q)
    (hp : p.Canonical) (hlength : p.text.utf8ByteSize ≤ Disk.longestPath) (hcompare : compare p q = .eq) :
    WellSpelled roots p := by
  obtain ⟨next, rest, hpieces, htidy⟩ := hp.exists_pieces
  have hfront : Text.pieces '/' p.text = [""] ++ next :: rest := hpieces
  refine ⟨Disk.direct_of_pieces hlength hfront (by simp) htidy, ?_⟩
  intro base hbase
  have hstarts : p.startsWith root = true := by
    rw [Path.startsWith, Path.compare_eq_iff.1 hcompare]
    exact hd.startsWith_of_fileBelow h
  refine hp.relativeTo?_eq hbase.startsWith fun hnil => ?_
  have hle := hbase.longest root hroot hstarts
  rw [hnil, List.length_nil, Nat.le_zero, List.length_eq_zero_iff] at hle
  exact Path.components_ne_nil h.text_ne hle

/-- The paths by which the files below the roots are reported: well spelled ones of such files. -/
def Names (d : Disk) (roots : List Path) (p : Path) : Prop :=
  WellSpelled roots p ∧ ∃ root ∈ roots, ∃ q, d.FileBelow root q ∧ compare p q = .eq

/-! ## Verdicts -/

/-- Well spelled paths of one file are judged alike. -/
theorem WellSpelled.verdict_congr
    (hproviders : ∀ e p, r.registry.find? e = some p → p.GoesByComponents)
    (hp : WellSpelled r.sourceRoots p) (hq : WellSpelled r.sourceRoots q) (h : compare p q = .eq) :
    r.verdict d p = r.verdict d q := by
  have hcomponents := Path.compare_eq_iff.1 h
  have hprovider : r.registry.forPath? p = r.registry.forPath? q := by
    rw [ProviderRegistry.forPath?, ProviderRegistry.forPath?, Path.dottedExtension?_congr hcomponents]
  have hroots := sourceRootOf_congr (r := r) hcomponents
  cases hfind : r.registry.forPath? q with
  | none => rw [verdict_of_no_provider hfind, verdict_of_no_provider (hprovider.trans hfind)]
  | some provider =>
    cases hroot : r.sourceRootOf q with
    | none => rw [verdict_of_no_root hroot, verdict_of_no_root (hroots.trans hroot)]
    | some root =>
      obtain ⟨e, -, he⟩ := Option.bind_eq_some_iff.1 hfind
      have htime : d.modifiedMillis p = d.modifiedMillis q := by
        rw [Disk.modifiedMillis, Disk.modifiedMillis, Disk.modifiedAt, Disk.modifiedAt,
          Disk.resolve_congr d hp.direct hq.direct hcomponents]
      have hrelative : p.relativeTo? root = q.relativeTo? root := by
        rw [hp.relativeTo?_eq root (sourceRootOf_innermost (hroots.trans hroot)),
          hq.relativeTo?_eq root (sourceRootOf_innermost hroot), hcomponents]
      rw [verdict_of_some (hprovider.trans hfind) (hroots.trans hroot), verdict_of_some hfind hroot,
        verdictWith, verdictWith, htime]
      simp only [(hproviders e provider he).isStale_eq d p q root _ _ _ h hrelative]

/-! ## The search -/

/-- The disk can be read below all source roots. -/
def ReadableBelow (d : Disk) (roots : List Path) : Prop :=
  ∀ root ∈ roots, d.isDirectory root = true → d.Readable root

theorem ReadableBelow.readable (h : ReadableBelow d roots) (hroot : root ∈ roots)
    (hp : d.FileBelow root p) : d.Readable root := by
  obtain ⟨place, t, hresolve⟩ := hp.exists_resolve
  exact h root hroot (by rw [Disk.isDirectory, hresolve])

/-- A rescan looks at the files below the roots whose extension is, but for leading dots, that of a
    provider. -/
theorem mem_scan (hd : d.WellFormed) (hread : ReadableBelow d r.sourceRoots) :
    p ∈ changedFiles (r.scan d) ↔ (∃ root ∈ r.sourceRoots, d.FileBelow root p) ∧
      ∃ e ∈ r.registry.extensions, p.extension? = some (Text.dropLeading '.' e) := by
  have hbelow : ∀ root ∈ r.sourceRoots, ∀ e,
      (∃ c ∈ changesBelow d root e, c.path = p ∧ c.kind ≠ .deleted) ↔
        d.FileBelow root p ∧ p.extension? = some (Text.dropLeading '.' e) := by
    intro root hroot e
    obtain ⟨files, hfiles⟩ := Disk.exists_filesWithExtension (hread root hroot) e
    rw [← (hd.filesWithExtension_spec hfiles).2, changesBelow, hfiles]
    simp
  rw [mem_changedFiles, scan]
  constructor
  · rintro ⟨c, hc, hpath⟩
    obtain ⟨root, hroot, hc⟩ := List.mem_flatMap.1 hc
    obtain ⟨e, he, hc⟩ := List.mem_flatMap.1 hc
    obtain ⟨hfile, hextension⟩ := (hbelow root hroot e).1 ⟨c, hc, hpath⟩
    exact ⟨⟨root, hroot, hfile⟩, e, he, hextension⟩
  · rintro ⟨⟨root, hroot, hfile⟩, e, he, hextension⟩
    obtain ⟨c, hc, hpath⟩ := (hbelow root hroot e).2 ⟨hfile, hextension⟩
    exact ⟨c, List.mem_flatMap.2 ⟨root, hroot, List.mem_flatMap.2 ⟨e, he, hc⟩⟩, hpath⟩

/-- A rescan looks for the extension of a file that has a provider. -/
theorem exists_extension_of_forPath? {provider : CompilationProvider}
    (h : r.registry.forPath? p = some provider) :
    ∃ e ∈ r.registry.extensions, p.extension? = some (Text.dropLeading '.' e) := by
  obtain ⟨e, hdotted, hfind⟩ := Option.bind_eq_some_iff.1 h
  obtain ⟨extension, hextension, rfl⟩ := Option.map_eq_some_iff.1 hdotted
  obtain ⟨name, -, hsplit⟩ := Option.bind_eq_some_iff.1 hextension
  obtain ⟨-, -, -, hfree⟩ := Path.splitName_eq_some hsplit
  refine ⟨"." ++ extension, SortedMap.mem_keys.2 ⟨_, SortedMap.find?_eq_some.1 hfind⟩, ?_⟩
  rw [hextension]
  exact congrArg some (Text.dropLeading_append hfree).symm

end IncrementalRecompiler

/-! ## Reports -/

/-- Two reports that say the same of the files that have a provider and of every run, up to the spelling of
    files. -/
structure RecompileReport.Alike (report report' : RecompileReport) : Prop where
  evaluation : report.evaluation.Alike report'.evaluation
  written : Path.Alike report.written report'.written
  warnings : report.warnings = report'.warnings
  failures : List.Forall₂ (fun f f' => f.1 = f'.1 ∧ Path.Alike f.2.1.keys f'.2.1.keys ∧ f.2.2.Alike f'.2.2)
    report.failures report'.failures

namespace RecompileReport

/-- Records and runs that are alike make reports that are. -/
theorem alike_of_runs {report report' : RecompileReport}
    (hevaluation : report.evaluation.Alike report'.evaluation)
    (hruns : List.Forall₂
      (ProviderRun.Related (fun files files' => Path.Alike files.keys files'.keys) OutcomeAlike)
      report.runs report'.runs) : report.Alike report' where
  evaluation := hevaluation
  written := by
    refine List.rel_flatMap hruns ?_
    rintro ⟨e, files, outcome⟩ ⟨e', files', outcome'⟩ ⟨-, -, houtcome⟩
    cases houtcome with
    | ok h warnings => exact h
    | error h => exact .nil
  warnings := by
    rw [← List.forall₂_eq_eq_eq]
    refine List.rel_flatMap hruns ?_
    rintro ⟨e, files, outcome⟩ ⟨e', files', outcome'⟩ ⟨-, -, houtcome⟩
    rw [List.forall₂_eq_eq_eq]
    cases houtcome <;> rfl
  failures := by
    refine List.rel_filterMap ?_ hruns
    rintro ⟨e, files, outcome⟩ ⟨e', files', outcome'⟩ ⟨hextension, hfiles, houtcome⟩
    cases houtcome with
    | ok h warnings => exact .none
    | error h => exact .some ⟨hextension, hfiles, h⟩

end RecompileReport

/-! ## Rescans -/

/-- Files that compare equal one by one, and that all lead directly to what they are for. -/
structure DirectlyAlike (files files' : SortedSet Path) : Prop where
  alike : Path.Alike files.keys files'.keys
  direct : ∀ p ∈ files.keys, Disk.Direct p
  direct' : ∀ p ∈ files'.keys, Disk.Direct p

namespace IncrementalRecompiler

variable {r : IncrementalRecompiler} {d : Disk} {changes : List FileChange} {p : Path}

/-- The batches of a record hold files that have been seen. -/
theorem direct_of_judges {acc : Evaluation} {verdict : Path → Verdict} {seen roots : List Path}
    (h : acc.Judges verdict seen) (hseen : ∀ p ∈ seen, WellSpelled roots p)
    {batch : String × SortedSet Path} (hbatch : batch ∈ acc.stale.entries) (hp : p ∈ batch.2.keys) :
    Disk.Direct p :=
  (hseen p (h.stale_seen batch.1 batch.2 (SortedMap.find?_eq_some.2 hbatch) p hp)).direct

section Readable

variable (hproviders : ∀ e p, r.registry.find? e = some p → p.GoesByComponents)
  (hformed : d.WellFormed) (hread : ReadableBelow d r.sourceRoots)

include hformed hread in
theorem wellSpelled_of_mem_scan (hp : p ∈ changedFiles (r.scan d)) : WellSpelled r.sourceRoots p := by
  obtain ⟨⟨root, hroot, hbelow⟩, -⟩ := (mem_scan hformed hread).1 hp
  exact .of_fileBelow hformed hroot (hread.readable hroot hbelow) hbelow

include hproviders in
/-- Changes to well spelled paths are recorded by their verdicts. -/
theorem evaluate_judges_of_wellSpelled
    (h : ∀ p ∈ changedFiles changes, WellSpelled r.sourceRoots p) :
    (r.evaluate d changes).Judges (r.verdict d) (changedFiles changes) :=
  r.evaluate_judges d fun p hp q hq hcompare =>
    (h q hq).verdict_congr hproviders (h p hp) (Std.OrientedCmp.eq_symm hcompare)

variable (hnames : ∀ p ∈ changedFiles changes, Names d r.sourceRoots p)

include hproviders hformed hread hnames in
/-- Whatever a rescan looks at is judged alike among the changes, if these are to all files below the
    roots. -/
theorem scan_covered (hall : ∀ root ∈ r.sourceRoots, ∀ p, d.FileBelow root p →
      ∃ q ∈ changedFiles changes, compare p q = .eq) :
    Evaluation.Covered (r.verdict d) (changedFiles (r.scan d)) (changedFiles changes) := by
  intro p hp _
  obtain ⟨⟨root, hroot, hbelow⟩, -⟩ := (mem_scan hformed hread).1 hp
  obtain ⟨q, hq, hcompare⟩ := hall root hroot p hbelow
  have hspelled := wellSpelled_of_mem_scan hformed hread hp
  exact ⟨q, hq, hcompare,
    (hnames q hq).1.verdict_congr hproviders hspelled (Std.OrientedCmp.eq_symm hcompare)⟩

include hproviders hformed hread hnames in
/-- A change to a file below the roots is ignored, or a rescan looks at the file. -/
theorem covered_by_scan :
    Evaluation.Covered (r.verdict d) (changedFiles changes) (changedFiles (r.scan d)) := by
  intro p hp hjudged
  obtain ⟨hspelled, root, hroot, q, hbelow, hcompare⟩ := hnames p hp
  obtain ⟨provider, hprovider⟩ : ∃ provider, r.registry.forPath? p = some provider :=
    Option.ne_none_iff_exists'.1 fun hnone => hjudged (verdict_of_no_provider hnone)
  have hfind : r.registry.forPath? q = some provider := by
    rw [← hprovider, ProviderRegistry.forPath?, ProviderRegistry.forPath?,
      Path.dottedExtension?_congr (Path.compare_eq_iff.1 hcompare)]
  have hq : q ∈ changedFiles (r.scan d) :=
    (mem_scan hformed hread).2 ⟨⟨root, hroot, hbelow⟩, exists_extension_of_forPath? hfind⟩
  have hspelled' := wellSpelled_of_mem_scan hformed hread hq
  exact ⟨q, hq, hcompare, (hspelled.verdict_congr hproviders hspelled' hcompare).symm⟩

end Readable

theorem processEvent_rescan (r : IncrementalRecompiler) (s : Session) :
    r.processEvent .rescan s = r.process (r.scan s.disk) s := by
  rw [processEvent]
  rfl

theorem silentProvider_goesByComponents : silentProvider.GoesByComponents where
  effect_alike _ _ _ _ _ _ _ _ hdisk := ⟨.refl _, hdisk⟩
  isStale_eq d _ _ _ classes e time _ h := by
    rw [isStale_silentProvider]
    exact StalenessPolicy.assumeFresh.isStale_congr d classes e time h

theorem editedDisk_wellFormed : editedDisk.WellFormed :=
  ⟨by decide, by decide⟩

/-- What the directory of the sources shows. -/
def editedSources : List (String × Entry) :=
  [("A.java", .file default), ("notes.txt", .file default)]

theorem readDirectory_project :
    editedDisk.readDirectory "/p" = .ok [("src", .directory 0)] := by
  decide

theorem readDirectory_sources {root : Path} (h : root = "/p/src" ∨ root = "/p//src") :
    editedDisk.readDirectory root = .ok editedSources := by
  rcases h with rfl | rfl <;> decide

theorem readable_sources {root : Path} (h : root = "/p/src" ∨ root = "/p//src") :
    editedDisk.Readable root := by
  refine .intro (readDirectory_sources h) ?_ (by simp [editedSources]) (by simp [editedSources])
  intro name f hname
  simp only [editedSources, List.mem_cons, Prod.mk.injEq, List.not_mem_nil, or_false] at hname
  rcases h with rfl | rfl <;> rcases hname with ⟨rfl, -⟩ | ⟨rfl, -⟩ <;> exact ⟨0, by decide⟩

theorem readableBelow_editedDisk : ReadableBelow editedDisk nestedRecompiler.sourceRoots := by
  have hproject : editedDisk.Readable "/p" := by
    refine .intro readDirectory_project (by simp) (by simp) ?_
    intro name t hname
    simp only [List.mem_cons, Prod.mk.injEq, List.not_mem_nil, or_false] at hname
    obtain ⟨rfl, -⟩ := hname
    exact readable_sources (.inl rfl)
  intro root hroot _
  simp only [nestedRecompiler, List.mem_cons, List.not_mem_nil, or_false] at hroot
  rcases hroot with rfl | hroot
  · exact hproject
  · exact readable_sources hroot

theorem fileBelow_sources {root p : Path} (h : root = "/p/src" ∨ root = "/p//src")
    (hp : editedDisk.FileBelow root p) : p = root.join ⟨"A.java"⟩ ∨ p = root.join ⟨"notes.txt"⟩ := by
  obtain ⟨x, hx, hbelow⟩ := (Disk.fileBelow_iff (readDirectory_sources h)).1 hp
  simp only [editedSources, List.mem_cons, List.not_mem_nil, or_false] at hx
  rcases hx with rfl | rfl <;> rcases hbelow with ⟨-, -, rfl⟩ | ⟨t, ht, -⟩
  · exact .inl rfl
  · cases ht
  · exact .inr rfl
  · cases ht

theorem fileBelow_editedDisk {root p : Path} (hroot : root ∈ nestedRecompiler.sourceRoots)
    (hp : editedDisk.FileBelow root p) :
    compare p ⟨"/p/src/A.java"⟩ = .eq ∨ compare p ⟨"/p/src/notes.txt"⟩ = .eq := by
  simp only [nestedRecompiler, List.mem_cons, List.not_mem_nil, or_false] at hroot
  obtain ⟨root', hroot', hp'⟩ : ∃ root', (root' = ⟨"/p/src"⟩ ∨ root' = ⟨"/p//src"⟩) ∧
      editedDisk.FileBelow root' p := by
    rcases hroot with rfl | hroot
    · obtain ⟨x, hx, hbelow⟩ := (Disk.fileBelow_iff readDirectory_project).1 hp
      obtain rfl := List.mem_singleton.1 hx
      rcases hbelow with ⟨f, hf, -⟩ | ⟨t, -, hbelow⟩
      · cases hf
      · exact ⟨"/p/src", .inl rfl, hbelow⟩
    · exact ⟨root, hroot, hp⟩
  rcases fileBelow_sources hroot' hp' with rfl | rfl <;> rcases hroot' with rfl | rfl
  · exact .inl (by decide)
  · exact .inl (by decide)
  · exact .inr (by decide)
  · exact .inr (by decide)

/-- Reports of changes to both files that lie below the nested roots. -/
def lostEdits : List FileChange :=
  [⟨"/p/src/notes.txt", .modified⟩, ⟨"/p/src/A.java", .modified⟩]

end IncrementalRecompiler
end Buildwright
