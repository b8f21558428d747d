-- SUMMARY: Which files a pool accepts together, the batch it makes of them, and the violation that it reports of all there are.
import Buildwright.Proofs.Generation.Acceptance

/-!
# The earliest violation

A pool compares the slots of files, whether they are sources or not. Slots of sources never meet those of
other files, so a pool accepts exactly the files that are `Compatible`: the classes of the sources are
distinct and not reserved, and the bare paths of the other files are distinct.

A run goes through the generators, and through the files of each. It ends well exactly if every generator
does and all files together are compatible. Otherwise it fails for the first violation that it comes to,
whatever generators stand behind it.
-/
namespace Buildwright

/-! ## Slots -/

namespace GeneratedFile

/-- The path of a file without any of the `./` at its beginning. -/
def barePath (f : GeneratedFile) : String :=
  String.ofList (dropCurrent f.path.toList)

/-- Two files are in each other's way: they are sources of one class, or none of them is a source and
    their bare paths are the same. -/
def Clashes (f g : GeneratedFile) : Prop :=
  (f.isSource = true ∧ g.isSource = true ∧ f.className = g.className) ∨
    (f.isSource = false ∧ g.isSource = false ∧ f.barePath = g.barePath)

instance (f g : GeneratedFile) : Decidable (f.Clashes g) :=
  inferInstanceAs (Decidable (_ ∨ _))

variable {f g : GeneratedFile}

theorem dropCurrent_suffix (path : List Char) : dropCurrent path <:+ path := by
  fun_induction dropCurrent path with
  | case1 rest ih => exact ih.trans ⟨['.', '/'], rfl⟩
  | case2 path _ => exact List.suffix_rfl

theorem slot_of_not_isSource (h : f.isSource = false) : f.slot = f.barePath := by
  rw [slot, if_neg (by simp [h]), barePath]

theorem not_endsWith_barePath (h : f.isSource = false) (r : String) :
    f.barePath ≠ r ++ ClassName.sourceSuffix := by
  intro heq
  obtain ⟨dropped, hdropped⟩ := dropCurrent_suffix f.path.toList
  have hsource : f.isSource = true := by
    refine isSource_iff.2 ⟨String.ofList (dropped ++ r.toList), String.toList_inj.1 ?_⟩
    have hbare : dropCurrent f.path.toList = r.toList ++ ClassName.sourceSuffix.toList := by
      simpa [barePath] using congrArg String.toList heq
    rw [← hdropped, hbare]
    simp
  rw [h] at hsource
  cases hsource

/-- The slot of a source is never that of another file, since only the former ends as sources do. -/
theorem slot_ne_of_isSource (hf : f.isSource = true) (hg : g.isSource = false) : f.slot ≠ g.slot := by
  rw [slot_of_isSource hf, slot_of_not_isSource hg]
  exact fun heq => not_endsWith_barePath hg _ heq.symm

/-- Two files have one slot exactly if they are in each other's way. -/
theorem slot_eq_iff : f.slot = g.slot ↔ f.Clashes g := by
  unfold Clashes
  cases hf : f.isSource with
  | true =>
    cases hg : g.isSource with
    | true =>
      have hinj : f.stagingPath = g.stagingPath ↔ f.className = g.className :=
        ClassName.stagingPath_ofPath_inj
      simpa [slot_of_isSource hf, slot_of_isSource hg] using hinj
    | false => simpa using slot_ne_of_isSource hf hg
  | false =>
    cases hg : g.isSource with
    | true => simpa using (slot_ne_of_isSource hg hf).symm
    | false => simp [slot_of_not_isSource hf, slot_of_not_isSource hg]

/-- Two paths of sources may lead to one class, and one of another file may be the staging path. -/
example :
    Clashes ⟨.generic, "src/main/java/a/B.java", .empty⟩ ⟨.rest, "./a\x5cB.java", .empty⟩ ∧
    ¬ Clashes ⟨.generic, "a/B.java", .empty⟩ ⟨.generic, "src/main/java/a/B.java/", .empty⟩ := by
  decide +kernel

end GeneratedFile

namespace GeneratorPool

open GeneratedFile

variable {pool : GeneratorPool} {ctx : GenerationContext} {d : Disk} {reserved : Option String}
  {files produced files' : List GeneratedFile} {f : GeneratedFile} {e : GenerationError}

/-! ## Compatible files -/

/-- Files that can stand in one batch beside the reserved class. -/
structure Compatible (reserved : Option String) (files : List GeneratedFile) : Prop where
  classNames_nodup : ((files.filter (·.isSource)).map (·.className)).Nodup
  barePaths_nodup : ((files.filter (!·.isSource)).map (·.barePath)).Nodup
  not_reserved : ∀ f ∈ files.filter (·.isSource), reserved ≠ some f.className

theorem slots_nodup_iff : (files.map (·.slot)).Nodup ↔
    ((files.filter (·.isSource)).map (·.className)).Nodup ∧
      ((files.filter (!·.isSource)).map (·.barePath)).Nodup := by
  simp only [List.Nodup, List.pairwise_map, List.pairwise_filter, ← List.pairwise_and_iff, ne_eq,
    slot_eq_iff, Clashes, Bool.not_eq_true']
  refine List.Pairwise.iff ?_
  grind

/-- The slots of files say whether the files are compatible. -/
theorem accepted_iff : Accepted reserved files ↔ Compatible reserved files := by
  constructor
  · intro h
    obtain ⟨hclasses, hpaths⟩ := slots_nodup_iff.1 h.slots_nodup
    exact ⟨hclasses, hpaths, h.not_reserved⟩
  · intro h
    exact ⟨slots_nodup_iff.2 ⟨h.classNames_nodup, h.barePaths_nodup⟩, h.not_reserved⟩

theorem compatible_nil : Compatible reserved [] :=
  accepted_iff.1 accepted_nil

theorem Compatible.of_append (h : Compatible reserved (files ++ produced)) :
    Compatible reserved files := by
  obtain ⟨hslots, hreserved⟩ := accepted_iff.2 h
  refine accepted_iff.1 ⟨?_, ?_⟩
  · rw [List.map_append] at hslots
    exact hslots.of_append_left
  · rw [List.filter_append] at hreserved
    exact fun f hf => hreserved f (List.mem_append_left _ hf)

/-- What a pool says of a file that it does not put behind accepted files. -/
inductive Refused (reserved : Option String) (files : List GeneratedFile) (f : GeneratedFile) :
    GenerationError → Prop
  | reserved (hsource : f.isSource = true) (hname : reserved = some f.className) :
    Refused reserved files f (.reservedName f.className)
  | duplicate (hfree : ¬ (f.isSource = true ∧ reserved = some f.className))
    (hclash : ∃ g ∈ files, g.Clashes f) : Refused reserved files f (.duplicatePath f.path)

theorem mem_slots_iff : f.slot ∈ files.map (·.slot) ↔ ∃ g ∈ files, g.Clashes f := by
  simp only [List.mem_map, slot_eq_iff]

theorem accept_eq_error : accept reserved files f = .error e ↔ Refused reserved files f e := by
  constructor
  · intro h
    unfold accept at h
    split at h
    · next hreserved =>
      cases h
      exact .reserved hreserved.1 hreserved.2
    · next hfree =>
      split at h
      · next hslot =>
        cases h
        exact .duplicate hfree (mem_slots_iff.1 hslot)
      · cases h
  · rintro (⟨hsource, hname⟩ | ⟨hfree, hclash⟩)
    · rw [accept, if_pos ⟨hsource, hname⟩]
    · rw [accept, if_neg hfree, if_pos (mem_slots_iff.2 hclash)]

/-- Behind compatible files, a pool accepts the file that is compatible with them. -/
theorem accept_eq_ok (h : Compatible reserved files) :
    accept reserved files f = .ok files' ↔
      Compatible reserved (files ++ [f]) ∧ files' = files ++ [f] := by
  constructor
  · intro hf
    have haccepted := accept_accepted (accepted_iff.2 h) hf
    have heq : files' = files ++ [f] := by
      unfold accept at hf
      split at hf
      · cases hf
      · split at hf <;> cases hf
        rfl
    exact ⟨accepted_iff.1 (heq ▸ haccepted), heq⟩
  · rintro ⟨hboth, rfl⟩
    obtain ⟨hslots, hreserved⟩ := accepted_iff.2 hboth
    have hfree : ¬ (f.isSource = true ∧ reserved = some f.className) := fun ⟨hsource, hname⟩ =>
      hreserved f (List.mem_filter.2 ⟨by simp, hsource⟩) hname
    have hslot : f.slot ∉ files.map (·.slot) := by
      rw [List.map_append] at hslots
      exact fun hmem => List.disjoint_of_nodup_append hslots hmem (by simp)
    rw [accept, if_neg hfree, if_neg hslot]

theorem foldlM_accept_eq_ok (h : Compatible reserved files) :
    produced.foldlM (accept reserved) files = .ok files' ↔
      Compatible reserved (files ++ produced) ∧ files' = files ++ produced := by
  -- The files that have been accepted are compatible, so each further one is judged beside all of them.
  induction produced generalizing files with
  | nil =>
    rw [List.foldlM_nil, List.append_nil]
    exact ⟨fun heq => ⟨h, (Except.ok.inj heq).symm⟩, fun heq => by rw [heq.2]; rfl⟩
  | cons f rest ih =>
    rw [List.foldlM_cons, bind_eq_ok, List.append_cons]
    constructor
    · rintro ⟨next, hnext, hrest⟩
      obtain ⟨hcompatible, rfl⟩ := (accept_eq_ok h).1 hnext
      exact (ih hcompatible).1 hrest
    · rintro ⟨hall, heq⟩
      have hcompatible := hall.of_append
      exact ⟨files ++ [f], (accept_eq_ok h).2 ⟨hcompatible, rfl⟩, (ih hcompatible).2 ⟨hall, heq⟩⟩

/-! ## Generators -/

/-- What ends a run at a generator, behind the files of the generators before it: the failure of its own, or
    the first of its files that is refused. -/
inductive AtFault (reserved : Option String) (ctx : GenerationContext) (d : Disk)
    (files : List GeneratedFile) (g : Generator) : GenerationError → Prop
  | own {e : GenerationError} (hfails : g.generate ctx d = .error e) :
    AtFault reserved ctx d files g e
  | file {before after : List GeneratedFile} {f : GeneratedFile} {e : GenerationError}
    (hproduces : g.generate ctx d = .ok (before ++ f :: after))
    (hbefore : Compatible reserved (files ++ before))
    (hrefused : Refused reserved (files ++ before) f e) : AtFault reserved ctx d files g e

/-- The generators produce these lists of files, in this order. -/
def Outputs (ctx : GenerationContext) (d : Disk) (generators : List Generator)
    (parts : List (List GeneratedFile)) : Prop :=
  List.Forall₂ (fun g part => g.generate ctx d = .ok part) generators parts

variable {g : Generator} {generators : List Generator}

theorem runGenerator_eq_ok (h : Compatible reserved files) :
    runGenerator reserved ctx d files g = .ok files' ↔
      ∃ part, g.generate ctx d = .ok part ∧ Compatible reserved (files ++ part) ∧
        files' = files ++ part := by
  rw [runGenerator, bind_eq_ok]
  simp only [foldlM_accept_eq_ok h]

theorem runGenerator_eq_error (h : Compatible reserved files) :
    runGenerator reserved ctx d files g = .error e ↔ AtFault reserved ctx d files g e := by
  rw [runGenerator, bind_eq_error]
  constructor
  · rintro (hfails | ⟨part, hpart, hfails⟩)
    · exact .own hfails
    · obtain ⟨before, f, after, files', rfl, hbefore, hrefused⟩ := foldlM_eq_error.1 hfails
      obtain ⟨hcompatible, rfl⟩ := (foldlM_accept_eq_ok h).1 hbefore
      exact .file hpart hcompatible (accept_eq_error.1 hrefused)
  · rintro (hfails | ⟨hproduces, hbefore, hrefused⟩)
    · exact .inl hfails
    · exact .inr ⟨_, hproduces, foldlM_eq_error.2
        ⟨_, _, _, _, rfl, (foldlM_accept_eq_ok h).2 ⟨hbefore, rfl⟩, accept_eq_error.2 hrefused⟩⟩

theorem foldlM_runGenerator_eq_ok (h : Compatible reserved files) :
    generators.foldlM (runGenerator reserved ctx d) files = .ok files' ↔
      ∃ parts, Outputs ctx d generators parts ∧ Compatible reserved (files ++ parts.flatten) ∧
        files' = files ++ parts.flatten := by
  induction generators generalizing files with
  | nil =>
    rw [List.foldlM_nil]
    constructor
    · intro heq
      cases heq
      exact ⟨[], .nil, by simpa using h, by simp⟩
    · rintro ⟨parts, houtputs, -, rfl⟩
      cases houtputs
      simp [pure, Except.pure]
  | cons g rest ih =>
    rw [List.foldlM_cons, bind_eq_ok]
    constructor
    · rintro ⟨next, hnext, hrest⟩
      obtain ⟨part, hpart, hcompatible, rfl⟩ := (runGenerator_eq_ok h).1 hnext
      obtain ⟨parts, houtputs, hall, rfl⟩ := (ih hcompatible).1 hrest
      refine ⟨part :: parts, .cons hpart houtputs, ?_, ?_⟩
      · simpa using hall
      · simp
    · rintro ⟨_, houtputs, hall, rfl⟩
      cases houtputs with
      | @cons _ part _ parts hpart houtputs =>
        have hassoc : files ++ (part :: parts).flatten = files ++ part ++ parts.flatten := by simp
        rw [hassoc] at hall
        have hcompatible := hall.of_append
        exact ⟨files ++ part, (runGenerator_eq_ok h).2 ⟨part, hpart, hcompatible, rfl⟩,
          (ih hcompatible).2 ⟨parts, houtputs, hall, hassoc⟩⟩

/-! ## Runs of a pool -/

/-- The class name that a pool reserves. -/
def reservedName (pool : GeneratorPool) : Option String :=
  pool.bootstrap.map (·.className)

/-- The bootstrap source, if there is one, has a class name. -/
def ValidBootstrap (pool : GeneratorPool) : Prop :=
  ∀ b, pool.bootstrap = some b → ClassName.isValid b.className = true

/-- The violation that a run of a pool comes to first, and the generators that have been run by then: none
    for a bootstrap source without a class name, else those up to the first that is at fault. -/
inductive EarliestViolation (pool : GeneratorPool) (ctx : GenerationContext) (d : Disk) :
    List Generator → GenerationError → Prop
  | bootstrap {b : Bootstrap} (hbootstrap : pool.bootstrap = some b)
    (hinvalid : ClassName.isValid b.className = false) :
    EarliestViolation pool ctx d [] (.invalidClassName b.className)
  | generator {before after : List Generator} {g : Generator} {parts : List (List GeneratedFile)}
    {e : GenerationError} (hvalid : pool.ValidBootstrap)
    (hgenerators : pool.generators = before ++ g :: after) (houtputs : Outputs ctx d before parts)
    (hcompatible : Compatible pool.reservedName parts.flatten)
    (hfault : AtFault pool.reservedName ctx d parts.flatten g e) :
    EarliestViolation pool ctx d (before ++ [g]) e

theorem checkBootstrap_eq_ok {u : Unit} :
    checkBootstrap pool.bootstrap = .ok u ↔ pool.ValidBootstrap := by
  unfold checkBootstrap ValidBootstrap
  cases pool.bootstrap with
  | none => simp
  | some b => simp

theorem checkBootstrap_eq_error : checkBootstrap pool.bootstrap = .error e ↔
    ∃ b, pool.bootstrap = some b ∧ ClassName.isValid b.className = false ∧
      e = .invalidClassName b.className := by
  unfold checkBootstrap
  cases pool.bootstrap with
  | none => simp
  | some b =>
    cases hvalid : ClassName.isValid b.className with
    | true => simp [hvalid]
    | false =>
      constructor
      · intro h
        simp only [hvalid, Bool.false_eq_true, if_false] at h
        cases h
        exact ⟨b, rfl, hvalid, rfl⟩
      · rintro ⟨_, hb, -, rfl⟩
        cases hb
        simp only [hvalid, Bool.false_eq_true, if_false]

theorem generate_eq_error_iff :
    pool.generate ctx d = .error e ↔ ∃ ran, EarliestViolation pool ctx d ran e := by
  have hnil : Compatible pool.reservedName [] := compatible_nil
  rw [generate, bind_eq_error, checkBootstrap_eq_error]
  constructor
  · rintro (⟨b, hbootstrap, hinvalid, rfl⟩ | ⟨u, hvalid, hfails⟩)
    · exact ⟨[], .bootstrap hbootstrap hinvalid⟩
    · obtain hfails | ⟨_, -, hnever⟩ := bind_eq_error.1 hfails
      · obtain ⟨before, g, after, files, hgenerators, hbefore, hfault⟩ := foldlM_eq_error.1 hfails
        obtain ⟨parts, houtputs, hcompatible, rfl⟩ := (foldlM_runGenerator_eq_ok hnil).1 hbefore
        exact ⟨before ++ [g], .generator (checkBootstrap_eq_ok.1 hvalid) hgenerators houtputs hcompatible
          ((runGenerator_eq_error hcompatible).1 hfault)⟩
      · cases hnever
  · rintro ⟨ran, ⟨hbootstrap, hinvalid⟩ | ⟨hvalid, hgenerators, houtputs, hcompatible, hfault⟩⟩
    · exact .inl ⟨_, hbootstrap, hinvalid, rfl⟩
    · refine .inr ⟨(), checkBootstrap_eq_ok.2 hvalid, bind_eq_error.2 (.inl ?_)⟩
      rw [hgenerators]
      exact foldlM_eq_error.2 ⟨_, _, _, _, rfl,
        (foldlM_runGenerator_eq_ok hnil).2 ⟨_, houtputs, hcompatible, rfl⟩,
        (runGenerator_eq_error hcompatible).2 hfault⟩

theorem generate_eq_ok_iff {b : Batch} :
    pool.generate ctx d = .ok b ↔ pool.ValidBootstrap ∧ ∃ parts,
      Outputs ctx d pool.generators parts ∧ Compatible pool.reservedName parts.flatten ∧
        b = Batch.ofFiles pool.bootstrap parts.flatten := by
  have hnil : Compatible pool.reservedName [] := compatible_nil
  rw [generate, bind_eq_ok]
  constructor
  · rintro ⟨u, hvalid, hrest⟩
    obtain ⟨files, hfiles, hb⟩ := bind_eq_ok.1 hrest
    obtain ⟨parts, houtputs, hcompatible, rfl⟩ := (foldlM_runGenerator_eq_ok hnil).1 hfiles
    exact ⟨checkBootstrap_eq_ok.1 hvalid, parts, houtputs, hcompatible, (Except.ok.inj hb).symm⟩
  · rintro ⟨hvalid, parts, houtputs, hcompatible, rfl⟩
    exact ⟨(), checkBootstrap_eq_ok.2 hvalid, bind_eq_ok.2
      ⟨parts.flatten, (foldlM_runGenerator_eq_ok hnil).2 ⟨parts, houtputs, hcompatible, rfl⟩, rfl⟩⟩

/-- A violation stays the earliest whatever generators stand behind those that have been run. -/
theorem EarliestViolation.of_ran {ran : List Generator} (h : EarliestViolation pool ctx d ran e)
    (later : List Generator) :
    EarliestViolation { pool with generators := ran ++ later } ctx d ran e := by
  cases h with
  | bootstrap hbootstrap hinvalid => exact .bootstrap hbootstrap hinvalid
  | generator hvalid _ houtputs hcompatible hfault =>
    exact .generator hvalid (List.append_assoc _ _ _) houtputs hcompatible hfault

theorem EarliestViolation.isPrefix {ran : List Generator} (h : EarliestViolation pool ctx d ran e) :
    ran <+: pool.generators := by
  cases h with
  | bootstrap _ _ => exact List.nil_prefix
  | @generator before after g _ _ _ hgenerators _ _ _ => exact ⟨after, by simp [hgenerators]⟩

/-- The files of a batch: those of the generators, with the bootstrap source behind them unless there are
    none. -/
theorem ofFiles_eq (bootstrap : Option Bootstrap) (files : List GeneratedFile) :
    Batch.ofFiles bootstrap files =
      ⟨files ++ if files = [] then [] else (bootstrap.map (·.file)).toList,
        if files = [] then none else bootstrap.map (·.className)⟩ := by
  cases bootstrap with
  | none => simp [Batch.ofFiles]
  | some b =>
    by_cases hfiles : files = []
    · simp [Batch.ofFiles, hfiles]
    · simp [Batch.ofFiles, hfiles]

/-- A run of a pool ends well exactly if the bootstrap source has a class name, every generator ends well
    and their files are compatible. The batch has these files in their order and the bootstrap source
    behind them, which is left out, and no class reserved, exactly if there are none.

    Any other run fails for the violation that it comes to first. It needs no more than the generators up to
    there: with any others behind them it fails for the same. -/
theorem generate_ok_or_earliestViolation (pool : GeneratorPool) (ctx : GenerationContext) (d : Disk) :
    (∀ b, pool.generate ctx d = .ok b ↔ pool.ValidBootstrap ∧ ∃ parts,
      Outputs ctx d pool.generators parts ∧ Compatible pool.reservedName parts.flatten ∧
      b.files = parts.flatten ++
        (if parts.flatten = [] then [] else (pool.bootstrap.map (·.file)).toList) ∧
      b.bootstrapClass = if parts.flatten = [] then none else pool.reservedName) ∧
    (∀ e, pool.generate ctx d = .error e ↔ ∃ ran, EarliestViolation pool ctx d ran e) ∧
    (∀ ran e, EarliestViolation pool ctx d ran e → ran <+: pool.generators ∧
      ∀ later, generate { pool with generators := ran ++ later } ctx d = .error e) := by
  refine ⟨fun b => ?_, fun e => generate_eq_error_iff, fun ran e h => ⟨h.isPrefix, fun later => ?_⟩⟩
  · rw [generate_eq_ok_iff]
    simp only [ofFiles_eq, reservedName]
    cases b
    simp only [Batch.mk.injEq]
  · exact generate_eq_error_iff.2 ⟨ran, h.of_ran later⟩

end GeneratorPool
end Buildwright
