-- SUMMARY: What the evaluation of changes finds of each file, and how its record reflects the verdicts.
import Buildwright.Dev.Recompiler
import Buildwright.Proofs.Entries
import Buildwright.Proofs.Path

/-!
# The evaluation of changes

On a disk that does not change, a file is always judged alike: `verdict` says how, without regard to the
other changes. The invariant `Judges` says that the states, the ignored files and the batches of stale
files are those of the verdicts of the files seen so far, whichever of the spellings of a file are
recorded. Repeated changes of a file leave it as it is. For canonical paths, which have one spelling each,
`Reflects` says the same of the entries of the record.
-/
namespace Buildwright

/-! ## Registries -/

/-- A registry that arises from registering providers. -/
inductive ProviderRegistry.Built : ProviderRegistry → Prop where
  | empty : Built .empty
  | register {r r' : ProviderRegistry} {p : CompilationProvider} (h : Built r)
      (hp : r.register p = .ok r') : Built r'

/-- Every provider is found under its own extension. -/
theorem ProviderRegistry.Built.extension_eq {r : ProviderRegistry} (h : r.Built) {e : String}
    {p : CompilationProvider} (hp : r.find? e = some p) : p.extension = e := by
  induction h generalizing e p with
  | empty => cases hp
  | @register r r' q _ hq ih =>
    unfold ProviderRegistry.register at hq
    split at hq
    · cases hq
    · cases hq
      rw [ProviderRegistry.find?, SortedMap.find?_insert] at hp
      split at hp
      · next heq =>
        cases hp
        exact (Std.LawfulEqOrd.eq_of_compare heq).symm
      · exact ih hp

/-! ## Verdicts -/

/-- What becomes of a changed file. -/
inductive Verdict where
  | ignored
  | fresh
  | stale (extension : String)

/-- The state that a verdict records. -/
def Verdict.state? : Verdict → Option FileState
  | ignored => none
  | fresh => some .fresh
  | stale _ => some .stale

namespace IncrementalRecompiler

variable {r : IncrementalRecompiler} {d : Disk}

/-- How a file with a provider and a source root is judged. -/
def verdictWith (r : IncrementalRecompiler) (d : Disk) (p : Path) (provider : CompilationProvider)
    (sources : Path) : Verdict :=
  match d.modifiedMillis p with
  | .error _ => .ignored
  | .ok time =>
    if provider.isStale d p sources r.context.output provider.extension time then
      .stale provider.extension
    else .fresh

/-- How a file is judged. -/
def verdict (r : IncrementalRecompiler) (d : Disk) (p : Path) : Verdict :=
  ((r.registry.forPath? p).bind fun provider =>
    (r.sourceRootOf p).map (r.verdictWith d p provider)).getD .ignored

theorem verdict_of_some {p sources : Path} {provider : CompilationProvider}
    (hprovider : r.registry.forPath? p = some provider) (hsources : r.sourceRootOf p = some sources) :
    r.verdict d p = r.verdictWith d p provider sources := by
  simp only [verdict, hprovider, hsources, Option.bind_some, Option.map_some, Option.getD_some]

theorem verdict_of_none {p : Path} (h : ∀ provider sources,
    r.registry.forPath? p = some provider → r.sourceRootOf p = some sources → False) :
    r.verdict d p = .ignored := by
  unfold verdict
  cases hprovider : r.registry.forPath? p with
  | none => rfl
  | some provider =>
    cases hsources : r.sourceRootOf p with
    | none => rfl
    | some sources => exact (h provider sources hprovider hsources).elim

theorem verdict_of_no_provider {p : Path} (h : r.registry.forPath? p = none) :
    r.verdict d p = .ignored := by
  rw [verdict, h]
  rfl

theorem verdict_of_no_root {p : Path} (h : r.sourceRootOf p = none) : r.verdict d p = .ignored := by
  rw [verdict, h]
  cases r.registry.forPath? p <;> rfl

/-- A stale file belongs to the provider of its extension. -/
theorem provider_of_stale (hr : r.registry.Built) {p : Path} {e : String}
    (h : r.verdict d p = .stale e) :
    p.dottedExtension? = some e ∧ ∃ provider, r.registry.find? e = some provider := by
  cases hprovider : r.registry.forPath? p with
  | none =>
    rw [verdict_of_no_provider hprovider] at h
    cases h
  | some provider =>
    cases hsources : r.sourceRootOf p with
    | none =>
      rw [verdict_of_no_root hsources] at h
      cases h
    | some sources =>
      rw [verdict_of_some hprovider hsources, verdictWith] at h
      split at h
      · cases h
      · split at h
        · cases h
          obtain ⟨e, he, hfind⟩ := Option.bind_eq_some_iff.1 hprovider
          rw [hr.extension_eq hfind]
          exact ⟨he, provider, hfind⟩
        · cases h

end IncrementalRecompiler

/-! ## The record of an evaluation -/

namespace Evaluation

/-- Whether a file, however it is spelled, is in the batch of an extension. -/
def Queued (acc : Evaluation) (e : String) (p : Path) : Prop :=
  ∃ files, acc.stale.find? e = some files ∧ files.contains p = true

/-- The record holds the verdicts of the files seen so far, in one of their spellings, and nothing
    else. -/
structure Judges (acc : Evaluation) (verdict : Path → Verdict) (seen : List Path) : Prop where
  states : ∀ p s, acc.states.find? p = some s ↔
    ∃ q ∈ seen, compare p q = .eq ∧ (verdict q).state? = some s
  ignored : ∀ p, p ∈ acc.ignored ↔ p ∈ seen ∧ verdict p = .ignored
  stale : ∀ e p, acc.Queued e p ↔ ∃ q ∈ seen, compare p q = .eq ∧ verdict q = .stale e
  states_seen : ∀ p ∈ acc.states.keys, p ∈ seen
  stale_seen : ∀ e files, acc.stale.find? e = some files → ∀ p ∈ files.keys, p ∈ seen
  /-- There is a batch only for an extension with stale files. -/
  occupied : ∀ e files, acc.stale.find? e = some files → files.keys ≠ []

variable {acc : Evaluation} {verdict : Path → Verdict} {seen : List Path} {p : Path}

/-- The record with a file marked as ignored. -/
def ignore (acc : Evaluation) (p : Path) : Evaluation :=
  { acc with ignored := acc.ignored ++ [p] }

/-- The record with the state of a file. -/
def mark (acc : Evaluation) (p : Path) (s : FileState) : Evaluation :=
  { acc with states := acc.states.insert p s }

/-- The record with a file in the batch of an extension. -/
def addStale (acc : Evaluation) (e : String) (p : Path) : Evaluation :=
  { acc with stale := acc.stale.insert e (((acc.stale.find? e).getD .empty).add p) }

theorem find?_addStale (acc : Evaluation) (e e' : String) (p : Path) :
    (acc.addStale e p).stale.find? e' =
      if e' = e then some (((acc.stale.find? e).getD .empty).add p) else acc.stale.find? e' := by
  rw [addStale, SortedMap.find?_insert]
  simp only [Std.LawfulEqOrd.compare_eq_iff_eq]

/-- One more file is in its batch, next to those that were there. -/
theorem queued_addStale {e e' : String} {q : Path} :
    (acc.addStale e p).Queued e' q ↔ (e' = e ∧ compare q p = .eq) ∨ acc.Queued e' q := by
  unfold Queued
  rw [find?_addStale]
  by_cases he : e' = e
  · subst he
    cases hfind : acc.stale.find? e' with
    | none =>
      have hempty : (SortedMap.empty : SortedSet Path).contains q = false := rfl
      simp [SortedMap.contains_add, hempty]
    | some files => simp [SortedMap.contains_add]
  · simp [he]

/-- The files of a batch are the added one and those that were there. -/
theorem mem_keys_addStale {e e' : String} {files : SortedSet Path} {q : Path}
    (hfiles : (acc.addStale e p).stale.find? e' = some files) (hq : q ∈ files.keys) :
    q = p ∨ ∃ files, acc.stale.find? e' = some files ∧ q ∈ files.keys := by
  rw [find?_addStale] at hfiles
  split at hfiles
  · next he =>
    subst he
    cases hfiles
    refine (SortedMap.mem_keys_of_mem_insert hq).imp id fun hq => ?_
    cases hfind : acc.stale.find? e' with
    | none =>
      rw [hfind] at hq
      cases hq
    | some files =>
      rw [hfind] at hq
      exact ⟨files, rfl, hq⟩
  · exact .inr ⟨files, hfiles, hq⟩

/-! ## One more file -/

namespace Judges

theorem empty (verdict : Path → Verdict) : Judges ⟨.empty, [], .empty⟩ verdict [] where
  states p s := by simp [SortedMap.find?_empty]
  ignored p := by simp
  stale e p := by simp [Queued, SortedMap.find?_empty]
  states_seen p hp := by cases hp
  stale_seen e files hfiles := by cases hfiles
  occupied e files hfiles := by cases hfiles

/-- A file with another verdict than `ignored` gets its state. -/
theorem states_mark (h : acc.Judges verdict seen)
    (hsame : ∀ q ∈ seen, compare p q = .eq → verdict q = verdict p) {s : FileState}
    (hs : (verdict p).state? = some s) (q : Path) (t : FileState) :
    (acc.mark p s).states.find? q = some t ↔
      ∃ q' ∈ seen ++ [p], compare q q' = .eq ∧ (verdict q').state? = some t := by
  rw [mark, SortedMap.find?_insert]
  split
  · next hq =>
    constructor
    · rintro ⟨⟩
      exact ⟨p, by simp, hq, hs⟩
    · rintro ⟨q', hq', hcompare, ht⟩
      have hjudged : verdict q' = verdict p := by
        rcases List.mem_append.1 hq' with hq' | hq'
        · exact hsame q' hq' (Std.TransCmp.eq_trans (Std.OrientedCmp.eq_symm hq) hcompare)
        · rw [List.mem_singleton.1 hq']
      rw [hjudged, hs] at ht
      exact ht
  · next hq =>
    simp [h.states, or_and_right, exists_or, hq]

theorem mem_ignored_append (h : acc.Judges verdict seen) (hp : verdict p ≠ .ignored) (q : Path) :
    q ∈ acc.ignored ↔ q ∈ seen ++ [p] ∧ verdict q = .ignored := by
  rw [h.ignored, List.mem_append, List.mem_singleton]
  by_cases hq : q = p
  · simp [hq, hp]
  · simp [hq]

theorem queued_append (h : acc.Judges verdict seen) (hp : ∀ e, verdict p ≠ .stale e) (e : String)
    (q : Path) : acc.Queued e q ↔ ∃ q' ∈ seen ++ [p], compare q q' = .eq ∧ verdict q' = .stale e := by
  rw [h.stale]
  simp [or_and_right, exists_or, hp e]

/-- The files that are recorded have been seen, also when one more has. -/
theorem stale_seen_append (h : acc.Judges verdict seen) (e : String) (files : SortedSet Path)
    (hfiles : acc.stale.find? e = some files) (q : Path) (hq : q ∈ files.keys) : q ∈ seen ++ [p] :=
  List.mem_append_left _ (h.stale_seen e files hfiles q hq)

theorem states_seen_mark (h : acc.Judges verdict seen) (s : FileState) :
    ∀ q ∈ (acc.mark p s).states.keys, q ∈ seen ++ [p] := by
  intro q hq
  rcases SortedMap.mem_keys_of_mem_insert hq with rfl | hq
  · simp
  · exact List.mem_append_left _ (h.states_seen q hq)

theorem ignore (h : acc.Judges verdict seen) (hp : verdict p = .ignored) :
    (acc.ignore p).Judges verdict (seen ++ [p]) where
  states q s := by
    show acc.states.find? q = some s ↔ _
    rw [h.states]
    simp [or_and_right, exists_or, hp, Verdict.state?]
  ignored q := by
    show q ∈ acc.ignored ++ [p] ↔ _
    rw [List.mem_append, h.ignored, List.mem_append, List.mem_singleton]
    by_cases hq : q = p
    · simp [hq, hp]
    · simp [hq]
  stale := h.queued_append fun e he => by rw [hp] at he; cases he
  states_seen q hq := List.mem_append_left _ (h.states_seen q hq)
  stale_seen := h.stale_seen_append
  occupied := h.occupied

theorem fresh (h : acc.Judges verdict seen)
    (hsame : ∀ q ∈ seen, compare p q = .eq → verdict q = verdict p) (hp : verdict p = .fresh) :
    (acc.mark p .fresh).Judges verdict (seen ++ [p]) where
  states := h.states_mark hsame (by rw [hp]; rfl)
  ignored := h.mem_ignored_append fun he => by rw [hp] at he; cases he
  stale := h.queued_append fun e he => by rw [hp] at he; cases he
  states_seen := h.states_seen_mark .fresh
  stale_seen := h.stale_seen_append
  occupied := h.occupied

theorem stale_addStale (h : acc.Judges verdict seen)
    (hsame : ∀ q ∈ seen, compare p q = .eq → verdict q = verdict p) {e : String}
    (hp : verdict p = .stale e) :
    ((acc.mark p .stale).addStale e p).Judges verdict (seen ++ [p]) where
  states := h.states_mark hsame (by rw [hp]; rfl)
  ignored := h.mem_ignored_append fun he => by rw [hp] at he; cases he
  stale e' q := by
    rw [queued_addStale]
    show _ ∨ acc.Queued e' q ↔ _
    rw [h.stale]
    simp only [List.mem_append, List.mem_singleton, or_and_right, exists_or, exists_eq_left, hp,
      Verdict.stale.injEq]
    rw [or_comm, and_comm, @eq_comm _ e e']
  states_seen := h.states_seen_mark .stale
  stale_seen e' files hfiles q hq := by
    rcases mem_keys_addStale hfiles hq with rfl | ⟨files, hfiles, hq⟩
    · simp
    · exact h.stale_seen_append e' files hfiles q hq
  occupied e' files hfiles hnil := by
    rw [find?_addStale] at hfiles
    split at hfiles
    · cases hfiles
      obtain ⟨q, hq, -⟩ := SortedMap.contains_iff.1
        (show (SortedMap.add _ p).contains p = true by simp [SortedMap.contains_add])
      rw [hnil] at hq
      cases hq
    · exact h.occupied e' files hfiles hnil

/-- A file that is ignored has no state that could be taken away. -/
theorem erase_states (h : acc.Judges verdict seen)
    (hsame : ∀ q ∈ seen, compare p q = .eq → verdict q = verdict p) (hp : verdict p = .ignored) :
    acc.states.erase p = acc.states := by
  apply SortedMap.erase_of_find?
  refine Option.eq_none_iff_forall_ne_some.2 fun s hs => ?_
  obtain ⟨q, hq, hcompare, hstate⟩ := (h.states p s).1 hs
  rw [hsame q hq hcompare, hp] at hstate
  cases hstate

end Judges
end Evaluation

/-! ## A list of changes -/

namespace IncrementalRecompiler

variable {r : IncrementalRecompiler} {d : Disk} {acc : Evaluation} {seen : List Path}

/-- The files of the changes that are no deletions. -/
def changedFiles (changes : List FileChange) : List Path :=
  (changes.filter fun c => c.kind ≠ .deleted).map (·.path)

theorem mem_changedFiles {changes : List FileChange} {p : Path} :
    p ∈ changedFiles changes ↔ ∃ c ∈ changes, c.path = p ∧ c.kind ≠ .deleted := by
  simp [changedFiles, and_comm, and_assoc]

theorem canonical_of_mem_changedFiles {changes : List FileChange}
    (h : ∀ c ∈ changes, c.path.Canonical) {p : Path} (hp : p ∈ changedFiles changes) :
    p.Canonical := by
  obtain ⟨c, hc, rfl, -⟩ := mem_changedFiles.1 hp
  exact h c hc

/-- One more change that is no deletion is evaluated by the verdict of its file. -/
theorem evaluateChange_judges (h : acc.Judges (r.verdict d) seen) {c : FileChange}
    (hsame : ∀ q ∈ seen, compare c.path q = .eq → r.verdict d q = r.verdict d c.path)
    (hkind : c.kind ≠ .deleted) :
    (r.evaluateChange d acc c).Judges (r.verdict d) (seen ++ [c.path]) := by
  rw [evaluateChange, if_neg hkind]
  split
  · next provider sources hprovider hsources =>
    have hjudged : r.verdict d c.path = r.verdictWith d c.path provider sources :=
      verdict_of_some hprovider hsources
    unfold evaluateWith
    split
    · next e htime =>
      have hverdict : r.verdict d c.path = .ignored := by
        rw [hjudged, verdictWith, htime]
      rw [SortedMap.erase_insert, h.erase_states hsame hverdict]
      exact h.ignore hverdict
    · next time htime =>
      simp only [SortedMap.insert_insert]
      split
      · next hstale =>
        refine h.stale_addStale hsame ?_
        rw [hjudged, verdictWith, htime]
        exact if_pos hstale
      · next hstale =>
        refine h.fresh hsame ?_
        rw [hjudged, verdictWith, htime]
        exact if_neg hstale
  · next hnone =>
    exact h.ignore (verdict_of_none hnone)

theorem foldl_judges {changes : List FileChange} (h : acc.Judges (r.verdict d) seen)
    (hsame : ∀ p ∈ seen ++ changedFiles changes, ∀ q ∈ seen ++ changedFiles changes,
      compare p q = .eq → r.verdict d q = r.verdict d p) :
    (changes.foldl (r.evaluateChange d) acc).Judges (r.verdict d)
      (seen ++ changedFiles changes) := by
  induction changes generalizing acc seen with
  | nil => simpa [changedFiles] using h
  | cons c rest ih =>
    rw [List.foldl_cons]
    by_cases hkind : c.kind = .deleted
    · have hfiles : changedFiles (c :: rest) = changedFiles rest := by
        simp [changedFiles, hkind]
      rw [evaluateChange, if_pos hkind, hfiles]
      exact ih h (hfiles ▸ hsame)
    · have hfiles : seen ++ changedFiles (c :: rest) = seen ++ [c.path] ++ changedFiles rest := by
        simp [changedFiles, hkind]
      rw [hfiles] at hsame ⊢
      refine ih (evaluateChange_judges h (fun q hq => hsame c.path (by simp) q ?_) hkind) hsame
      simp [hq]

/-- The evaluation of changes records the verdicts of the changed files, if verdicts do not depend on how
    a file is spelled. -/
theorem evaluate_judges (r : IncrementalRecompiler) (d : Disk) {changes : List FileChange}
    (hsame : ∀ p ∈ changedFiles changes, ∀ q ∈ changedFiles changes,
      compare p q = .eq → r.verdict d q = r.verdict d p) :
    (r.evaluate d changes).Judges (r.verdict d) (changedFiles changes) :=
  foldl_judges (Evaluation.Judges.empty _) hsame

end IncrementalRecompiler

/-! ## Canonical paths -/

namespace Evaluation

/-- Whether a file is in the batch of an extension. -/
def InBatch (acc : Evaluation) (e : String) (p : Path) : Prop :=
  ∃ files, (e, files) ∈ acc.stale.entries ∧ p ∈ files.keys

/-- The entries of the record are the verdicts of the files seen so far, and nothing else. -/
structure Reflects (acc : Evaluation) (verdict : Path → Verdict) (seen : List Path) : Prop where
  states : ∀ p s, (p, s) ∈ acc.states.entries ↔ p ∈ seen ∧ (verdict p).state? = some s
  ignored : ∀ p, p ∈ acc.ignored ↔ p ∈ seen ∧ verdict p = .ignored
  stale : ∀ e p, acc.InBatch e p ↔ p ∈ seen ∧ verdict p = .stale e
  /-- There is a batch only for an extension with stale files. -/
  occupied : ∀ batch ∈ acc.stale.entries, ∃ p, p ∈ batch.2.keys

/-- Canonical paths are recorded as they are. -/
theorem Judges.reflects {acc : Evaluation} {verdict : Path → Verdict} {seen : List Path}
    (h : acc.Judges verdict seen) (hseen : ∀ p ∈ seen, p.Canonical) : acc.Reflects verdict seen where
  states p s := by
    constructor
    · intro hp
      have hmem : p ∈ seen := h.states_seen p (List.mem_map_of_mem hp)
      obtain ⟨q, hq, hcompare, hs⟩ :=
        (h.states p s).1 (SortedMap.find?_eq_some_iff.2 ⟨p, hp, Std.ReflOrd.compare_self⟩)
      rw [(hseen p hmem).eq_of_compare (hseen q hq) hcompare]
      exact ⟨hq, hs⟩
    · rintro ⟨hp, hs⟩
      have hfind := (h.states p s).2 ⟨p, hp, Std.ReflOrd.compare_self, hs⟩
      obtain ⟨q, hq, hcompare⟩ := SortedMap.find?_eq_some_iff.1 hfind
      have hmem : q ∈ seen := h.states_seen q (List.mem_map_of_mem hq)
      rwa [(hseen p hp).eq_of_compare (hseen q hmem) hcompare]
  ignored := h.ignored
  stale e p := by
    have hfound : acc.InBatch e p ↔ ∃ files, acc.stale.find? e = some files ∧ p ∈ files.keys := by
      simp only [InBatch, SortedMap.find?_eq_some]
    rw [hfound]
    constructor
    · rintro ⟨files, hfiles, hp⟩
      obtain ⟨q, hq, hcompare, hs⟩ := (h.stale e p).1
        ⟨files, hfiles, SortedMap.contains_iff.2 ⟨p, hp, Std.ReflOrd.compare_self⟩⟩
      rw [(hseen p (h.stale_seen e files hfiles p hp)).eq_of_compare (hseen q hq) hcompare]
      exact ⟨hq, hs⟩
    · rintro ⟨hp, hs⟩
      obtain ⟨files, hfiles, hcontains⟩ := (h.stale e p).2 ⟨p, hp, Std.ReflOrd.compare_self, hs⟩
      obtain ⟨q, hq, hcompare⟩ := SortedMap.contains_iff.1 hcontains
      refine ⟨files, hfiles, ?_⟩
      rwa [(hseen p hp).eq_of_compare (hseen q (h.stale_seen e files hfiles q hq)) hcompare]
  occupied batch hbatch :=
    List.exists_mem_of_ne_nil _ (h.occupied batch.1 batch.2 (SortedMap.find?_eq_some.2 hbatch))

end Evaluation

/-- The evaluation of changes to canonical paths reflects the verdicts of the changed files. -/
theorem IncrementalRecompiler.evaluate_reflects (r : IncrementalRecompiler) (d : Disk)
    {changes : List FileChange} (h : ∀ p ∈ changedFiles changes, p.Canonical) :
    (r.evaluate d changes).Reflects (r.verdict d) (changedFiles changes) := by
  refine (r.evaluate_judges d fun p hp q hq hcompare => ?_).reflects h
  rw [(h p hp).eq_of_compare (h q hq) hcompare]

end Buildwright
