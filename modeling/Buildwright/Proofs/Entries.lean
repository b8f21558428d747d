-- SUMMARY: The entries of sorted maps and of stores: how they are found, and which ones insertions make.
import Mathlib.Data.List.Forall2
import Mathlib.Data.List.Nodup
import Buildwright.Store

/-!
# Entries of maps and stores

A map holds at most one entry for each key, so that looking a key up and finding its entry in the list
are the same. Insertions of distinct keys give all their entries back, in another order.
-/
namespace Buildwright

namespace SortedMap

theorem keys_nodup {κ ν : Type} [Ord κ] [Std.ReflOrd κ] (m : SortedMap κ ν) : m.keys.Nodup :=
  m.keys_increasing.imp ne_of_compare_lt

/-! ## Keys that compare equal -/

section Spelling

variable {κ ν ν' : Type} [Ord κ] [Std.TransOrd κ]

theorem entries_nodup (m : SortedMap κ ν) : m.entries.Nodup :=
  List.Nodup.of_map Prod.fst m.keys_nodup

/-- A map is determined by which entries it has. -/
theorem ext_mem {m n : SortedMap κ ν} (h : ∀ e, e ∈ m.entries ↔ e ∈ n.entries) : m = n := by
  apply ext
  have hperm : m.entries.Perm n.entries :=
    (List.perm_ext_iff_of_nodup m.entries_nodup n.entries_nodup).2 h
  refine hperm.eq_of_pairwise (fun e e' _ _ hlt hgt => ?_) m.increasing n.increasing
  exact absurd rfl (ne_of_compare_lt (Std.TransCmp.lt_trans hlt hgt))

/-- A set is determined by its elements. -/
theorem ext_mem_keys {s t : SortedSet κ} (h : ∀ k, k ∈ s.keys ↔ k ∈ t.keys) : s = t := by
  have hkeys : ∀ {s : SortedSet κ} {k : κ} {u : Unit}, (k, u) ∈ s.entries ↔ k ∈ s.keys := by
    intro s k u
    constructor
    · exact fun he => List.mem_map_of_mem he
    · intro hk
      obtain ⟨e, he, rfl⟩ := List.mem_map.1 hk
      exact he
  exact ext_mem fun e => by rw [hkeys, hkeys, h]

/-- Entries whose keys compare equal are one entry. -/
theorem entry_unique {es : List (κ × ν)} (hes : es.Pairwise fun a b => compare a.1 b.1 = .lt)
    {e e' : κ × ν} (he : e ∈ es) (he' : e' ∈ es) (h : compare e.1 e'.1 = .eq) : e = e' := by
  induction es with
  | nil => cases he
  | cons d ds ih =>
    obtain ⟨hd, hds⟩ := List.pairwise_cons.1 hes
    rcases List.mem_cons.1 he with rfl | hrest
    · rcases List.mem_cons.1 he' with rfl | hrest'
      · rfl
      · rw [hd e' hrest'] at h
        cases h
    · rcases List.mem_cons.1 he' with rfl | hrest'
      · have hlt := hd e hrest
        rw [Std.OrientedCmp.eq_symm h] at hlt
        cases hlt
      · exact ih hds hrest hrest'

/-- The value at a key is that of an entry whose key compares equal. -/
theorem find?_eq_some_iff {m : SortedMap κ ν} {k : κ} {v : ν} :
    m.find? k = some v ↔ ∃ k', (k', v) ∈ m.entries ∧ compare k k' = .eq := by
  unfold find?
  constructor
  · intro h
    obtain ⟨⟨k', v'⟩, he, rfl⟩ := Option.map_eq_some_iff.1 h
    exact ⟨k', List.mem_of_find?_eq_some he, by simpa using List.find?_some he⟩
  · rintro ⟨k', hmem, hk⟩
    cases hf : m.entries.find? fun e => compare k e.1 == .eq with
    | none => simpa [hk] using List.find?_eq_none.1 hf (k', v) hmem
    | some e =>
      have hke : compare k e.1 = .eq := by simpa using List.find?_some hf
      have he : e = (k', v) :=
        entry_unique m.increasing (List.mem_of_find?_eq_some hf) hmem
          (Std.TransCmp.eq_trans (Std.OrientedCmp.eq_symm hke) hk)
      rw [he]
      rfl

omit [Std.TransOrd κ] in
theorem find?_eq_none_iff {m : SortedMap κ ν} {k : κ} :
    m.find? k = none ↔ ∀ k' ∈ m.keys, compare k k' ≠ .eq := by
  simp [find?, keys]

omit [Std.TransOrd κ] in
theorem erase_of_find? {m : SortedMap κ ν} {k : κ} (h : m.find? k = none) : m.erase k = m := by
  apply ext
  refine List.filter_eq_self.2 fun e he => ?_
  simpa using find?_eq_none_iff.1 h e.1 (List.mem_map_of_mem he)

/-- Keys that compare equal have one value. -/
theorem find?_congr {m : SortedMap κ ν} {k k' : κ} (h : compare k k' = .eq) : m.find? k = m.find? k' := by
  simp only [find?, Std.TransCmp.congr_left h]

/-- A removal takes away the value at the removed key and at no other. -/
theorem find?_erase (m : SortedMap κ ν) (k k' : κ) :
    (m.erase k).find? k' = if compare k' k = .eq then none else m.find? k' := by
  rw [find?, erase, List.find?_filter, find?]
  split
  · next h => simp [Std.TransCmp.congr_left h]
  · next h =>
    congr 2
    funext e
    cases hk : compare k' e.1 with
    | eq =>
      have hne : compare k e.1 ≠ .eq := fun heq =>
        h (Std.TransCmp.eq_trans hk (Std.OrientedCmp.eq_symm heq))
      simp [hne]
    | _ => simp

omit [Std.TransOrd κ] in
theorem contains_iff {m : SortedMap κ ν} {k : κ} :
    m.contains k = true ↔ ∃ k' ∈ m.keys, compare k k' = .eq := by
  simp [contains, find?, keys]

theorem contains_add (s : SortedSet κ) (k k' : κ) :
    (s.add k).contains k' = (compare k' k == .eq || s.contains k') := by
  rw [contains, add, find?_insert, contains]
  cases hk : compare k' k <;> simp

/-! ## Sets of keys -/

theorem contains_setOf {ks : List κ} {k : κ} :
    (setOf ks).contains k = true ↔ ∃ k' ∈ ks, compare k k' = .eq := by
  have hfold : ∀ (ks : List κ) (s : SortedSet κ),
      (ks.foldl add s).contains k = true ↔ s.contains k = true ∨ ∃ k' ∈ ks, compare k k' = .eq := by
    intro ks
    induction ks with
    | nil => simp
    | cons k' rest ih =>
      intro s
      rw [List.foldl_cons, ih, contains_add]
      simp [or_assoc, or_left_comm]
  rw [setOf, hfold]
  simp [contains, find?_empty]

theorem mem_keys_of_mem_insert {m : SortedMap κ ν} {k k' : κ} {v : ν} (h : k' ∈ (m.insert k v).keys) :
    k' = k ∨ k' ∈ m.keys := by
  obtain ⟨e, he, rfl⟩ := List.mem_map.1 h
  rcases mem_insertEntry he with rfl | ⟨e', he', hk⟩
  · exact .inl rfl
  · exact .inr (hk ▸ List.mem_map_of_mem he')

theorem mem_of_mem_keys_setOf {ks : List κ} {k : κ} (h : k ∈ (setOf ks).keys) : k ∈ ks := by
  have hfold : ∀ (ks : List κ) (s : SortedSet κ), k ∈ (ks.foldl add s).keys → k ∈ s.keys ∨ k ∈ ks := by
    intro ks
    induction ks with
    | nil => exact fun _ => .inl
    | cons k' rest ih =>
      intro s hk
      rcases ih (s.add k') hk with hk | hk
      · rcases mem_keys_of_mem_insert hk with rfl | hk
        · exact .inr List.mem_cons_self
        · exact .inl hk
      · exact .inr (List.mem_cons_of_mem k' hk)
  exact (hfold ks empty h).resolve_left List.not_mem_nil

/-- A set that another covers up to spelling is that other, if it has all its keys. -/
theorem eq_of_covered {s t : SortedSet κ} (h : ∀ k ∈ s.keys, t.contains k = true)
    (h' : ∀ k ∈ t.keys, k ∈ s.keys) : s = t := by
  refine ext_mem_keys fun k => ⟨fun hk => ?_, h' k⟩
  obtain ⟨k', hk', hcompare⟩ := contains_iff.1 (h k hk)
  obtain ⟨e, he, rfl⟩ := List.mem_map.1 hk
  obtain ⟨e', he', rfl⟩ := List.mem_map.1 (h' k' hk')
  rwa [entry_unique s.increasing he he' hcompare]

/-! ## Maps that show other spellings -/

/-- Where increasing entries are matched on both sides, the partner of the first entry comes first. -/
theorem partner_of_first {e f : κ × ν} {d e' : κ × ν'} {rest : List (κ × ν)} {rest' : List (κ × ν')}
    (hfirst : ∀ f ∈ rest, compare e.1 f.1 = .lt) (hfirst' : ∀ f' ∈ rest', compare d.1 f'.1 = .lt)
    (he' : e' ∈ d :: rest') (hee' : compare e.1 e'.1 = .eq)
    (hf : f ∈ e :: rest) (hfd : compare f.1 d.1 = .eq) : e' = d := by
  refine (List.mem_cons.1 he').resolve_right fun hlater => ?_
  -- else the partner of `d` would come before `e`
  have hfe : compare f.1 e.1 = .lt :=
    Std.TransCmp.lt_of_lt_of_eq (Std.TransCmp.lt_of_eq_of_lt hfd (hfirst' e' hlater))
      (Std.OrientedCmp.eq_symm hee')
  rcases List.mem_cons.1 hf with rfl | hf
  · exact ne_of_compare_lt hfe rfl
  · exact ne_of_compare_lt (Std.TransCmp.lt_trans hfe (hfirst f hf)) rfl

/-- The partner of a later entry is a later one. -/
theorem partner_of_later {e f : κ × ν} {d f' : κ × ν'} {rest' : List (κ × ν')}
    (hlater : compare e.1 f.1 = .lt) (hheads : compare e.1 d.1 = .eq)
    (hf' : f' ∈ d :: rest') (hff' : compare f.1 f'.1 = .eq) : f' ∈ rest' := by
  refine (List.mem_cons.1 hf').resolve_left ?_
  rintro rfl
  rw [Std.TransCmp.eq_trans hheads (Std.OrientedCmp.eq_symm hff')] at hlater
  cases hlater

/-- Increasing entries that are matched on both sides, under keys that compare equal, are matched one by
    one. -/
theorem forall₂_of_matches {R : ν → ν' → Prop} {es : List (κ × ν)} {es' : List (κ × ν')}
    (hes : es.Pairwise fun a b => compare a.1 b.1 = .lt)
    (hes' : es'.Pairwise fun a b => compare a.1 b.1 = .lt)
    (hleft : ∀ e ∈ es, ∃ e' ∈ es', compare e.1 e'.1 = .eq ∧ R e.2 e'.2)
    (hright : ∀ e' ∈ es', ∃ e ∈ es, compare e.1 e'.1 = .eq ∧ R e.2 e'.2) :
    List.Forall₂ (fun e e' => compare e.1 e'.1 = .eq ∧ R e.2 e'.2) es es' := by
  induction es generalizing es' with
  | nil =>
    cases es' with
    | nil => exact .nil
    | cons d' _ =>
      obtain ⟨e, he, -⟩ := hright d' List.mem_cons_self
      cases he
  | cons e rest ih =>
    obtain ⟨he, hrest⟩ := List.pairwise_cons.1 hes
    cases es' with
    | nil =>
      obtain ⟨e', he', -⟩ := hleft e List.mem_cons_self
      cases he'
    | cons d rest' =>
      obtain ⟨hd, hrest'⟩ := List.pairwise_cons.1 hes'
      have hheads : compare e.1 d.1 = .eq ∧ R e.2 d.2 := by
        obtain ⟨e', he', hee', hR⟩ := hleft e List.mem_cons_self
        obtain ⟨f, hf, hfd, -⟩ := hright d List.mem_cons_self
        obtain rfl := partner_of_first he hd he' hee' hf hfd
        exact ⟨hee', hR⟩
      refine .cons hheads (ih hrest hrest' (fun f hf => ?_) fun f' hf' => ?_)
      · obtain ⟨f', hf', hff', hR⟩ := hleft f (List.mem_cons_of_mem e hf)
        exact ⟨f', partner_of_later (he f hf) hheads.1 hf' hff', hff', hR⟩
      · obtain ⟨f, hf, hff', hR⟩ := hright f' (List.mem_cons_of_mem d hf')
        have hdf : f ∈ rest :=
          partner_of_later (hd f' hf') (Std.OrientedCmp.eq_symm hheads.1) hf
            (Std.OrientedCmp.eq_symm hff')
        exact ⟨f, hdf, hff', hR⟩

end Spelling

variable {κ ν : Type} [Ord κ] [Std.LawfulEqOrd κ]

/-! ## Looking up -/

/-- The value at a key is that of its entry. -/
theorem find?_eq_some {m : SortedMap κ ν} {k : κ} {v : ν} :
    m.find? k = some v ↔ (k, v) ∈ m.entries := by
  unfold find?
  constructor
  · intro h
    obtain ⟨⟨k', v'⟩, he, rfl⟩ := Option.map_eq_some_iff.1 h
    have hk : k = k' := by simpa using List.find?_some he
    rw [hk]
    exact List.mem_of_find?_eq_some he
  · intro hmem
    cases hf : m.entries.find? fun e => compare k e.1 == .eq with
    | none => simpa using List.find?_eq_none.1 hf (k, v) hmem
    | some e =>
      have hk : k = e.1 := by simpa using List.find?_some hf
      have he : e = (k, v) :=
        List.inj_on_of_nodup_map m.keys_nodup (List.mem_of_find?_eq_some hf) hmem hk.symm
      rw [he]
      rfl

/-- A key has at most one value. -/
theorem value_unique {m : SortedMap κ ν} {k : κ} {v v' : ν} (h : (k, v) ∈ m.entries)
    (h' : (k, v') ∈ m.entries) : v = v' :=
  Option.some.inj ((find?_eq_some.2 h).symm.trans (find?_eq_some.2 h'))

omit [Std.LawfulEqOrd κ] in
theorem mem_keys {m : SortedMap κ ν} {k : κ} : k ∈ m.keys ↔ ∃ v, (k, v) ∈ m.entries := by
  simp [keys]

/-! ## Insertions -/

omit [Std.LawfulEqOrd κ] in
/-- A key that is not there yet adds one entry to the others. -/
theorem insertEntry_perm {k : κ} {v : ν} {es : List (κ × ν)}
    (h : ∀ e ∈ es, compare k e.1 ≠ .eq) : (insertEntry k v es).Perm ((k, v) :: es) := by
  induction es with
  | nil => exact .refl _
  | cons d ds ih =>
    have hd : compare k d.1 ≠ .eq := h d List.mem_cons_self
    have hds : (insertEntry k v ds).Perm ((k, v) :: ds) :=
      ih fun e he => h e (List.mem_cons_of_mem d he)
    simp only [insertEntry]
    split
    · exact .refl _
    · next heq => exact absurd heq hd
    · exact (hds.cons d).trans (.swap _ _ _)

variable [Std.TransOrd κ]

omit [Std.LawfulEqOrd κ] in
/-- Among entries in increasing order, an insertion under a key that is spelled like the equal key that
    may be there gives its own entry, and keeps those with other keys. -/
theorem mem_insertEntry_iff {k k' : κ} {v v' : ν} {es : List (κ × ν)}
    (hes : es.Pairwise fun a b => compare a.1 b.1 = .lt)
    (hspelled : ∀ e ∈ es, compare k e.1 = .eq → e.1 = k) :
    (k', v') ∈ insertEntry k v es ↔ (k' = k ∧ v' = v) ∨ (k' ≠ k ∧ (k', v') ∈ es) := by
  induction es with
  | nil => simp [insertEntry]
  | cons d ds ih =>
    obtain ⟨hd, hds⟩ := List.pairwise_cons.1 hes
    rw [insertEntry]
    split
    · next hk =>
      have hother : (k', v') ∈ d :: ds → k' ≠ k := by
        intro hmem
        rcases List.mem_cons.1 hmem with rfl | hmem
        · exact (ne_of_compare_lt hk).symm
        · exact (ne_of_compare_lt (Std.TransCmp.lt_trans hk (hd _ hmem))).symm
      rw [List.mem_cons, Prod.mk.injEq]
      exact or_congr_right ⟨fun hmem => ⟨hother hmem, hmem⟩, fun h => h.2⟩
    · next hk =>
      have hkey : d.1 = k := hspelled d List.mem_cons_self hk
      have hother : (k', v') ∈ ds → k' ≠ k := fun hmem =>
        hkey ▸ (ne_of_compare_lt (hd _ hmem)).symm
      rw [List.mem_cons, Prod.mk.injEq, hkey, List.mem_cons]
      constructor
      · rintro (h | h)
        · exact .inl h
        · exact .inr ⟨hother h, .inr h⟩
      · rintro (h | ⟨hk', rfl | h⟩)
        · exact .inl h
        · exact absurd hkey hk'
        · exact .inr h
    · next hk =>
      have hother : d.1 ≠ k := ne_of_compare_lt (Std.OrientedCmp.lt_of_gt hk)
      have hrest : (k', v') ∈ insertEntry k v ds ↔
          (k' = k ∧ v' = v) ∨ (k' ≠ k ∧ (k', v') ∈ ds) :=
        ih hds fun e he => hspelled e (List.mem_cons_of_mem d he)
      rw [List.mem_cons, hrest, List.mem_cons]
      constructor
      · rintro (rfl | h | ⟨hk', h⟩)
        · exact .inr ⟨hother, .inl rfl⟩
        · exact .inl h
        · exact .inr ⟨hk', .inr h⟩
      · rintro (h | ⟨hk', rfl | h⟩)
        · exact .inr (.inl h)
        · exact .inl rfl
        · exact .inr (.inr ⟨hk', h⟩)

omit [Std.LawfulEqOrd κ] in
theorem mem_entries_insert_of_spelled {m : SortedMap κ ν} {k k' : κ} {v v' : ν}
    (hspelled : ∀ k'' ∈ m.keys, compare k k'' = .eq → k'' = k) :
    (k', v') ∈ (m.insert k v).entries ↔
      (k' = k ∧ v' = v) ∨ (k' ≠ k ∧ (k', v') ∈ m.entries) :=
  mem_insertEntry_iff m.increasing fun _ he => hspelled _ (List.mem_map_of_mem he)

omit [Std.LawfulEqOrd κ] in
theorem mem_keys_insert_of_spelled {m : SortedMap κ ν} {k k' : κ} {v : ν}
    (hspelled : ∀ k'' ∈ m.keys, compare k k'' = .eq → k'' = k) :
    k' ∈ (m.insert k v).keys ↔ k' = k ∨ k' ∈ m.keys := by
  simp only [mem_keys, mem_entries_insert_of_spelled hspelled]
  by_cases hk : k' = k
  · simp [hk]
  · simp [hk]

/-- An insertion gives its own entry, and keeps those with other keys. -/
theorem mem_entries_insert {m : SortedMap κ ν} {k k' : κ} {v v' : ν} :
    (k', v') ∈ (m.insert k v).entries ↔
      (k' = k ∧ v' = v) ∨ (k' ≠ k ∧ (k', v') ∈ m.entries) :=
  mem_entries_insert_of_spelled fun _ _ h => (Std.LawfulEqOrd.eq_of_compare h).symm

theorem mem_keys_insert {m : SortedMap κ ν} {k k' : κ} {v : ν} :
    k' ∈ (m.insert k v).keys ↔ k' = k ∨ k' ∈ m.keys :=
  mem_keys_insert_of_spelled fun _ _ h => (Std.LawfulEqOrd.eq_of_compare h).symm

omit [Std.LawfulEqOrd κ] in
/-- Of two insertions under one key, the second counts. -/
theorem insert_insert (m : SortedMap κ ν) (k : κ) (v v' : ν) :
    (m.insert k v).insert k v' = m.insert k v' := by
  have hentries : ∀ es : List (κ × ν),
      insertEntry k v' (insertEntry k v es) = insertEntry k v' es := by
    intro es
    induction es with
    | nil => simp [insertEntry]
    | cons d ds ih => cases hd : compare k d.1 <;> simp [insertEntry, hd, ih]
  exact ext (hentries m.entries)

omit [Std.LawfulEqOrd κ] in
/-- An insertion that is undone leaves what is there under other keys. -/
theorem erase_insert (m : SortedMap κ ν) (k : κ) (v : ν) : (m.insert k v).erase k = m.erase k := by
  have hentries : ∀ es : List (κ × ν),
      (insertEntry k v es).filter (fun e => compare k e.1 != .eq) =
        es.filter fun e => compare k e.1 != .eq := by
    intro es
    induction es with
    | nil => simp [insertEntry]
    | cons d ds ih => cases hd : compare k d.1 <;> simp [insertEntry, hd, ih]
  exact ext (hentries m.entries)

theorem insert_perm {m : SortedMap κ ν} {k : κ} (v : ν) (h : k ∉ m.keys) :
    (m.insert k v).entries.Perm ((k, v) :: m.entries) := by
  apply insertEntry_perm
  intro e he heq
  have hk : k = e.1 := Std.LawfulEqOrd.eq_of_compare heq
  exact h (hk ▸ List.mem_map_of_mem he)

/-- Insertions keep the entries that were there and add their own, as long as no key comes twice. The
    induction is on the insertions, with the map before them arbitrary. -/
theorem foldl_insert_perm {es : List (κ × ν)} {m : SortedMap κ ν}
    (h : ((m.entries ++ es).map (·.1)).Nodup) :
    (es.foldl (fun m e => m.insert e.1 e.2) m).entries.Perm (m.entries ++ es) := by
  induction es generalizing m with
  | nil => simp
  | cons e rest ih =>
    have hmiddle : (m.entries ++ e :: rest).Perm (e :: m.entries ++ rest) := List.perm_middle
    have hnodup : ((e :: m.entries ++ rest).map (·.1)).Nodup :=
      (hmiddle.map _).nodup_iff.1 h
    have hfresh : e.1 ∉ m.keys := by
      intro hk
      rw [List.cons_append, List.map_cons, List.nodup_cons, List.map_append] at hnodup
      exact hnodup.1 (List.mem_append_left _ hk)
    have hinsert : ((m.insert e.1 e.2).entries ++ rest).Perm (e :: m.entries ++ rest) :=
      (insert_perm e.2 hfresh).append_right rest
    have hrest := ih ((hinsert.map _).nodup_iff.2 hnodup)
    exact hrest.trans (hinsert.trans hmiddle.symm)

theorem ofList_perm {es : List (κ × ν)} (h : (es.map (·.1)).Nodup) :
    (ofList es).entries.Perm es :=
  foldl_insert_perm (m := empty) h

end SortedMap

/-! ## Stores -/

namespace Store

theorem read_eq_ok {s : Store} {name : String} {content : Bytes} :
    s.read name = .ok content ↔ (name, content) ∈ s.entries := by
  unfold read entries
  rw [← SortedMap.find?_eq_some]
  cases s.files.find? name with
  | none => simp
  | some c => simp

/-- A name under which no content can be read is missing. -/
theorem read_of_not_mem_names {s : Store} {name : String} (h : name ∉ s.names) :
    s.read name = .error (.missing name) := by
  unfold read
  cases hfind : s.files.find? name with
  | none => rfl
  | some content => exact absurd (SortedMap.mem_keys.2 ⟨content, SortedMap.find?_eq_some.1 hfind⟩) h

/-- The names of a store are those under which contents can be read. -/
theorem mem_names {s : Store} {name : String} :
    name ∈ s.names ↔ ∃ content, s.read name = .ok content := by
  simp only [read_eq_ok]
  exact SortedMap.mem_keys

theorem mem_entries_write {s : Store} {name name' : String} {content content' : Bytes} :
    (name', content') ∈ (s.write name content).entries ↔
      (name' = name ∧ content' = content) ∨ (name' ≠ name ∧ (name', content') ∈ s.entries) :=
  SortedMap.mem_entries_insert

theorem mem_names_write {s : Store} {name name' : String} {content : Bytes} :
    name' ∈ (s.write name content).names ↔ name' = name ∨ name' ∈ s.names :=
  SortedMap.mem_keys_insert

theorem mem_names_foldl_write {es : List (String × Bytes)} {s : Store} {name : String} :
    name ∈ (es.foldl (fun s e => s.write e.1 e.2) s).names ↔
      name ∈ es.map (·.1) ∨ name ∈ s.names := by
  induction es generalizing s with
  | nil => simp
  | cons e rest ih =>
    rw [List.foldl_cons, ih, mem_names_write, List.map_cons, List.mem_cons, or_left_comm, or_assoc]

theorem mem_names_ofList {es : List (String × Bytes)} {name : String} :
    name ∈ (ofList es).names ↔ name ∈ es.map (·.1) := by
  rw [ofList, mem_names_foldl_write]
  exact or_iff_left (List.not_mem_nil)

theorem foldl_write_files (es : List (String × Bytes)) (s : Store) :
    (es.foldl (fun s e => s.write e.1 e.2) s).files =
      es.foldl (fun m e => m.insert e.1 e.2) s.files := by
  induction es generalizing s with
  | nil => rfl
  | cons e rest ih => exact ih (s.write e.1 e.2)

theorem writeTo_eq (s : Store) (root : Path) :
    s.writeTo root = s.entries.forM fun e => Disk.writeWithDirectories (root.join ⟨e.1⟩) e.2 := rfl

/-- Contents under distinct names are all there is in the store made of them. -/
theorem entries_ofList_perm {es : List (String × Bytes)} (h : (es.map (·.1)).Nodup) :
    (ofList es).entries.Perm es := by
  rw [entries, ofList, foldl_write_files]
  exact SortedMap.ofList_perm h

end Store
end Buildwright
