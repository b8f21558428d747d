-- SUMMARY: In the tables of a document that is read, no key comes twice.
import Mathlib.Data.List.Nodup
import Buildwright.Toml.Document

/-!
# Keys of tables

A table of a document has each key at most once, at whatever depth it lies. That is what allows the keys of a
table to be taken in any order. `distinct_of_parse?` says it of every document that is read: what a reader
takes is described by one rule for each way to put readers together, and what the sections of a document add
to a draft by one rule for each operation on drafts.
-/
namespace Buildwright

/-! ## What readers take -/

namespace Reader

variable {α β : Type} {r r' : Reader α} {f : α → Reader β} {P : α → Prop} {Q : β → Prop}

/-- Whatever the reader takes is as `P` says. -/
def Yields (r : Reader α) (P : α → Prop) : Prop :=
  ∀ s a rest, r s = some (a, rest) → P a

theorem yields_true (r : Reader α) : r.Yields fun _ => True :=
  fun _ _ _ _ => trivial

theorem Yields.pure {a : α} (h : P a) : Yields (Pure.pure a) P := by
  intro s a' rest hread
  cases hread
  exact h

theorem Yields.bind (h : r.Yields P) (hf : ∀ a, P a → (f a).Yields Q) : Yields (r >>= f) Q := by
  intro s b rest hread
  obtain ⟨⟨a, rest'⟩, ha, hb⟩ := Option.bind_eq_some_iff.1 hread
  exact hf a (h s a rest' ha) rest' b rest hb

/-- What does not become part of the result does not matter. -/
theorem Yields.after (hf : ∀ a, (f a).Yields Q) : Yields (r >>= f) Q :=
  (yields_true r).bind fun a _ => hf a

theorem Yields.map {g : α → β} (h : r.Yields P) (hg : ∀ a, P a → Q (g a)) : Yields (g <$> r) Q := by
  rw [map_eq_pure_bind]
  exact h.bind fun a ha => .pure (hg a ha)

theorem Yields.orElse (h : r.Yields P) (h' : r'.Yields P) : Yields (r <|> r') P := by
  intro s a rest hread
  change (r s <|> r' s) = some (a, rest) at hread
  cases hr : r s with
  | some taken =>
    rw [hr] at hread
    exact h s a rest (hr.trans hread)
  | none =>
    rw [hr] at hread
    exact h' s a rest hread

theorem Yields.ofOption {o : Option α} (h : ∀ a, o = some a → P a) : Yields (ofOption o) P := by
  intro s a rest hread
  obtain ⟨a', ha', heq⟩ := Option.map_eq_some_iff.1 hread
  cases heq
  exact h a ha'

/-- The induction follows what is left of the text. -/
theorem Yields.many (h : r.Yields P) : Yields (many r) fun as => ∀ a ∈ as, P a := by
  have hfrom : ∀ s, ∀ a ∈ (manyFrom r s).1, P a := by
    intro s
    induction s using manyFrom.induct r with
    | case1 s hnone => simp [manyFrom, hnone]
    | case2 s first rest hfirst hlt as rest' hmany ih =>
      rw [manyFrom, hfirst]
      simp only [hlt, ↓reduceIte, List.forall_mem_cons]
      exact ⟨h s first rest hfirst, ih⟩
    | case3 s first rest hfirst hlt => simp [manyFrom, hfirst, hlt]
  intro s as rest hread
  have heq : manyFrom r s = (as, rest) := Option.some.inj hread
  simpa only [heq] using hfrom s

theorem Yields.maybe (h : r.Yields P) : Yields (maybe r) fun o => ∀ a, o = some a → P a := by
  refine .orElse (h.map fun a ha a' heq => ?_) (.pure fun a heq => by cases heq)
  cases heq
  exact ha

theorem Yields.separated {separator : Reader β} (h : r.Yields P) :
    Yields (separated r separator) fun as => ∀ a ∈ as, P a := by
  refine .orElse (h.bind fun first hfirst => ?_) (.pure fun a ha => by cases ha)
  refine (Yields.many (.after fun _ => h)).bind fun rest hrest => .pure ?_
  exact List.forall_mem_cons.2 ⟨hfirst, hrest⟩

end Reader

namespace Toml

open Reader

variable {d d' : Draft} {n : Node} {key : String} {v : Value} {path : List String}
  {pairs : List (List String × Value)}

/-! ## Values -/

/-- A value in whose tables no key comes twice. -/
inductive Value.Distinct : Value → Prop
  | string (s : String) : Distinct (.string s)
  | integer (n : Int) : Distinct (.integer n)
  | float (x : Binary64) : Distinct (.float x)
  | boolean (b : Bool) : Distinct (.boolean b)
  | datetime (text : String) : Distinct (.datetime text)
  | array {items : List Value} (h : ∀ v ∈ items, Distinct v) : Distinct (.array items)
  | tables {items : List Value} (h : ∀ v ∈ items, Distinct v) : Distinct (.tables items)
  | table {entries : Table} (hkeys : (entries.map (·.1)).Nodup) (h : ∀ e ∈ entries, Distinct e.2) :
    Distinct (.table entries)

/-! ## Drafts -/

theorem entriesValue_eq (d : Draft) : entriesValue d = d.map fun e => (e.1, e.2.toValue) := by
  induction d with
  | nil => rfl
  | cons e rest ih =>
    rw [entriesValue, ih, entryValue]
    rfl

theorem tableValues_eq (tables : List Draft) :
    tableValues tables = tables.map fun d => Value.table (entriesValue d) := by
  induction tables with
  | nil => rfl
  | cons d rest ih =>
    rw [tableValues, ih]
    rfl

namespace Draft

/-- No key comes twice in the table that is read. -/
def Distinct (d : Draft) : Prop :=
  (Value.table (entriesValue d)).Distinct

theorem distinct_iff : d.Distinct ↔ (d.map (·.1)).Nodup ∧ ∀ e ∈ d, e.2.toValue.Distinct := by
  have hkeys : (entriesValue d).map (·.1) = d.map (·.1) := by
    rw [entriesValue_eq, List.map_map]
    rfl
  rw [Distinct]
  constructor
  · rintro (_ | _ | _ | _ | _ | _ | _ | ⟨hnodup, h⟩)
    refine ⟨hkeys ▸ hnodup, fun e he => h (e.1, e.2.toValue) ?_⟩
    rw [entriesValue_eq]
    exact List.mem_map_of_mem he
  · rintro ⟨hnodup, h⟩
    refine .table (hkeys ▸ hnodup) fun e he => ?_
    rw [entriesValue_eq] at he
    obtain ⟨e', he', rfl⟩ := List.mem_map.1 he
    exact h e' he'

theorem distinct_table_iff {origin : Origin} : (Node.table origin d).toValue.Distinct ↔ d.Distinct := by
  rw [Node.toValue]
  rfl

theorem distinct_elements_iff {tables : List Draft} :
    (Node.elements tables).toValue.Distinct ↔ ∀ d ∈ tables, d.Distinct := by
  rw [Node.toValue, tableValues_eq]
  constructor
  · rintro (_ | _ | _ | _ | _ | _ | h | _) d hd
    exact h _ (List.mem_map_of_mem hd)
  · intro h
    refine .tables fun v hv => ?_
    obtain ⟨d, hd, rfl⟩ := List.mem_map.1 hv
    exact h d hd

theorem distinct_nil : Distinct [] :=
  distinct_iff.2 ⟨List.nodup_nil, fun _ he => by cases he⟩

theorem Distinct.of_lookup (h : d.Distinct) (hn : d.lookup key = some n) : n.toValue.Distinct := by
  obtain ⟨before, after, rfl, -⟩ := List.lookup_eq_some_iff.1 hn
  exact (distinct_iff.1 h).2 (key, n) (List.mem_append_right before List.mem_cons_self)

/-- A key that is not there yet can be added. -/
theorem Distinct.concat (h : d.Distinct) (hkey : d.lookup key = none) (hn : n.toValue.Distinct) :
    Distinct (d ++ [(key, n)]) := by
  obtain ⟨hnodup, hd⟩ := distinct_iff.1 h
  refine distinct_iff.2 ⟨?_, ?_⟩
  · rw [List.map_append, List.nodup_append]
    refine ⟨hnodup, List.nodup_singleton key, ?_⟩
    rintro k hk k' hk' rfl
    obtain ⟨e, he, rfl⟩ := List.mem_map.1 hk
    have hne := List.lookup_eq_none_iff.1 hkey e he
    simp_all
  · rw [List.forall_mem_append, List.forall_mem_singleton]
    exact ⟨hd, hn⟩

/-- What stands at a key can be replaced. -/
theorem Distinct.put (h : d.Distinct) (hn : n.toValue.Distinct) : Distinct (d.put key n) := by
  obtain ⟨hnodup, hd⟩ := distinct_iff.1 h
  have hkeys : (d.put key n).map (·.1) = d.map (·.1) := by
    rw [Draft.put, List.map_map]
    refine List.map_congr_left fun e _ => ?_
    by_cases he : e.1 = key <;> simp [he]
  refine distinct_iff.2 ⟨hkeys ▸ hnodup, fun e he => ?_⟩
  obtain ⟨e', he', rfl⟩ := List.mem_map.1 he
  split
  · exact hn
  · exact hd e' he'

theorem Distinct.filter (h : d.Distinct) (p : String × Node → Bool) : Distinct (d.filter p) := by
  obtain ⟨hnodup, hd⟩ := distinct_iff.1 h
  exact distinct_iff.2 ⟨hnodup.sublist (List.filter_sublist.map _), fun e he => hd e (List.mem_filter.1 he).1⟩

/-- Of tables that headers have added, the last can be replaced. -/
theorem distinct_replaceLast {tables before : List Draft} {last : Draft}
    (h : ∀ d ∈ tables, d.Distinct) (htables : tables.reverse = last :: before) (hd : d.Distinct) :
    last.Distinct ∧ (Node.elements (before.reverse ++ [d])).toValue.Distinct := by
  have hmem : ∀ d ∈ last :: before, d.Distinct := fun d hd => h d (List.mem_reverse.1 (htables ▸ hd))
  refine ⟨hmem last List.mem_cons_self, distinct_elements_iff.2 ?_⟩
  rw [List.forall_mem_append, List.forall_mem_singleton]
  exact ⟨fun d hd => hmem d (List.mem_cons_of_mem last (List.mem_reverse.1 hd)), hd⟩

/-- A change at the end of a path keeps the keys distinct that it keeps distinct there. The induction is on
    the path, with the table that it starts in arbitrary. -/
theorem Distinct.changeAt {f : Draft → Option Draft} (hf : ∀ {d d'}, Distinct d → f d = some d' → d'.Distinct)
    (hd : d.Distinct) (h : changeAt f path d = some d') : d'.Distinct := by
  induction path generalizing d d' with
  | nil => exact hf hd h
  | cons key path ih =>
    rw [Draft.changeAt] at h
    split at h
    · next hkey =>
      obtain ⟨inner, hinner, rfl⟩ := Option.map_eq_some_iff.1 h
      exact hd.concat hkey (distinct_table_iff.2 (ih distinct_nil hinner))
    · cases h
    · next hkey =>
      obtain ⟨inner', hinner, rfl⟩ := Option.map_eq_some_iff.1 h
      exact hd.put (distinct_table_iff.2 (ih (distinct_table_iff.1 (hd.of_lookup hkey)) hinner))
    · next tables hkey =>
      split at h
      · cases h
      · next last before htables =>
        obtain ⟨last', hlast, rfl⟩ := Option.map_eq_some_iff.1 h
        have hall := distinct_elements_iff.1 (hd.of_lookup hkey)
        have hbefore := (distinct_replaceLast hall htables distinct_nil).1
        exact hd.put (distinct_replaceLast hall htables (ih hbefore hlast)).2

theorem Distinct.addValue (hv : v.Distinct) (hd : d.Distinct) (h : addValue key v path d = some d') :
    d'.Distinct := by
  induction path generalizing d d' with
  | nil =>
    rw [Draft.addValue] at h
    split at h
    · cases h
    · next hkey =>
      cases h
      exact hd.concat (Option.not_isSome_iff_eq_none.1 hkey) hv
  | cons part path ih =>
    rw [Draft.addValue] at h
    split at h
    · next hpart =>
      obtain ⟨inner, hinner, rfl⟩ := Option.map_eq_some_iff.1 h
      exact hd.concat hpart (distinct_table_iff.2 (ih distinct_nil hinner))
    · next hpart =>
      obtain ⟨inner', hinner, rfl⟩ := Option.map_eq_some_iff.1 h
      exact hd.put (distinct_table_iff.2 (ih (distinct_table_iff.1 (hd.of_lookup hpart)) hinner))
    · next hpart =>
      split at h
      · cases h
      · obtain ⟨inner', hinner, rfl⟩ := Option.map_eq_some_iff.1 h
        exact hd.put (distinct_table_iff.2 (ih (distinct_table_iff.1 (hd.of_lookup hpart)) hinner))
    · next tables hpart =>
      split at h
      · next last before htables =>
        obtain ⟨last', hlast, rfl⟩ := Option.map_eq_some_iff.1 h
        have hall := distinct_elements_iff.1 (hd.of_lookup hpart)
        have hbefore := (distinct_replaceLast hall htables distinct_nil).1
        exact hd.put (distinct_replaceLast hall htables (ih hbefore hlast)).2
      · cases h
    · cases h
    · cases h

theorem Distinct.addValues (hpairs : ∀ pair ∈ pairs, pair.2.Distinct) (hd : d.Distinct)
    (h : addValues pairs d = some d') : d'.Distinct := by
  induction pairs generalizing d with
  | nil =>
    cases h
    exact hd
  | cons pair rest ih =>
    obtain ⟨key, v⟩ := pair
    obtain ⟨hpair, hrest⟩ := List.forall_mem_cons.1 hpairs
    rw [Draft.addValues, List.foldlM_cons] at h
    obtain ⟨d₁, hfirst, hlater⟩ := Option.bind_eq_some_iff.1 h
    refine ih hrest ?_ hlater
    simp only at hfirst
    split at hfirst
    · cases hfirst
    · exact hd.addValue hpair hfirst

theorem Distinct.addTable (hpairs : ∀ pair ∈ pairs, pair.2.Distinct) (hd : d.Distinct)
    (h : addTable key pairs d = some d') : d'.Distinct := by
  rw [Draft.addTable] at h
  split at h
  · next hkey =>
    obtain ⟨inner, hinner, rfl⟩ := Option.map_eq_some_iff.1 h
    exact hd.concat hkey (distinct_table_iff.2 (distinct_nil.addValues hpairs hinner))
  · next old hkey =>
    obtain ⟨inner, hinner, rfl⟩ := Option.map_eq_some_iff.1 h
    have hold : Draft.Distinct old := distinct_table_iff.1 (hd.of_lookup hkey)
    refine (hd.filter _).concat ?_ (distinct_table_iff.2 (hold.addValues hpairs hinner))
    refine List.lookup_eq_none_iff.2 fun e he => ?_
    rw [bne_comm]
    exact (List.mem_filter.1 he).2
  · cases h

theorem Distinct.addElement (hpairs : ∀ pair ∈ pairs, pair.2.Distinct) (hd : d.Distinct)
    (h : addElement key pairs d = some d') : d'.Distinct := by
  rw [Draft.addElement] at h
  split at h
  · next hkey =>
    obtain ⟨inner, hinner, rfl⟩ := Option.map_eq_some_iff.1 h
    refine hd.concat hkey (distinct_elements_iff.2 ?_)
    exact List.forall_mem_singleton.2 (distinct_nil.addValues hpairs hinner)
  · next tables hkey =>
    obtain ⟨inner, hinner, rfl⟩ := Option.map_eq_some_iff.1 h
    refine hd.put (distinct_elements_iff.2 ?_)
    rw [List.forall_mem_append, List.forall_mem_singleton]
    exact ⟨distinct_elements_iff.1 (hd.of_lookup hkey), distinct_nil.addValues hpairs hinner⟩
  · cases h

end Draft

/-! ## Documents -/

theorem yields_scalar : scalar.Yields Value.Distinct := by
  refine .orElse (.map (yields_true _) fun s _ => .string s) ?_
  refine .orElse (.map (yields_true _) fun b _ => .boolean b) ?_
  refine .orElse (.map (yields_true _) fun text _ => .datetime text) ?_
  exact .orElse (.map (yields_true _) fun x _ => .float x) (.map (yields_true _) fun n _ => .integer n)

theorem yields_array {value : Reader Value} (h : value.Yields Value.Distinct) :
    (array value).Yields Value.Distinct := by
  have hitem : Yields (gap *> value <* gap) Value.Distinct :=
    .bind (.after fun _ => h) fun v hv => .after fun _ => .pure hv
  refine .after fun _ => (Yields.separated hitem).bind fun items hitems => ?_
  have hend : Yields (do gap; let _ ← char ']'; return Value.array items) Value.Distinct :=
    .after fun _ => .after fun _ => .pure (.array hitems)
  split
  · exact .after fun _ => hend
  · exact hend

theorem yields_pair {value : Reader Value} (h : value.Yields Value.Distinct) :
    (pair value).Yields fun p => p.2.Distinct :=
  .after fun _ => .after fun _ => .after fun _ => h.bind fun _ hv => .pure hv

theorem yields_inlineTable {value : Reader Value} (h : value.Yields Value.Distinct) :
    (inlineTable value).Yields Value.Distinct := by
  have hpair : Yields (pair value <* spaces) fun p => p.2.Distinct :=
    (yields_pair h).bind fun p hp => .after fun _ => .pure hp
  refine .after fun _ => (Yields.separated hpair).bind fun pairs hpairs => .after fun _ => .after fun _ => ?_
  refine .bind (.ofOption fun d hd => ?_) fun d hd => .pure hd
  exact Draft.distinct_nil.addValues hpairs hd

theorem yields_value (depth : Nat) : (value depth).Yields Value.Distinct := by
  induction depth with
  | zero => exact yields_scalar
  | succ depth ih => exact .orElse yields_scalar (.orElse (yields_array ih) (yields_inlineTable ih))

/-- A line whose value has no key twice. -/
def Line.Distinct : Line → Prop
  | .pair _ v => v.Distinct
  | _ => True

theorem yields_content : content.Yields Line.Distinct := by
  refine .orElse ?_ (.orElse ?_ ?_)
  · exact .after fun _ => .after fun _ => .after fun _ => .pure trivial
  · exact .after fun _ => .after fun _ => .after fun _ => .pure trivial
  · exact (yields_pair (yields_value _)).bind fun _ hv => .pure hv

theorem yields_document : document.Yields fun ls => ∀ l ∈ ls, l.Distinct := by
  have hline : line.Yields fun o => ∀ l, o = some l → l.Distinct :=
    .after fun _ => (Yields.maybe yields_content).bind fun _ ho => .after fun _ => .pure ho
  refine .after fun _ => (Yields.many hline).bind fun ls hls => .pure fun l hl => ?_
  obtain ⟨o, ho, rfl⟩ := List.mem_filterMap.1 hl
  exact hls _ ho l rfl

theorem distinct_of_mem_sections {header : Option Line} {ls : List Line}
    (hpairs : ∀ pair ∈ pairs, pair.2.Distinct) (hls : ∀ l ∈ ls, l.Distinct) :
    ∀ s ∈ sections header pairs ls, ∀ pair ∈ s.pairs, pair.2.Distinct := by
  induction ls generalizing header pairs with
  | nil => simpa [sections] using hpairs
  | cons l rest ih =>
    obtain ⟨hl, hrest⟩ := List.forall_mem_cons.1 hls
    cases l with
    | pair k v => exact ih (List.forall_mem_cons.2 ⟨hl, hpairs⟩) hrest
    | table path =>
      refine List.forall_mem_cons.2 ⟨by simpa using hpairs, ih (fun _ h => by cases h) hrest⟩
    | element path =>
      refine List.forall_mem_cons.2 ⟨by simpa using hpairs, ih (fun _ h => by cases h) hrest⟩

theorem Draft.Distinct.addSection {s : Section} (hs : ∀ pair ∈ s.pairs, pair.2.Distinct) (hd : d.Distinct)
    (h : addSection d s = some d') : d'.Distinct := by
  rw [Toml.addSection] at h
  split at h
  · obtain ⟨last, -, hchange⟩ := Option.bind_eq_some_iff.1 h
    exact hd.changeAt (fun hd => hd.addTable hs) hchange
  · obtain ⟨last, -, hchange⟩ := Option.bind_eq_some_iff.1 h
    exact hd.changeAt (fun hd => hd.addElement hs) hchange
  · exact hd.addValues hs h

theorem Draft.Distinct.addSections {ss : List Section} (hss : ∀ s ∈ ss, ∀ pair ∈ s.pairs, pair.2.Distinct)
    (hd : d.Distinct) (h : ss.foldlM Toml.addSection d = some d') : d'.Distinct := by
  induction ss generalizing d with
  | nil =>
    cases h
    exact hd
  | cons s rest ih =>
    obtain ⟨hs, hrest⟩ := List.forall_mem_cons.1 hss
    rw [List.foldlM_cons] at h
    obtain ⟨d₁, hfirst, hlater⟩ := Option.bind_eq_some_iff.1 h
    exact ih hrest (hd.addSection hs hfirst) hlater

/-- In a document that is read, no key comes twice in a table. -/
theorem distinct_of_parse? {text : String} {doc : Table} (h : parse? text = some doc) :
    (Value.table doc).Distinct := by
  obtain ⟨ls, hls, hsections⟩ := Option.bind_eq_some_iff.1 h
  obtain ⟨d, hd, heq⟩ := Option.bind_eq_some_iff.1 hsections
  cases heq
  obtain ⟨⟨ls', rest⟩, hread, rfl⟩ := Option.map_eq_some_iff.1 hls
  have hlines := (yields_document.bind fun ls hls => .after fun _ => .pure hls) _ _ _ hread
  have hpairs : ∀ s ∈ sections none [] ls', ∀ pair ∈ s.pairs, pair.2.Distinct :=
    distinct_of_mem_sections (fun _ h => by cases h) hlines
  exact Draft.distinct_nil.addSections hpairs hd

end Toml
end Buildwright
