-- SUMMARY: Finite maps and sets as lists of entries in strictly increasing key order.

/-!
# Sorted maps

A map is the list of its entries in strictly increasing order of their keys. Two keys that compare
equal are one key; the map then shows the spelling that was inserted first.

`find?_insert` says what an insertion changes, and `keys_increasing` that the keys come in order.
-/
namespace Buildwright

/-- A finite map with its entries in strictly increasing key order. -/
structure SortedMap (κ ν : Type) [Ord κ] where
  entries : List (κ × ν)
  increasing : entries.Pairwise fun a b => compare a.1 b.1 = .lt

/-- A finite set with its elements in strictly increasing order. -/
abbrev SortedSet (κ : Type) [Ord κ] := SortedMap κ Unit

namespace SortedMap

variable {κ ν : Type} [Ord κ]

/-- No key comes before itself. -/
theorem ne_of_compare_lt [Std.ReflOrd κ] {k k' : κ} (h : compare k k' = .lt) : k ≠ k' := by
  rintro rfl
  rw [Std.ReflOrd.compare_self] at h
  cases h

/-! ## Entries -/

/-- The entries with the value `v` at the key `k`; a key that is there already keeps its
    spelling. -/
def insertEntry (k : κ) (v : ν) : List (κ × ν) → List (κ × ν)
  | [] => [(k, v)]
  | e :: rest =>
    match compare k e.1 with
    | .lt => (k, v) :: e :: rest
    | .eq => (e.1, v) :: rest
    | .gt => e :: insertEntry k v rest

/-- An entry after an insertion has the key of an entry before it, or compares equal to the new
    key. -/
theorem mem_insertEntry {k : κ} {v : ν} {es : List (κ × ν)} {e : κ × ν}
    (h : e ∈ insertEntry k v es) : e = (k, v) ∨ ∃ e' ∈ es, e.1 = e'.1 := by
  induction es with
  | nil => simp_all [insertEntry]
  | cons d ds ih =>
    simp only [insertEntry] at h
    split at h
    · rcases List.mem_cons.1 h with rfl | h
      · exact .inl rfl
      · exact .inr ⟨e, h, rfl⟩
    · rcases List.mem_cons.1 h with rfl | h
      · exact .inr ⟨d, by simp, rfl⟩
      · exact .inr ⟨e, by simp [h], rfl⟩
    · rcases List.mem_cons.1 h with rfl | h
      · exact .inr ⟨e, by simp, rfl⟩
      · rcases ih h with rfl | ⟨e', he', hk⟩
        · exact .inl rfl
        · exact .inr ⟨e', by simp [he'], hk⟩

variable [Std.TransOrd κ]

theorem insertEntry_increasing (k : κ) (v : ν) {es : List (κ × ν)}
    (h : es.Pairwise fun a b => compare a.1 b.1 = .lt) :
    (insertEntry k v es).Pairwise fun a b => compare a.1 b.1 = .lt := by
  induction es with
  | nil => simp [insertEntry]
  | cons d ds ih =>
    obtain ⟨hd, hds⟩ := List.pairwise_cons.1 h
    simp only [insertEntry]
    split
    · next hk =>
      refine List.pairwise_cons.2 ⟨fun e he => ?_, h⟩
      rcases List.mem_cons.1 he with rfl | he
      · exact hk
      · exact Std.TransCmp.lt_trans hk (hd e he)
    · exact List.pairwise_cons.2 ⟨hd, hds⟩
    · next hk =>
      refine List.pairwise_cons.2 ⟨fun e he => ?_, ih hds⟩
      rcases mem_insertEntry he with rfl | ⟨e', he', hk'⟩
      · exact Std.OrientedCmp.lt_of_gt hk
      · rw [hk']; exact hd e' he'

/-! ## Maps -/

omit [Std.TransOrd κ] in
/-- The map without entries. -/
def empty : SortedMap κ ν := ⟨[], .nil⟩

omit [Std.TransOrd κ] in
instance : Inhabited (SortedMap κ ν) := ⟨empty⟩

/-- The map with the value `v` at the key `k`. -/
def insert (m : SortedMap κ ν) (k : κ) (v : ν) : SortedMap κ ν :=
  ⟨insertEntry k v m.entries, insertEntry_increasing k v m.increasing⟩

/-- The map without the key `k`. -/
def erase (m : SortedMap κ ν) (k : κ) : SortedMap κ ν :=
  ⟨m.entries.filter fun e => compare k e.1 != .eq, m.increasing.filter _⟩

/-- The value at the key `k`. -/
def find? (m : SortedMap κ ν) (k : κ) : Option ν :=
  (m.entries.find? fun e => compare k e.1 == .eq).map (·.2)

/-- Whether the map has the key `k`. -/
def contains (m : SortedMap κ ν) (k : κ) : Bool :=
  (m.find? k).isSome

/-- The keys in increasing order. -/
def keys (m : SortedMap κ ν) : List κ :=
  m.entries.map (·.1)

/-- The values in the order of their keys. -/
def values (m : SortedMap κ ν) : List ν :=
  m.entries.map (·.2)

/-- The number of entries. -/
def size (m : SortedMap κ ν) : Nat :=
  m.entries.length

/-- Whether the map has no entry. -/
def isEmpty (m : SortedMap κ ν) : Bool :=
  m.entries.isEmpty

/-- The map that arises from inserting the given entries in turn. -/
def ofList (es : List (κ × ν)) : SortedMap κ ν :=
  es.foldl (fun m e => m.insert e.1 e.2) empty

/-- The set with the element `k` added. -/
def add (s : SortedSet κ) (k : κ) : SortedSet κ :=
  s.insert k ()

/-- The set of the given elements. -/
def setOf (ks : List κ) : SortedSet κ :=
  ks.foldl add empty

omit [Std.TransOrd κ] in
theorem ext {m n : SortedMap κ ν} (h : m.entries = n.entries) : m = n := by
  cases m; cases n; cases h; rfl

omit [Std.TransOrd κ] in
/-- The keys come in strictly increasing order. -/
theorem keys_increasing (m : SortedMap κ ν) : m.keys.Pairwise fun a b => compare a b = .lt :=
  List.pairwise_map.2 m.increasing

omit [Std.TransOrd κ] in
theorem find?_empty (k : κ) : (empty : SortedMap κ ν).find? k = none := rfl

omit [Std.TransOrd κ] in
private theorem find?_entry_cons (k : κ) (e : κ × ν) (es : List (κ × ν)) :
    ((e :: es).find? fun d => compare k d.1 == .eq).map (·.2) =
      if compare k e.1 = .eq then some e.2
      else (es.find? fun d => compare k d.1 == .eq).map (·.2) := by
  by_cases h : compare k e.1 = .eq
  · simp [List.find?, h]
  · simp [List.find?, h, beq_eq_false_iff_ne.2 h]

theorem find?_insertEntry {k k' : κ} {v : ν} {es : List (κ × ν)} :
    ((insertEntry k v es).find? fun e => compare k' e.1 == .eq).map (·.2) =
      if compare k' k = .eq then some v
      else (es.find? fun e => compare k' e.1 == .eq).map (·.2) := by
  induction es with
  | nil => simp only [insertEntry, find?_entry_cons]
  | cons d ds ih =>
    simp only [insertEntry]
    split
    · simp only [find?_entry_cons]
    · next hk =>
      simp only [find?_entry_cons]
      by_cases h : compare k' k = .eq
      · simp [h, Std.TransCmp.eq_trans h hk]
      · have : compare k' d.1 ≠ .eq := fun hd =>
          h (Std.TransCmp.eq_trans hd (Std.OrientedCmp.eq_symm hk))
        simp [h, this]
    · next hk =>
      simp only [find?_entry_cons, ih]
      by_cases h : compare k' k = .eq
      · have : compare k' d.1 ≠ .eq := fun hd => by
          have := Std.TransCmp.eq_trans (Std.OrientedCmp.eq_symm h) hd
          rw [this] at hk; cases hk
        simp [h, this]
      · simp [h]

/-- An insertion changes the value at the inserted key and at no other. -/
theorem find?_insert (m : SortedMap κ ν) (k k' : κ) (v : ν) :
    (m.insert k v).find? k' = if compare k' k = .eq then some v else m.find? k' :=
  find?_insertEntry

end SortedMap

instance {κ ν : Type} [Ord κ] [DecidableEq κ] [DecidableEq ν] : DecidableEq (SortedMap κ ν) :=
  fun m n => decidable_of_iff (m.entries = n.entries) ⟨SortedMap.ext, fun h => h ▸ rfl⟩

end Buildwright
