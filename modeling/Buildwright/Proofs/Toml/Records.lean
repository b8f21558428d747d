-- SUMMARY: Records that are read from tables: the order of the keys, keys that may as well be left out, and keys of no field.
import Mathlib.Data.List.Pairwise
import Buildwright.Proofs.Toml.Keys
import Buildwright.Proofs.WeakestPre
import Buildwright.Toml.Decode

/-!
# Records from tables

A record is read from a table key by key. If the fields of its type are set independently of each other, the
order of the keys does not matter, and a key that sets its field to what it is from the start may be left
out. A key of no field is an error that the other keys cannot prevent.
-/
namespace Buildwright.Toml

variable {σ α β : Type} {v w : Value} {key : String} {before after entries entries' : Table}

/-! ## The order of keys -/

/-- Values that differ in the order of the keys of one table, at whatever depth it lies. -/
inductive Value.Reorders : Value → Value → Prop
  | keys {entries entries' : Table} (h : entries.Perm entries') : Reorders (.table entries) (.table entries')
  | entry {v w : Value} (before after : Table) (key : String) (h : Reorders v w) :
    Reorders (.table (before ++ (key, v) :: after)) (.table (before ++ (key, w) :: after))
  | item {v w : Value} (before after : List Value) (h : Reorders v w) :
    Reorders (.array (before ++ v :: after)) (.array (before ++ w :: after))
  | element {v w : Value} (before after : List Value) (h : Reorders v w) :
    Reorders (.tables (before ++ v :: after)) (.tables (before ++ w :: after))

theorem Value.Distinct.of_entry (h : (Value.table (before ++ (key, v) :: after)).Distinct) : v.Distinct := by
  cases h with
  | table _ hentries => exact hentries (key, v) (by simp)

theorem Value.Distinct.nodup_keys (h : (Value.table entries).Distinct) : (entries.map (·.1)).Nodup := by
  cases h with
  | table hkeys => exact hkeys

theorem Value.Distinct.sublist (h : (Value.table entries).Distinct) (hsublist : entries'.Sublist entries) :
    (Value.table entries').Distinct := by
  cases h with
  | table hkeys hentries =>
    exact .table (hkeys.sublist (hsublist.map _)) fun e he => hentries e (hsublist.subset he)

theorem Value.Distinct.replace_entry (h : (Value.table (before ++ (key, v) :: after)).Distinct)
    (hw : w.Distinct) : (Value.table (before ++ (key, w) :: after)).Distinct := by
  cases h with
  | table hkeys hentries =>
    refine .table (by simpa using hkeys) fun e he => ?_
    rcases List.mem_append.1 he with he | he
    · exact hentries e (List.mem_append_left _ he)
    · rcases List.mem_cons.1 he with rfl | he
      · exact hw
      · exact hentries e (List.mem_append_right _ (List.mem_cons_of_mem _ he))

theorem forall_mem_replace {P : α → Prop} {before after : List α} {a a' : α}
    (h : ∀ b ∈ before ++ a :: after, P b) (ha' : P a') : ∀ b ∈ before ++ a' :: after, P b := by
  rw [List.forall_mem_append, List.forall_mem_cons] at h ⊢
  exact ⟨h.1, ha', h.2.2⟩

theorem Value.Reorders.distinct (h : v.Reorders w) (hv : v.Distinct) : w.Distinct := by
  induction h with
  | keys hperm =>
    cases hv with
    | table hkeys hentries =>
      exact .table ((hperm.map _).nodup_iff.1 hkeys) fun e he => hentries e (hperm.mem_iff.2 he)
  | entry before after key _ ih => exact hv.replace_entry (ih hv.of_entry)
  | item before after _ ih =>
    cases hv with
    | array hitems => exact .array (forall_mem_replace hitems (ih (hitems _ (by simp))))
  | element before after _ ih =>
    cases hv with
    | tables hitems => exact .tables (forall_mem_replace hitems (ih (hitems _ (by simp))))

/-- What a decoder reads does not depend on the order of keys. -/
def Decoder.IgnoresOrder (d : Decoder α) : Prop :=
  ∀ ⦃v w a⦄, v.Distinct → v.Reorders w → d v = .ok a → d w = .ok a

namespace Decoder

variable {d : Decoder α} {item : Decoder α}

@[simp] theorem ignoresOrder_text (expected : String) : (text expected).IgnoresOrder := by
  intro v w a _ h hv
  cases h <;> cases hv

@[simp] theorem ignoresOrder_boolean : boolean.IgnoresOrder := by
  intro v w a _ h hv
  cases h <;> cases hv

theorem IgnoresOrder.map (hd : d.IgnoresOrder) (f : α → β) :
    IgnoresOrder fun v => (d v).map f := by
  intro v w b hdistinct h hv
  obtain ⟨a, ha, rfl⟩ := map_eq_ok.1 hv
  exact map_eq_ok.2 ⟨a, hd hdistinct h ha, rfl⟩

@[simp] theorem IgnoresOrder.present (hd : d.IgnoresOrder) : (present d).IgnoresOrder :=
  hd.map some

@[simp] theorem IgnoresOrder.list (hitem : item.IgnoresOrder) : (list item).IgnoresOrder := by
  -- Both kinds of lists are read alike, item by item.
  have hmap : ∀ {before after : List Value} {v w as}, v.Distinct → v.Reorders w →
      (before ++ v :: after).mapM item = .ok as → (before ++ w :: after).mapM item = .ok as := by
    intro before after v w as hdistinct h hv
    exact (GoesOnFrom.of_mapM hv).eq_ok hv fun a => hitem hdistinct h
  intro v w as hdistinct h hv
  cases h with
  | keys => cases hv
  | entry => cases hv
  | item before after h =>
    cases hdistinct with
    | array hitems => exact hmap (hitems _ (by simp)) h hv
  | element before after h =>
    cases hdistinct with
    | tables hitems => exact hmap (hitems _ (by simp)) h hv

theorem isBare_of_reorders (h : v.Reorders w) : isBare w = isBare v := by
  cases h with
  | keys hperm => exact hperm.symm.isEmpty_eq
  | entry before => cases before <;> rfl
  | item before => cases before <;> rfl
  | element before => cases before <;> rfl

@[simp] theorem ignoresOrder_choice (variants : List (String × α)) : (choice variants).IgnoresOrder := by
  intro v w a _ h hv
  cases h with
  | @keys entries entries' hperm =>
    match entries with
    | [] => cases hv
    | [e] => rwa [← List.singleton_perm.1 hperm]
    | _ :: _ :: _ => cases hv
  | entry before after key h =>
    match before, after with
    | [], [] =>
      rw [List.nil_append, choice] at hv ⊢
      obtain ⟨b, hname, hcontent⟩ := bind_eq_ok.1 hv
      refine bind_eq_ok.2 ⟨b, hname, ?_⟩
      rw [isBare_of_reorders h]
      split at hcontent
      · next hbare => rwa [if_pos hbare]
      · cases hcontent
    | [], _ :: _ => cases hv
    | [_], _ => cases hv
    | _ :: _ :: _, _ => cases hv
  | item => cases hv
  | element => cases hv

end Decoder

/-! ## Fields -/

namespace Field

variable {f g : Field σ}

/-- What a field is set to does not depend on the order of keys in its value. -/
def IgnoresOrder (f : Field σ) : Prop :=
  ∀ ⦃v w s s'⦄, v.Distinct → v.Reorders w → f.set v s = .ok s' → f.set w s = .ok s'

/-- Two fields can be set in either order. -/
def Swaps (f g : Field σ) : Prop :=
  ∀ v w s s', (f.set v s >>= g.set w) = .ok s' ↔ (g.set w s >>= f.set v) = .ok s'

instance : Std.Symm (@Swaps σ) where
  symm _ _ h := fun v w s s' => (h w v s s').symm

section Reading

-- Fields are set to what a decoder reads, whether they have to be there or not.
variable {d : Decoder α} {e : Decoder β} {put : α → σ → σ} {put' : β → σ → σ} {name name' : String}
  {required required' : Bool}

@[simp] theorem ignoresOrder_mk (hd : d.IgnoresOrder) :
    IgnoresOrder ⟨name, required, fun v s => (d v).map (put · s)⟩ := by
  intro v w s s' hdistinct h hv
  exact hd.map (put · s) hdistinct h hv

@[simp] theorem swaps_mk (h : ∀ a b s, put' b (put a s) = put a (put' b s)) :
    Swaps ⟨name, required, fun v s => (d v).map (put · s)⟩
      ⟨name', required', fun v s => (e v).map (put' · s)⟩ := by
  intro v w s s'
  cases hv : d v <;> cases hw : e w <;> simp [hv, hw, bind, Except.bind, Except.map, h]

end Reading

end Field

/-! ## Types of records -/

namespace RecordType

variable {t : RecordType σ} {s s' : σ} {f : Field σ}

/-- The fields of a type have different names, and are set independently of each other and of the order of
    keys in their values. -/
structure Orderly (t : RecordType σ) : Prop where
  names : (t.fields.map (·.name)).Nodup
  swaps : t.fields.Pairwise Field.Swaps
  ignoresOrder : ∀ f ∈ t.fields, f.IgnoresOrder

theorem Orderly.find?_field (ht : t.Orderly) (hf : f ∈ t.fields) :
    t.fields.find? (·.name = f.name) = some f := by
  cases hfind : t.fields.find? (·.name = f.name) with
  | none => simpa using List.find?_eq_none.1 hfind f hf
  | some g =>
    have hname : g.name = f.name := by simpa using List.find?_some hfind
    rw [List.inj_on_of_nodup_map ht.names (List.mem_of_find?_eq_some hfind) hf hname]

theorem Orderly.setEntry_eq (ht : t.Orderly) (hf : f ∈ t.fields) (v : Value) (s : σ) :
    t.setEntry s (f.name, v) = f.set v s := by
  rw [setEntry, ht.find?_field hf]

theorem setEntry_of_not_mem (h : key ∉ t.fields.map (·.name)) (v : Value) (s : σ) :
    t.setEntry s (key, v) = .error (.unknownField key (t.fields.map (·.name))) := by
  have hnone : t.fields.find? (·.name = key) = none :=
    List.find?_eq_none.2 fun f hf hname => h (of_decide_eq_true hname ▸ List.mem_map_of_mem hf)
  rw [setEntry, hnone]

/-- A key that sets something is the name of a field. -/
theorem exists_field_of_setEntry {e : String × Value} (h : t.setEntry s e = .ok s') :
    ∃ f ∈ t.fields, f.name = e.1 := by
  rw [setEntry] at h
  split at h
  · next f hfind => exact ⟨f, List.mem_of_find?_eq_some hfind, by simpa using List.find?_some hfind⟩
  · cases h

theorem find?_missing_eq_none {keys : List String} :
    t.fields.find? (fun f => f.required && !keys.contains f.name) = none ↔
      ∀ f ∈ t.fields, f.required = true → f.name ∈ keys := by
  simp

/-- A record is read if every key sets its field, and no field is missing that has to be there. -/
theorem ofEntries_eq_ok : t.ofEntries entries = .ok s ↔ entries.foldlM t.setEntry t.start = .ok s ∧
    ∀ f ∈ t.fields, f.required = true → f.name ∈ entries.map (·.1) := by
  rw [ofEntries, bind_eq_ok]
  constructor
  · rintro ⟨s', hfold, hcheck⟩
    split at hcheck
    · cases hcheck
    · next hnone =>
      cases hcheck
      exact ⟨hfold, find?_missing_eq_none.1 hnone⟩
  · rintro ⟨hfold, hall⟩
    exact ⟨s, hfold, by rw [find?_missing_eq_none.2 hall]⟩

/-- Whether a record is read depends on what a key sets, if all the others can be read. -/
theorem goesOnFrom_setEntry (h : t.ofEntries (before ++ (key, v) :: after) = .ok s) :
    ∃ s₁, GoesOnFrom (fun w => t.ofEntries (before ++ (key, w) :: after)) fun w => t.setEntry s₁ (key, w) := by
  obtain ⟨hfold, hall⟩ := ofEntries_eq_ok.1 h
  rw [List.foldlM_append] at hfold
  obtain ⟨s₁, hbefore, -⟩ := bind_eq_ok.1 hfold
  refine ⟨s₁, fun s₂ => after.foldlM t.setEntry s₂, fun w => ?_⟩
  have hkeys : (before ++ (key, w) :: after).map (·.1) = (before ++ (key, v) :: after).map (·.1) := by
    simp
  change t.ofEntries (before ++ (key, w) :: after) = _
  rw [ofEntries, hkeys, find?_missing_eq_none.2 hall, List.foldlM_append, hbefore]
  exact bind_pure _

/-- The order of the keys of a table does not matter. -/
theorem Orderly.ofEntries_perm (ht : t.Orderly) (hkeys : (entries.map (·.1)).Nodup)
    (hperm : entries.Perm entries') (h : t.ofEntries entries = .ok s) : t.ofEntries entries' = .ok s := by
  obtain ⟨hfold, hall⟩ := ofEntries_eq_ok.1 h
  refine ofEntries_eq_ok.2 ⟨foldlM_perm hperm (fun e he e' he' hne c c' hset => ?_) hfold,
    fun f hf hrequired => ?_⟩
  · obtain ⟨k, v⟩ := e
    obtain ⟨k', v'⟩ := e'
    obtain ⟨c₁, hfirst, hsecond⟩ := bind_eq_ok.1 hset
    obtain ⟨f, hf, rfl⟩ := exists_field_of_setEntry hfirst
    obtain ⟨g, hg, rfl⟩ := exists_field_of_setEntry hsecond
    have hfields : f ≠ g := by
      rintro rfl
      exact hne (List.inj_on_of_nodup_map hkeys he he' rfl)
    have hswaps : f.Swaps g := ht.swaps.forall hf hg hfields
    simp only [ht.setEntry_eq hf, ht.setEntry_eq hg] at hset ⊢
    exact (hswaps v v' c c').1 hset
  · exact (hperm.map _).mem_iff.1 (hall f hf hrequired)

/-- A key and its value say what goes without saying: the value sets the field of the key to what it is from
    the start, and the field need not be there. -/
def Redundant (t : RecordType σ) (key : String) (v : Value) : Prop :=
  t.setEntry t.start (key, v) = .ok t.start ∧ ∀ f ∈ t.fields, f.name = key → f.required = false

/-- What goes without saying may as well be left out. -/
theorem Orderly.ofEntries_of_redundant (ht : t.Orderly)
    (hkeys : ((before ++ (key, v) :: after).map (·.1)).Nodup) (hredundant : t.Redundant key v)
    (h : t.ofEntries (before ++ (key, v) :: after) = .ok s) : t.ofEntries (before ++ after) = .ok s := by
  obtain ⟨hset, hoptional⟩ := hredundant
  obtain ⟨hfold, hall⟩ := ofEntries_eq_ok.1 (ht.ofEntries_perm hkeys List.perm_middle h)
  rw [List.foldlM_cons, hset] at hfold
  refine ofEntries_eq_ok.2 ⟨hfold, fun f hf hrequired => ?_⟩
  rcases List.mem_cons.1 (hall f hf hrequired) with hname | hmem
  · rw [hoptional f hf hname] at hrequired
    cases hrequired
  · exact hmem

/-- A key of no field is an error, wherever it stands. -/
theorem exists_ofEntries_eq_error (hkey : key ∉ t.fields.map (·.name)) (v : Value) :
    ∃ e, t.ofEntries (before ++ (key, v) :: after) = .error e := by
  cases h : t.ofEntries (before ++ (key, v) :: after) with
  | error e => exact ⟨e, rfl⟩
  | ok s =>
    obtain ⟨s₁, s₂, hset⟩ := exists_step_of_foldlM (ofEntries_eq_ok.1 h).1 (a := (key, v)) (by simp)
    rw [setEntry_of_not_mem hkey] at hset
    cases hset

/-- Among keys that can be read, the error is that the key is unknown. -/
theorem ofEntries_of_unknown (hkey : key ∉ t.fields.map (·.name)) (v : Value)
    (h : t.ofEntries (before ++ after) = .ok s) : t.ofEntries (before ++ (key, v) :: after) =
      .error (.unknownField key (t.fields.map (·.name))) := by
  obtain ⟨hfold, -⟩ := ofEntries_eq_ok.1 h
  rw [List.foldlM_append] at hfold
  obtain ⟨s₁, hbefore, -⟩ := bind_eq_ok.1 hfold
  refine bind_eq_error.2 (.inl (foldlM_eq_error.2 ?_))
  exact ⟨before, (key, v), after, s₁, rfl, hbefore, setEntry_of_not_mem hkey v s₁⟩

theorem setItems_of_reorders {fields : List (Field σ)} {before after : List Value} {n : Nat}
    (hfields : ∀ f ∈ fields, f.IgnoresOrder) (hv : v.Distinct) (hreorders : v.Reorders w)
    (h : t.setItems n fields (before ++ v :: after) s = .ok s') :
    t.setItems n fields (before ++ w :: after) s = .ok s' := by
  induction fields generalizing n before s with
  | nil => cases before <;> exact h
  | cons f fields ih =>
    obtain ⟨hf, hrest⟩ := List.forall_mem_cons.1 hfields
    cases before with
    | nil =>
      obtain ⟨s₁, hset, hlater⟩ := bind_eq_ok.1 h
      exact bind_eq_ok.2 ⟨s₁, hf hv hreorders hset, hlater⟩
    | cons item before =>
      obtain ⟨s₁, hset, hlater⟩ := bind_eq_ok.1 h
      exact bind_eq_ok.2 ⟨s₁, hset, ih hrest hlater⟩

theorem Orderly.ignoresOrder_decoder (ht : t.Orderly) : t.decoder.IgnoresOrder := by
  intro v w s hdistinct h hv
  cases h with
  | keys hperm => exact ht.ofEntries_perm hdistinct.nodup_keys hperm hv
  | entry before after key h =>
    obtain ⟨s₁, hgoesOn⟩ := goesOnFrom_setEntry hv
    refine hgoesOn.eq_ok hv fun s₂ hset => ?_
    obtain ⟨f, hf, rfl⟩ := exists_field_of_setEntry hset
    rw [ht.setEntry_eq hf] at hset ⊢
    exact ht.ignoresOrder f hf hdistinct.of_entry h hset
  | item before after h =>
    cases hdistinct with
    | array hitems => exact setItems_of_reorders ht.ignoresOrder (hitems _ (by simp)) h hv
  | element before after h =>
    cases hdistinct with
    | tables hitems => exact setItems_of_reorders ht.ignoresOrder (hitems _ (by simp)) h hv

end RecordType

end Buildwright.Toml
