-- SUMMARY: A configuration does not depend on how a document puts it, and a key that no record knows is an error everywhere.
import Mathlib.Logic.Relation
import Buildwright.Config.Load
import Buildwright.Proofs.Toml.Records

/-!
# Documents over the standard configuration

A document is laid over the standard configuration: it may name its keys in any order, and what it says about
a key may be left out if it is the standard anyway. `Rephrases` has these changes one by one, and any number
of them may be made to a document without a change to the configuration. A key that is the name of no field
cannot be added to the tables that records are read from, however deep they lie.

The records of a configuration are of the types of `Part`, and one lies in another by way of a `Slot`. What is
around a part is the rest of the document: if it can be read, reading the document goes on from reading the
part.
-/
namespace Buildwright.Config

open Toml

/-! ## Fields in any order -/

@[simp] theorem ignoresOrder_text : text.IgnoresOrder :=
  Decoder.ignoresOrder_text "a string"

@[simp] theorem ignoresOrder_path : path.IgnoresOrder :=
  (Decoder.ignoresOrder_text "path string").map Path.mk

theorem orderly_loggingRecord : loggingRecord.Orderly where
  names := by decide
  swaps := by simp [loggingRecord, Field.optional]
  ignoresOrder := by simp [loggingRecord, Field.optional]

theorem orderly_bootstrapRecord : bootstrapRecord.Orderly where
  names := by decide
  swaps := by simp [bootstrapRecord, Field.mandatory]
  ignoresOrder := by simp [bootstrapRecord, Field.mandatory]

theorem orderly_generatorRecord : generatorRecord.Orderly where
  names := by decide
  swaps := by simp [generatorRecord, Field.mandatory, Field.optional]
  ignoresOrder := by simp [generatorRecord, Field.mandatory, Field.optional]

theorem orderly_buildRecord : buildRecord.Orderly where
  names := by decide
  swaps := by simp [buildRecord, Field.optional]
  ignoresOrder := by
    simp [buildRecord, Field.optional, orderly_bootstrapRecord.ignoresOrder_decoder,
      orderly_generatorRecord.ignoresOrder_decoder]

theorem orderly_devRecord : devRecord.Orderly where
  names := by decide
  swaps := by simp [devRecord, Field.optional]
  ignoresOrder := by simp [devRecord, Field.optional]

theorem orderly_record : record.Orderly where
  names := by decide
  swaps := by simp [record, Field.optional]
  ignoresOrder := by
    simp [record, Field.optional, orderly_loggingRecord.ignoresOrder_decoder,
      orderly_buildRecord.ignoresOrder_decoder, orderly_devRecord.ignoresOrder_decoder]

/-! ## Parts -/

/-- The parts of a document that records are read from. -/
inductive Part where
  | whole
  | logging
  | build
  | bootstrap
  | generator
  | dev

namespace Part

variable {part : Part} {key : String} {v : Value}

/-- What is read from a part. -/
def Record : Part → Type
  | whole => Config
  | logging => LoggingConfig
  | build => BuildConfig
  | bootstrap => BootstrapConfig
  | generator => GeneratorConfig
  | dev => DevConfig

/-- How it is read. -/
def type : (part : Part) → RecordType part.Record
  | whole => record
  | logging => loggingRecord
  | build => buildRecord
  | bootstrap => bootstrapRecord
  | generator => generatorRecord
  | dev => devRecord

/-- The names of the fields. -/
def keys (part : Part) : List String :=
  part.type.fields.map (·.name)

/-- The standard values, as a document would put them. Fields that are not mentioned have no standard value, or
    one that no document can put. -/
def standards : Part → Table
  | whole => [("logging", .table []), ("build", .table []), ("devmode", .table [])]
  | logging => [("level", .string "info"), ("json", .boolean false), ("stderr", .boolean true)]
  | build => [("app_package", .string "org.kie"), ("dependency_injection", .boolean true),
      ("rest_policy", .string "jax-rs-resource"), ("generators", .array []), ("classpath", .array []),
      ("javac", .string "javac")]
  | bootstrap => []
  | generator => [("root", .string "src/main"), ("kind", .string "generic")]
  | dev => [("staleness_fail_mode", .string "assume-stale"),
      ("source_roots", .array [.string "src/main/java", .string "src/main/resources"])]

theorem orderly_type (part : Part) : part.type.Orderly := by
  cases part with
  | whole => exact orderly_record
  | logging => exact orderly_loggingRecord
  | build => exact orderly_buildRecord
  | bootstrap => exact orderly_bootstrapRecord
  | generator => exact orderly_generatorRecord
  | dev => exact orderly_devRecord

/-- The standard values are those that records start with. -/
theorem redundant_of_mem_standards (h : (key, v) ∈ part.standards) : part.type.Redundant key v := by
  have hset : ∀ e ∈ part.standards, part.type.setEntry part.type.start e = .ok part.type.start := by
    cases part <;> simp only [standards, List.forall_mem_cons, List.not_mem_nil, false_imp_iff, implies_true]
    case whole => exact ⟨rfl, rfl, rfl, trivial⟩
    case logging => exact ⟨rfl, rfl, rfl, trivial⟩
    case build => exact ⟨rfl, rfl, rfl, rfl, rfl, rfl, trivial⟩
    case generator => exact ⟨rfl, rfl, trivial⟩
    case dev => exact ⟨rfl, rfl, trivial⟩
  have hoptional : ∀ e ∈ part.standards, ∀ f ∈ part.type.fields, f.name = e.1 → f.required = false := by
    cases part <;> decide
  exact ⟨hset _ h, hoptional _ h⟩

end Part

/-! ## Parts in others -/

/-- The ways in which one part lies in another. -/
inductive Slot : Part → Part → Type
  | logging : Slot .whole .logging
  | build : Slot .whole .build
  | dev : Slot .whole .dev
  | bootstrap : Slot .build .bootstrap
  | generator (earlier later : List Value) : Slot .build .generator
  | inlineGenerator (earlier later : List Value) : Slot .build .generator

namespace Slot

variable {outer inner : Part} {t t' : Table}

/-- The key of the outer part that has the inner one in its value. -/
def key : Slot outer inner → String
  | logging => "logging"
  | build => "build"
  | dev => "devmode"
  | bootstrap => "bootstrap"
  | generator _ _ | inlineGenerator _ _ => "generators"

/-- The value of the key, with a table as the inner part. -/
def value : Slot outer inner → Table → Value
  | generator earlier later, t => .tables (earlier ++ .table t :: later)
  | inlineGenerator earlier later, t => .array (earlier ++ .table t :: later)
  | _, t => .table t

theorem distinct_table (slot : Slot outer inner) (h : (slot.value t).Distinct) :
    (Value.table t).Distinct := by
  cases slot with
  | generator earlier later =>
    cases h with
    | tables hitems => exact hitems _ (by simp)
  | inlineGenerator earlier later =>
    cases h with
    | array hitems => exact hitems _ (by simp)
  | _ => exact h

theorem distinct_value (slot : Slot outer inner) (h : (slot.value t).Distinct)
    (ht : (Value.table t').Distinct) : (slot.value t').Distinct := by
  cases slot with
  | generator earlier later =>
    cases h with
    | tables hitems => exact .tables (forall_mem_replace hitems ht)
  | inlineGenerator earlier later =>
    cases h with
    | array hitems => exact .array (forall_mem_replace hitems ht)
  | _ => exact ht

/-- The key sets its field to what is read from the inner part. -/
theorem goesOnFrom (slot : Slot outer inner) {s s' : outer.Record}
    (h : outer.type.setEntry s (slot.key, slot.value t) = .ok s') :
    GoesOnFrom (fun t' => outer.type.setEntry s (slot.key, slot.value t')) inner.type.ofEntries := by
  cases slot with
  | logging => exact (GoesOnFrom.refl loggingRecord.ofEntries).map _
  | build => exact (GoesOnFrom.refl buildRecord.ofEntries).map _
  | dev => exact (GoesOnFrom.refl devRecord.ofEntries).map _
  | bootstrap => exact ((GoesOnFrom.refl bootstrapRecord.ofEntries).map some).map _
  | generator earlier later =>
    obtain ⟨gs, hgs, -⟩ := map_eq_ok.1 h
    exact ((GoesOnFrom.of_mapM hgs).comp Value.table).map _
  | inlineGenerator earlier later =>
    obtain ⟨gs, hgs, -⟩ := map_eq_ok.1 h
    exact ((GoesOnFrom.of_mapM hgs).comp Value.table).map _

end Slot

/-- What is around a part of a document. -/
inductive Surroundings : Part → Type
  | root : Surroundings .whole
  | within {outer inner : Part} (around : Surroundings outer) (slot : Slot outer inner)
    (before after : Table) : Surroundings inner

namespace Surroundings

variable {part : Part} {t t' before after : Table} {c : Config} {key : String} {v : Value}

/-- The document with a table as the part. -/
def fill {part : Part} (around : Surroundings part) (t : Table) : Table :=
  match around with
  | root => t
  | within around slot before after => around.fill (before ++ (slot.key, slot.value t) :: after)

theorem distinct_table (around : Surroundings part) (h : (Value.table (around.fill t)).Distinct) :
    (Value.table t).Distinct := by
  induction around generalizing t with
  | root => exact h
  | within around slot before after ih => exact slot.distinct_table (ih h).of_entry

theorem distinct_fill (around : Surroundings part) (h : (Value.table (around.fill t)).Distinct)
    (ht : (Value.table t').Distinct) : (Value.table (around.fill t')).Distinct := by
  induction around generalizing t t' with
  | root => exact ht
  | within around slot before after ih =>
    have houter := around.distinct_table h
    exact ih h (houter.replace_entry (slot.distinct_value houter.of_entry ht))

/-- What is around a part that can be read can be read for any table as the part. The induction goes outwards:
    the part around this one is read key by key, and its key for this one is set from the table. -/
theorem goesOnFrom (around : Surroundings part) (h : ofTable (around.fill t) = .ok c) :
    GoesOnFrom (fun t' => ofTable (around.fill t')) part.type.ofEntries := by
  induction around generalizing t with
  | root => exact GoesOnFrom.refl ofTable
  | within around slot before after ih =>
    have houter := ih h
    obtain ⟨s, hs⟩ := houter.exists_eq_ok h
    obtain ⟨s₁, hentry⟩ := RecordType.goesOnFrom_setEntry hs
    obtain ⟨s₂, hset⟩ := hentry.exists_eq_ok hs
    exact (houter.comp _).trans ((hentry.comp _).trans (slot.goesOnFrom hset))

theorem distinct_of_omitted (around : Surroundings part)
    (h : (Value.table (around.fill (before ++ (key, v) :: after))).Distinct) :
    (Value.table (around.fill (before ++ after))).Distinct :=
  around.distinct_fill h ((around.distinct_table h).sublist
    ((List.sublist_cons_self _ _).append_left before))

theorem ofTable_of_omitted (around : Surroundings part) (hredundant : part.type.Redundant key v)
    (hdistinct : (Value.table (around.fill (before ++ (key, v) :: after))).Distinct)
    (h : ofTable (around.fill (before ++ (key, v) :: after)) = .ok c) :
    ofTable (around.fill (before ++ after)) = .ok c := by
  have hkeys := (around.distinct_table hdistinct).nodup_keys
  exact (around.goesOnFrom h).eq_ok h fun s => part.orderly_type.ofEntries_of_redundant hkeys hredundant

/-- A document with a key of no field is not read. -/
theorem exists_ofTable_eq_error (around : Surroundings part) (hkey : key ∉ part.keys) (v : Value) :
    ∃ e, ofTable (around.fill (before ++ (key, v) :: after)) = .error e := by
  cases h : ofTable (around.fill (before ++ (key, v) :: after)) with
  | error e => exact ⟨e, rfl⟩
  | ok c =>
    obtain ⟨s, hs⟩ := (around.goesOnFrom h).exists_eq_ok h
    obtain ⟨e, he⟩ := RecordType.exists_ofEntries_eq_error hkey v
    cases hs.symm.trans he

/-- If the document can be read without the key, the key is the error. -/
theorem ofTable_of_unknown (around : Surroundings part) (hkey : key ∉ part.keys) (v : Value)
    (h : ofTable (around.fill (before ++ after)) = .ok c) :
    ofTable (around.fill (before ++ (key, v) :: after)) = .error (.unknownField key part.keys) := by
  have hgoesOn := around.goesOnFrom h
  obtain ⟨s, hs⟩ := hgoesOn.exists_eq_ok h
  exact hgoesOn.eq_error (RecordType.ofEntries_of_unknown hkey v hs)

end Surroundings

/-! ## Documents in other words -/

variable {doc doc' : Table} {c : Config}

/-- What changes nothing about a document: another order of the keys of one of its tables, and a key left out
    that says no more than what holds without it. -/
inductive Rephrases : Table → Table → Prop
  | reordered {doc doc' : Table} (h : (Value.table doc).Reorders (.table doc')) : Rephrases doc doc'
  | omitted {part : Part} (around : Surroundings part) (before after : Table) {key : String} {v : Value}
    (h : part.type.Redundant key v) :
    Rephrases (around.fill (before ++ (key, v) :: after)) (around.fill (before ++ after))
  | standard {part : Part} (around : Surroundings part) (before after : Table) {key : String} {v : Value}
    (h : (key, v) ∈ part.standards) :
    Rephrases (around.fill (before ++ (key, v) :: after)) (around.fill (before ++ after))

theorem Rephrases.distinct (h : Rephrases doc doc') (hdoc : (Value.table doc).Distinct) :
    (Value.table doc').Distinct := by
  cases h with
  | reordered h => exact h.distinct hdoc
  | omitted around before after h => exact around.distinct_of_omitted hdoc
  | standard around before after h => exact around.distinct_of_omitted hdoc

theorem Rephrases.ofTable_eq_ok (h : Rephrases doc doc') (hdoc : (Value.table doc).Distinct)
    (hc : ofTable doc = .ok c) : ofTable doc' = .ok c := by
  cases h with
  | reordered h => exact orderly_record.ignoresOrder_decoder hdoc h hc
  | omitted around before after h => exact around.ofTable_of_omitted h hdoc hc
  | standard around before after h =>
    exact around.ofTable_of_omitted (Part.redundant_of_mem_standards h) hdoc hc

/-- A document is laid over the standard configuration, which is that of the empty document: in other words it is
    still the same configuration, and with a key of no field in one of its parts it is none. -/
structure Overlays (doc : Table) : Prop where
  standard : ofTable [] = .ok {}
  rephrased : ∀ {doc' c}, ofTable doc = .ok c → Relation.ReflTransGen Rephrases doc doc' →
    ofTable doc' = .ok c
  unknown : ∀ {part} (around : Surroundings part) {before after key} (v), key ∉ part.keys →
    doc = around.fill (before ++ after) → ∃ e, ofTable (around.fill (before ++ (key, v) :: after)) = .error e
  unknownField : ∀ {part} (around : Surroundings part) {before after key} (v) {c}, key ∉ part.keys →
    doc = around.fill (before ++ after) → ofTable doc = .ok c →
    ofTable (around.fill (before ++ (key, v) :: after)) = .error (.unknownField key part.keys)

/-- A document without repeated keys is laid over the standard configuration. -/
theorem overlays (hdoc : (Value.table doc).Distinct) : Overlays doc where
  standard := rfl
  rephrased {doc' c} hc hrephrases := by
    -- The keys stay distinct along the way, or the next change of their order could make a difference.
    have hall : (Value.table doc').Distinct ∧ ofTable doc' = .ok c := by
      induction hrephrases with
      | refl => exact ⟨hdoc, hc⟩
      | tail _ hstep ih => exact ⟨hstep.distinct ih.1, hstep.ofTable_eq_ok ih.1 ih.2⟩
    exact hall.2
  unknown around _ _ _ v hkey _ := around.exists_ofTable_eq_error hkey v
  unknownField around _ _ _ v _ hkey heq hc := around.ofTable_of_unknown hkey v (heq ▸ hc)

/-- A document with a record of every type, and with keys that need not be there. -/
def sample : String :=
  "[build]\nrest_policy = 'jax-rs-resource'\n\n" ++
  "[[build.generators]]\nextension = 'txt'\nkind = 'generic'\nname = 'notes'\n\n" ++
  "[build.bootstrap]\nsource_path = 'Start.java'\nclass_name = 'Start'\n\n" ++
  "[logging]\njson = true\nlevel = 'info'\n\n[devmode]\n"

/-- What it says, without what goes without saying. -/
def sampleConfig : Config where
  logging := { json := true }
  build := {
    bootstrap := some ⟨"Start", "Start.java"⟩
    generators := [{ name := "notes", extension := "txt" }] }

theorem overlays_sample : ∃ doc, Toml.parse? sample = some doc ∧ (Value.table doc).Distinct ∧
    (ofTable doc).toOption = some sampleConfig ∧ Overlays doc := by
  have hread : ((Toml.parse? sample).bind fun doc => (ofTable doc).toOption) = some sampleConfig := by
    decide +kernel
  obtain ⟨doc, hparse, hconfig⟩ := Option.bind_eq_some_iff.1 hread
  have hdistinct := distinct_of_parse? hparse
  exact ⟨doc, hparse, hdistinct, hconfig, overlays hdistinct⟩

end Buildwright.Config
