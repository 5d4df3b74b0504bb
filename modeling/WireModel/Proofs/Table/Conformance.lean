import WireModel.Proofs.Lists
import WireModel.Proofs.Plan.Shape
import WireModel.Proofs.Value.Plain

/-!
# Conformance

Which wire forms a table allows, what they are read as, and what is written back, without plans,
codecs or fuel.

* **`Table.Conforms`**: whether a value conforms to a type. The flag says whether the
  discriminator of the outermost model is ignored, as it is once a discriminator has led there.
* **`Table.Reads`**: the same with the decoded value.
* **`Table.Writable`**: whether a decoded value can be written back to the wire form. An instance is
  written by its own model, or by the root of its family, or by a discriminated union that leads to
  its model. An undiscriminated union writes by its first variant of the shape; that is where
  instances get lost, because a root only has the shape of its own instances. The result of a
  writable value holds no instance and nothing unset, so a type that takes every value writes plain
  ones only.

All are least relations, so a union that only leads back to itself allows nothing.
-/

namespace WireModel

open Types (WireType)

/-- The model that a discriminator chooses for a mapping; the last entry of a tag counts. -/
def Schema.Discriminator.chosen (d : Schema.Discriminator) (members : List (Value × Value)) :
    Option String :=
  ((Value.lookup d.property members).bind Value.asStr?).bind fun tag =>
    d.mapping.reverse.lookup tag

namespace Table

/-- The record of a name. -/
def record? (table : Table) (name : String) : Option RecordModel :=
  match table.get? name with
  | some (.record r) => some r
  | _ => none

/-- The record whose fields a mapping for a record has to have: that which the discriminator
chooses if the mapping has its property, and otherwise the record itself. -/
def chosen (table : Table) (ignoring : Bool) (r : RecordModel) (members : List (Value × Value)) :
    Option RecordModel :=
  match r.discriminator.filter fun d => !ignoring && Value.hasKey d.property members with
  | none => some r
  | some d => (d.chosen members).bind table.record?

variable (table : Table)

/-- A wire form conforms to a type. -/
inductive Conforms : Bool → WireType → Value → Prop
  | primitive {i kind format d} : Conforms i (.primitive kind format) d
  | enum {i name values kind d} : d.member values = true → Conforms i (.enum name values kind) d
  | optional {i t d} : Conforms false t d → Conforms i (.optional t) d
  | null {i t} : Conforms i (.nullable t) .null
  | nullable {i t d} : Conforms false t d → Conforms i (.nullable t) d
  | sequence {i t items} : (∀ d ∈ items, d = .null → t.isNullable = true) →
      (∀ d ∈ items, Conforms false t d) → Conforms i (.sequence t) (.list items)
  | mapping {i t entries} : (∀ entry ∈ entries, entry.2 = .null → t.isNullable = true) →
      (∀ entry ∈ entries, Conforms false t entry.2) → Conforms i (.mapping t) (.map entries)
  | record {i name r s members} : table.record? name = some r →
      table.chosen i r members = some s →
      (∀ f ∈ s.fields, Value.lookup f.wireName members = none → f.required = false) →
      (∀ f ∈ s.fields, Value.lookup f.wireName members = some .null → f.nullable = true) →
      (∀ f ∈ s.fields, ∀ d, Value.lookup f.wireName members = some d → d ≠ .null →
        Conforms false f.type d) →
      Conforms i (.model name) (.map members)
  | named {i name u d} : table.get? name = some (.union u) → Conforms false u.type d →
      Conforms i (.model name) d
  | tagged {i name mode d variants members target} : d.chosen members = some target →
      Conforms false (.model target) (.map members) →
      Conforms i (.union name mode (some d) variants) (.map members)
  | untagged {i name mode variants t d} :
      Types.IsFirst (table.HasShape RecordReading.wire d) variants t → Conforms false t d →
      Conforms i (.union name mode none variants) d

/-- A wire form of a type is read as a value. -/
inductive Reads : Bool → WireType → Value → Value → Prop
  | primitive {i kind format d} : Reads i (.primitive kind format) d d
  | enum {i name values kind d} : d.member values = true → Reads i (.enum name values kind) d d
  | optional {i t d v} : Reads false t d v → Reads i (.optional t) d v
  | null {i t} : Reads i (.nullable t) .null .null
  | nullable {i t d v} : d ≠ .null → Reads false t d v → Reads i (.nullable t) d v
  | sequence {i t items vs} : items.length = vs.length →
      (∀ d ∈ items, d = .null → t.isNullable = true) →
      (∀ p ∈ items.zip vs, Reads false t p.1 p.2) → Reads i (.sequence t) (.list items) (.list vs)
  | mapping {i t entries results} : entries.map Prod.fst = results.map Prod.fst →
      (∀ entry ∈ entries, entry.2 = .null → t.isNullable = true) →
      (∀ p ∈ entries.zip results, Reads false t p.1.2 p.2.2) →
      Reads i (.mapping t) (.map entries) (.map results)
  | record {i name r s members fields} : table.record? name = some r →
      table.chosen i r members = some s →
      fields.map Prod.fst = s.fields.map Field.attributeName →
      (∀ f ∈ s.fields, Value.lookup f.wireName members = none →
        f.required = false ∧ Value.attributeOf fields f.attributeName = .unset) →
      (∀ f ∈ s.fields, Value.lookup f.wireName members = some .null →
        f.nullable = true ∧ Value.attributeOf fields f.attributeName = .null) →
      (∀ f ∈ s.fields, ∀ d, Value.lookup f.wireName members = some d → d ≠ .null →
        Reads false f.type d (Value.attributeOf fields f.attributeName)) →
      Reads i (.model name) (.map members) (.record s.name fields)
  | named {i name u d v} : table.get? name = some (.union u) → Reads false u.type d v →
      Reads i (.model name) d v
  | tagged {i name mode d variants members target v} : d.chosen members = some target →
      Reads false (.model target) (.map members) v →
      Reads i (.union name mode (some d) variants) (.map members) v
  | untagged {i name mode variants t d v} :
      Types.IsFirst (table.HasShape RecordReading.wire d) variants t → Reads false t d v →
      Reads i (.union name mode none variants) d v

variable {table}

theorem mem_names_iff {n : String} : n ∈ table.names ↔ ∃ m, table.get? n = some m := by
  rw [← Option.isSome_iff_exists, get?, List.find?_isSome, names, List.mem_map]
  simp only [beq_iff_eq]

theorem record?_eq_some {name : String} {r : RecordModel} :
    table.record? name = some r ↔ table.get? name = some (.record r) := by
  unfold record?
  split
  · rename_i s found
    simp [found]
  · rename_i other
    simp only [reduceCtorEq, false_iff]
    exact fun found => other r found

theorem record_name {name : String} {r : RecordModel} (h : table.record? name = some r) :
    r.name = name :=
  name_of_get? (record?_eq_some.mp h)

theorem record_mem {name : String} {r : RecordModel} (h : table.record? name = some r) :
    .record r ∈ table.models :=
  mem_of_get? (record?_eq_some.mp h)

/-- Once a discriminator is ignored, a record has its own fields. -/
theorem chosen_ignoring (r : RecordModel) (members : List (Value × Value)) :
    table.chosen true r members = some r := by
  simp [chosen]


theorem mem_of_lookup {α : Type} {tag : String} {a : α} {entries : List (String × α)}
    (h : entries.lookup tag = some a) : (tag, a) ∈ entries := by
  obtain ⟨before, after, rfl, -⟩ := List.lookup_eq_some_iff.mp h
  exact List.mem_append_right _ List.mem_cons_self

/-- A discriminator chooses among its targets. -/
theorem mem_of_chosen {d : Schema.Discriminator} {members : List (Value × Value)}
    {target : String} (h : d.chosen members = some target) : ∃ tag, (tag, target) ∈ d.mapping := by
  obtain ⟨tag, -, h⟩ := Option.bind_eq_some_iff.mp h
  exact ⟨tag, List.mem_reverse.mp (mem_of_lookup h)⟩

/-- What is read conforms. -/
theorem Reads.conforms {i : Bool} {t : WireType} {d v : Value} (h : table.Reads i t d v) :
    table.Conforms i t d := by
  induction h with
  | primitive => exact .primitive
  | enum h => exact .enum h
  | optional _ ih => exact .optional ih
  | null => exact .null
  | nullable _ _ ih => exact .nullable ih
  | sequence same nulls _ ih =>
    refine .sequence nulls fun d mem => ?_
    obtain ⟨v, mem⟩ := exists_zip_of_mem_left same mem
    exact ih (d, v) mem
  | mapping keys nulls _ ih =>
    refine .mapping nulls fun entry mem => ?_
    have same := congrArg List.length keys
    simp only [List.length_map] at same
    obtain ⟨result, mem⟩ := exists_zip_of_mem_left same mem
    exact ih (entry, result) mem
  | record found chosen _ absent null _ ih =>
    exact .record found chosen (fun f mem h => (absent f mem h).1)
      (fun f mem h => (null f mem h).1) ih
  | named found _ ih => exact .named found ih
  | tagged chosen _ ih => exact .tagged chosen ih
  | untagged first _ ih => exact .untagged first ih

/-! ## Writing -/

/-- A value is written by a type. The flag says whether the discriminator of the outermost model
is ignored. -/
inductive Writable (table : Table) : Bool → WireType → Value → Prop
  | primitive {i kind format v} : v.isPlain = true → Writable table i (.primitive kind format) v
  | enum {i name values kind v} : v.isPlain = true → v.member values = true →
      Writable table i (.enum name values kind) v
  | optional {i t v} : Writable table false t v → Writable table i (.optional t) v
  | null {i t} : Writable table i (.nullable t) .null
  | nullable {i t v} : v ≠ .null → Writable table false t v → Writable table i (.nullable t) v
  | sequence {i t v items} : v.elements? = some items →
      (∀ w ∈ items, w = .null → t.isNullable = true) → (∀ w ∈ items, Writable table false t w) →
      Writable table i (.sequence t) v
  | mapping {i t entries} :
      (∀ entry ∈ entries, entry.1.isPlain = true ∧ entry.1.isTellable = true) →
      (∀ entry ∈ entries, entry.2 = .null → t.isNullable = true) →
      (∀ entry ∈ entries, Writable table false t entry.2) →
      Writable table i (.mapping t) (.map entries)
  | record {i name r fields} : table.record? name = some r →
      (∀ f ∈ r.fields, Value.attributeOf fields f.attributeName = .unset → f.required = false) →
      (∀ f ∈ r.fields, Value.attributeOf fields f.attributeName = .null → f.nullable = true) →
      (∀ f ∈ r.fields, Value.attributeOf fields f.attributeName ≠ .unset →
        Value.attributeOf fields f.attributeName ≠ .null →
        Writable table false f.type (Value.attributeOf fields f.attributeName)) →
      Writable table i (.model name) (.record name fields)
  | family {name r model fields} : table.record? name = some r → model ≠ name →
      model ∈ WireType.targets r.discriminator →
      Writable table true (.model model) (.record model fields) →
      Writable table false (.model name) (.record model fields)
  | named {i name u v} : table.get? name = some (.union u) → Writable table false u.type v →
      Writable table i (.model name) v
  | tagged {i name mode d variants model fields} : model ∈ WireType.targets (some d) →
      Writable table true (.model model) (.record model fields) →
      Writable table i (.union name mode (some d) variants) (.record model fields)
  | untagged {i name mode variants t v} :
      Types.IsFirst (table.HasShape RecordReading.held v) variants t → Writable table false t v →
      Writable table i (.union name mode none variants) v

end Table
end WireModel
