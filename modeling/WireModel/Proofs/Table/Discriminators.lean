import WireModel.Proofs.Table.Conformance
import WireModel.Proofs.Table.Invariants

/-!
# Discriminators that can be used

A discriminator is usable if every model that it leads to is a record with a field for its
property: only then is the tag kept in what is decoded. Building a table checks this for the
discriminators of models. For a union inside of a type it only checks that the models are there,
so such a discriminator may lead to a union, or to a record that drops the tag.
-/

namespace WireModel.Table

open Types (WireType Definition)
open Schema (Discriminator)

/-- The types that stand inside of a model: those of its fields, or its variants. -/
def innerTypes (m : Model) : List WireType := m.fields.map Field.type ++ m.variants

/-- A discriminator of a union inside of the types of a table, at any depth. -/
def Nested (table : Table) (d : Discriminator) : Prop :=
  ∃ m ∈ table.models, ∃ t ∈ innerTypes m, ∃ name mode variants,
    WireType.Part (.union name mode (some d) variants) t

/-- A discriminator occurs in a table: on a model, or on a union inside of a type. -/
def Discriminates (table : Table) (d : Discriminator) : Prop :=
  (∃ m ∈ table.models, m.discriminator = some d) ∨ table.Nested d

/-- A discriminator leads to records that have a field for its property. -/
def Usable (table : Table) (d : Discriminator) : Prop :=
  ∀ entry ∈ d.mapping, ∃ r, table.record? entry.2 = some r ∧ ∃ f ∈ r.fields, f.wireName = d.property

/-! ## Checks -/

/-- Whether a name is that of a record with a field of a wire name. -/
def declares (table : Table) (property name : String) : Bool :=
  match table.record? name with
  | some r => r.fields.any (·.wireName == property)
  | none => false

theorem declares_iff {table : Table} {property name : String} :
    table.declares property name = true ↔
      ∃ r, table.record? name = some r ∧ ∃ f ∈ r.fields, f.wireName = property := by
  unfold declares
  cases found : table.record? name with
  | none => simp
  | some r => simp

theorem checkTarget_declares {models : List Model} {model : String} {d : Discriminator}
    {target : String} (h : checkTarget models model d target = .ok ()) :
    ∃ r, models.find? (·.name == target) = some (.record r) ∧
      ∃ f ∈ r.fields, f.wireName = d.property := by
  unfold checkTarget at h
  split at h
  · rename_i r found
    split at h
    · rename_i some
      obtain ⟨f, mem, same⟩ := List.any_eq_true.mp some
      exact ⟨r, found, f, mem, by simpa using same⟩
    · cases h
  · cases h

namespace Building

variable {options : Options} {definitions : List (String × Definition)} {table : Table}
  {ignored : List String} {models : List Model} {first : List String}

/-- The discriminators of models are checked, so they are usable. -/
theorem usable (b : Building options definitions table ignored models first) {m : Model}
    (mem : m ∈ table.models) {d : Discriminator} (tagged : m.discriminator = some d) :
    table.Usable d := by
  intro entry there
  have checked := b.checked m (b.mem_models mem)
  unfold checkDiscriminator at checked
  rw [tagged] at checked
  obtain ⟨r, found, field⟩ := checkTarget_declares (ok_of_forM_eq_ok checked entry there)
  refine ⟨r, ?_, field⟩
  rw [record?, b.get?_eq, found]

end Building

/-- A part of a type that occurs in a table occurs there. -/
theorem Occurs.part {table : Table} {part t : WireType} (inside : WireType.Part part t) :
    table.Occurs t → table.Occurs part := by
  induction inside with
  | refl => exact id
  | optional _ ih => exact fun occurs => ih occurs.optional
  | nullable _ ih => exact fun occurs => ih occurs.nullable
  | sequence _ ih => exact fun occurs => ih occurs.sequence
  | mapping _ ih => exact fun occurs => ih occurs.mapping
  | variant mem _ ih => exact fun occurs => ih (occurs.variant mem)

theorem occurs_of_mem_innerTypes {table : Table} {m : Model} (mem : m ∈ table.models)
    {t : WireType} (inner : t ∈ innerTypes m) : table.Occurs t := by
  rcases List.mem_append.mp inner with field | variant
  · obtain ⟨f, there, rfl⟩ := List.mem_map.mp field
    cases m with
    | record r => exact .field mem there
    | union u => cases there
  · cases m with
    | record r => cases variant
    | union u => exact .variant (.union mem) variant

/-! ## Built tables -/

/-- In every table that is built, the discriminators of models are usable, and those of unions
inside of types lead to models of the table. So all discriminators are usable exactly if those
are that no model carries. -/
theorem discriminators_usable_iff {options : Options} {definitions : List (String × Definition)}
    {table : Table} (builds : build options definitions = .ok table) :
    (∀ m ∈ table.models, ∀ d, m.discriminator = some d → table.Usable d) ∧
    (∀ d, table.Nested d → ∀ entry ∈ d.mapping, entry.2 ∈ table.names) ∧
    ((∀ d, table.Discriminates d → table.Usable d) ↔
      ∀ d, table.Nested d → (∀ m ∈ table.models, m.discriminator ≠ some d) →
        ∀ entry ∈ d.mapping, table.declares d.property entry.2 = true) := by
  obtain ⟨ignored, models, first, b⟩ := exists_building builds
  have carried : ∀ m ∈ table.models, ∀ d, m.discriminator = some d → table.Usable d :=
    fun m mem d tagged => b.usable mem tagged
  refine ⟨carried, ?_, ?_⟩
  · rintro d ⟨m, mem, t, inner, name, mode, variants, inside⟩ entry there
    have occurs := (occurs_of_mem_innerTypes mem inner).part inside
    refine b.refs_mem_of_occurs occurs entry.2 ?_
    rw [WireType.refs, List.mem_append]
    exact .inr (List.mem_map.mpr ⟨entry, there, rfl⟩)
  · constructor
    · intro all d nested _ entry there
      exact declares_iff.mpr (all d (.inr nested) entry there)
    · rintro rest d (⟨m, mem, tagged⟩ | nested)
      · exact carried m mem d tagged
      · -- a nested discriminator may be one that a model carries as well
        by_cases shared : ∃ m ∈ table.models, m.discriminator = some d
        · obtain ⟨m, mem, tagged⟩ := shared
          exact carried m mem d tagged
        · intro entry there
          have alone : ∀ m ∈ table.models, m.discriminator ≠ some d :=
            fun m mem tagged => shared ⟨m, mem, tagged⟩
          exact declares_iff.mp (rest d nested alone entry there)

/-- The zoo has a discriminator on a model, which is usable. -/
theorem zoo_usable : ∃ graph definitions table,
    (Types.resolve graph).outcome.1 = .ok definitions ∧
    build zooOptions definitions = .ok table ∧
    ∃ m ∈ table.models, ∃ d, m.discriminator = some d ∧ d.mapping = [("Animal", "Animal"),
      ("Cat", "Cat")] ∧ table.Usable d := by
  have some : (ofDocument? zooDocument none "zoo" zooOptions).any (fun built =>
      built.2.2.models.any fun m =>
        m.discriminator.any fun d => d.mapping = [("Animal", "Animal"), ("Cat", "Cat")]) = true := by
    decide +kernel
  obtain ⟨⟨graph, definitions, table⟩, found, tagged⟩ := (Option.any_eq_true _ _).mp some
  obtain ⟨m, mem, tagged⟩ := List.any_eq_true.mp tagged
  obtain ⟨d, carries, mapping⟩ := (Option.any_eq_true _ _).mp tagged
  obtain ⟨-, resolves, builds⟩ := ofDocument?_eq_some found
  exact ⟨graph, definitions, table, resolves, builds, m, mem, d, carries, by simpa using mapping,
    (discriminators_usable_iff builds).1 m mem d carries⟩

/-- A document with a pet that is told by its kind, where dogs have none. -/
def homeDocument : Value :=
  .ofFields [("openapi", .str "3.0.0"), ("components", .ofFields [("schemas", .ofFields [
    ("Cat", .ofFields [("type", .str "object"),
      ("properties", .ofFields [("kind", .ofFields [("type", .str "string")])])]),
    ("Dog", .ofFields [("type", .str "object"),
      ("properties", .ofFields [("name", .ofFields [("type", .str "string")])])]),
    ("Home", .ofFields [("type", .str "object"), ("properties", .ofFields [
      ("pet", .ofFields [("oneOf", .list [.ofFields [("$ref", .str "#/components/schemas/Cat")],
          .ofFields [("$ref", .str "#/components/schemas/Dog")]]),
        ("discriminator", .ofFields [("propertyName", .str "kind")])])])])])])]

/-- The discriminators of the unions that are types of fields. -/
def fieldDiscriminators (table : Table) : List Discriminator :=
  table.models.flatMap fun m => m.fields.filterMap fun f =>
    match f.type with
    | .union _ _ d _ => d
    | _ => none

theorem nested_of_mem_fieldDiscriminators {table : Table} {d : Discriminator}
    (h : d ∈ table.fieldDiscriminators) : table.Nested d := by
  obtain ⟨m, mem, h⟩ := List.mem_flatMap.mp h
  obtain ⟨f, there, same⟩ := List.mem_filterMap.mp h
  refine ⟨m, mem, f.type, List.mem_append_left _ (List.mem_map.mpr ⟨f, there, rfl⟩), ?_⟩
  split at same
  · rename_i name mode found variants type
    rw [type, same]
    exact ⟨name, mode, variants, .refl⟩
  · cases same

/-- The pet at home has a discriminator that leads to dogs, which have no field for it, and yet
there is a table. -/
theorem pet_kind_unusable : ∃ graph definitions table,
    (Schema.Graph.ofDocument homeDocument none "home").outcome.1 = .ok graph ∧
    (Types.resolve graph).outcome.1 = .ok definitions ∧ build {} definitions = .ok table ∧
    ∃ d, table.Discriminates d ∧ ¬table.Usable d := by
  have some : (ofDocument? homeDocument none "home" {}).any (fun built =>
      built.2.2.fieldDiscriminators.any fun d =>
        d.mapping.any fun entry => !built.2.2.declares d.property entry.2) = true := by
    decide +kernel
  obtain ⟨⟨graph, definitions, table⟩, found, some⟩ := (Option.any_eq_true _ _).mp some
  obtain ⟨d, mem, some⟩ := List.any_eq_true.mp some
  obtain ⟨entry, there, missing⟩ := List.any_eq_true.mp some
  obtain ⟨loads, resolves, builds⟩ := ofDocument?_eq_some found
  refine ⟨graph, definitions, table, loads, resolves, builds, d, .inr
    (nested_of_mem_fieldDiscriminators mem), fun usable => ?_⟩
  rw [declares_iff.mpr (usable entry there)] at missing
  cases missing

end WireModel.Table
