import WireModel.Proofs.Plan.Existence
import WireModel.Proofs.Table.Invariants
import WireModel.Proofs.Table.Provenance

/-!
# The values that a table mentions

A table mentions the values of its enumerations, named or inside of types, and the defaults of its
fields. All of them are parts of the document that the table comes from (`Building.mentions_part`),
so they are JSON values, and can be shown if the document can.
-/

namespace WireModel

open Types (WireType Definition)

/-! ## Types -/

namespace Types.WireType

/-- A value of an enumeration inside of a type. -/
def Mentions (t : WireType) (v : Value) : Prop :=
  ∃ name values kind, Part (.enum name values kind) t ∧ v ∈ values

/-- All values that a type mentions can be shown. -/
def IsTellable (t : WireType) : Prop := ∀ v, t.Mentions v → v.isTellable = true

theorem isTellable_iff_inside {t : WireType} : t.IsTellable ↔
    (∀ name values kind, t = .enum name values kind → ∀ v ∈ values, v.isTellable = true) ∧
      ∀ u ∈ t.inside, u.IsTellable := by
  constructor
  · refine fun h => ⟨?_, ?_⟩
    · rintro name values kind rfl v mem
      exact h v ⟨name, values, kind, .refl, mem⟩
    · rintro u mem v ⟨name, values, kind, part, own⟩
      exact h v ⟨name, values, kind, part_of_inside mem part, own⟩
  · rintro ⟨here, below⟩ v ⟨name, values, kind, part, own⟩
    rcases eq_or_inside_of_part part with same | ⟨u, mem, part⟩
    · exact here name values kind same.symm v own
    · exact below u mem v ⟨name, values, kind, part, own⟩

variable {name : Option String} {t : WireType}

@[simp] theorem isTellable_primitive {kind : Schema.Kind} {format : Option String} :
    (primitive kind format).IsTellable :=
  isTellable_iff_inside.mpr ⟨nofun, nofun⟩

@[simp] theorem isTellable_model {name : String} : (model name).IsTellable :=
  isTellable_iff_inside.mpr ⟨nofun, nofun⟩

@[simp] theorem isTellable_enum {values : List Value} {kind : Schema.Kind} :
    (enum name values kind).IsTellable ↔ ∀ v ∈ values, v.isTellable = true := by
  simp [isTellable_iff_inside (t := .enum name values kind), inside]

@[simp] theorem isTellable_optional : (optional t).IsTellable ↔ t.IsTellable := by
  simp [isTellable_iff_inside (t := .optional t), inside]

@[simp] theorem isTellable_nullable : (nullable t).IsTellable ↔ t.IsTellable := by
  simp [isTellable_iff_inside (t := .nullable t), inside]

@[simp] theorem isTellable_sequence : (sequence t).IsTellable ↔ t.IsTellable := by
  simp [isTellable_iff_inside (t := .sequence t), inside]

@[simp] theorem isTellable_mapping : (mapping t).IsTellable ↔ t.IsTellable := by
  simp [isTellable_iff_inside (t := .mapping t), inside]

@[simp] theorem isTellable_union {mode : Schema.Combination}
    {discriminator : Option Schema.Discriminator} {variants : List WireType} :
    (union name mode discriminator variants).IsTellable ↔ ∀ t ∈ variants, t.IsTellable := by
  simp [isTellable_iff_inside (t := .union name mode discriminator variants), inside]

end Types.WireType

/-- All values that a model mentions can be shown. -/
def Model.IsTellable : Model → Prop
  | .record r => ∀ f ∈ r.fields, f.type.IsTellable ∧ ∀ v, f.default = some v → v.isTellable = true
  | .union u => u.type.IsTellable

/-! ## Tables -/

namespace Table

/-- A value that stands in a table. -/
inductive Mentions (table : Table) : Value → Prop
  | enum {e v} : e ∈ table.enums → v ∈ e.values → Mentions table v
  | type {name values kind v} : table.Occurs (.enum name values kind) → v ∈ values →
      Mentions table v
  | default {r f v} : .record r ∈ table.models → f ∈ r.fields → f.default = some v →
      Mentions table v

/-- All values that a table mentions can be shown. -/
def IsTellable (table : Table) : Prop := ∀ v, table.Mentions v → v.isTellable = true

variable {table : Table}

theorem IsTellable.of_occurs (h : table.IsTellable) {t : WireType} (occurs : table.Occurs t) :
    t.IsTellable := by
  rintro v ⟨name, values, kind, part, mem⟩
  exact h v (.type (occurs.part part) mem)

theorem isTellable_iff : table.IsTellable ↔
    (∀ e ∈ table.enums, ∀ v ∈ e.values, v.isTellable = true) ∧
      ∀ m ∈ table.models, m.IsTellable := by
  constructor
  · refine fun h => ⟨fun e mem v own => h v (.enum mem own), fun m mem => ?_⟩
    cases m with
    | record r =>
      exact fun f own => ⟨h.of_occurs (.field mem own), fun v same => h v (.default mem own same)⟩
    | union u => exact h.of_occurs (.union mem)
  · rintro ⟨enums, models⟩ v mentions
    have types : ∀ {t : WireType}, table.Occurs t → t.IsTellable := by
      intro t occurs
      induction occurs with
      | field mem own => exact (models _ mem _ own).1
      | union mem => exact models _ mem
      | optional _ ih => exact WireType.isTellable_optional.mp ih
      | nullable _ ih => exact WireType.isTellable_nullable.mp ih
      | sequence _ ih => exact WireType.isTellable_sequence.mp ih
      | mapping _ ih => exact WireType.isTellable_mapping.mp ih
      | variant _ mem ih => exact WireType.isTellable_union.mp ih _ mem
    cases mentions with
    | enum mem own => exact enums _ mem v own
    | type occurs mem => exact WireType.isTellable_enum.mp (types occurs) v mem
    | default mem own same => exact (models _ mem _ own).2 v same

/-- What it takes to write a table: every name that stands in it is that of one model, variants
that are told apart by a discriminator are models, and all values are JSON values. -/
structure Ready (table : Table) : Prop where
  closed : table.Closed
  distinct : table.names.Nodup
  targets : ∀ {m d entry}, m ∈ table.models → m.discriminator = some d → entry ∈ d.mapping →
    entry.2 ∈ table.names
  variants : ∀ {name mode d variants}, table.Occurs (.union name mode (some d) variants) →
    ∀ t ∈ variants, ∃ n, t = .model n
  json : ∀ v, table.Mentions v → v.isJson = true

/-! ## Tables of documents -/

section

variable {graph : Schema.Graph} {options : Options} {definitions : List (String × Definition)}
  {ignored : List String} {models : List Model} {first : List String}

/-- What a table mentions is a part of the document. -/
theorem Building.mentions_part (b : Building options definitions table ignored models first)
    (stems : ∀ d ∈ definitions, d.2.Stems graph) {document : Value}
    (said : ∀ {node}, graph.Holds node → node.SaidIn document) {v : Value}
    (mentions : table.Mentions v) : v.Part document := by
  cases mentions with
  | enum mem own =>
    obtain ⟨notes, holds⟩ := b.enum_stems stems mem
    exact (said holds).values v own
  | type occurs mem =>
    obtain ⟨notes, holds, -⟩ := b.occurs_stems stems occurs _ .refl
    exact (said holds).values v mem
  | default mem own same =>
    obtain ⟨node, holds, given⟩ := (b.field_stems stems mem own).2 v same
    exact (said holds).default v given

/-- The table of a JSON document is ready, and mentions parts of the document only. -/
theorem ready_of_build {document : Value} {requested : Option String} {source : String}
    (json : document.isJson = true)
    (loads : (Schema.Graph.ofDocument document requested source).Gives graph)
    (resolves : (Types.resolve graph).Gives definitions)
    (builds : build options definitions = .ok table) :
    table.Ready ∧ ∀ v, table.Mentions v → v.Part document := by
  obtain ⟨ignored, models, first, b⟩ := exists_building builds
  obtain ⟨entries, hoisted, resolution⟩ := Types.exists_resolution_of_gives resolves
  have unique : (modelNames ignored definitions).Nodup :=
    (resolution.nodup (Schema.names_nodup_of_ofDocument json loads)).sublist
      (List.filter_sublist.map _)
  have parts : ∀ v, table.Mentions v → v.Part document := fun v =>
    b.mentions_part resolution.stems (Schema.saidIn_of_ofDocument loads)
  refine ⟨?_, parts⟩
  refine
    { closed := b.refs_mem_of_occurs
      distinct := b.names_eq ▸ arranged_nodup unique
      targets := fun mem tagged there => b.targets_mem mem tagged there
      variants := fun occurs t mem => ?_
      json := fun v mentions => (parts v mentions).isJson json }
  have tagged := b.occurs_stems resolution.stems occurs _ .refl
  obtain ⟨_, names, rfl, -⟩ := Types.UnionTagged.completes tagged
  obtain ⟨name, -, same⟩ := List.mem_map.mp mem
  exact ⟨name, same.symm⟩

end

end Table
end WireModel
