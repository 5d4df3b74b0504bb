import WireModel.Proofs.Table.Discriminators
import WireModel.Proofs.Table.Occurrence
import WireModel.Proofs.Types.Enums

/-!
# What a table says is in the schemas

A table holds the types, defaults and discriminators of the definitions that it is built from. So
every enumeration, every default and every discriminator of a table is that of a schema, and no
more is in a table than schemas say.
-/

namespace WireModel

open Types (WireType ObjectType Definition UnionTagged)

/-- A schema of a graph declares a discriminator. -/
def Schema.Graph.Declares (graph : Schema.Graph) (d : Schema.Discriminator) : Prop :=
  ∃ node, graph.Holds node ∧ node.discriminator? = some d

namespace Types

open Schema

variable {graph : Graph}

theorem declares_of_declaredIn {node : Node} (holds : graph.Holds node) {d : Discriminator}
    (h : declaredIn node = some d) : graph.Declares d := by
  unfold declaredIn at h
  split at h
  · exact ⟨_, holds, h⟩
  · obtain ⟨member, mem, h⟩ := List.exists_of_findSome?_eq_some h
    split at h
    · exact ⟨_, holds_of_mem holds _ mem, h⟩
    · cases h
  · exact ⟨_, holds, h⟩
  · cases h

theorem declares_of_declaredOf {name : String} {d : Discriminator}
    (h : declaredOf graph name = some d) : graph.Declares d := by
  obtain ⟨node, found, h⟩ := Option.bind_eq_some_iff.mp h
  exact declares_of_declaredIn ⟨_, mem_of_get? found, .refl⟩ h

/-- A discriminator holds some entries of a declared one, completed by names. -/
def CompletesDeclared (graph : Graph) (d : Discriminator) (entries : List (String × String))
    (names : List String) : Prop :=
  ∃ declared, graph.Declares declared ∧ entries.Sublist declared.mapping ∧
    d = ⟨declared.property, completed entries names⟩

/-- The discriminator of a family completes one that a schema of the family declares. -/
theorem completes_of_familyDiscriminator {name : String} {d : Discriminator}
    (h : familyDiscriminator graph name = some d) :
    ∃ entries, CompletesDeclared graph d entries (name :: descendantsOf graph name) := by
  unfold familyDiscriminator at h
  dsimp only at h
  split at h
  · rename_i own declared
    cases h
    exact ⟨own.mapping, own, declares_of_declaredOf declared, .refl _, rfl⟩
  · split at h
    · cases h
    · obtain ⟨source, found, same⟩ := Option.map_eq_some_iff.mp h
      obtain ⟨ancestor, -, declared⟩ := List.exists_of_findSome?_eq_some found
      cases same
      exact ⟨_, source, declares_of_declaredOf declared, List.filter_sublist, rfl⟩

/-- The discriminator of a union completes the one that its schema declares. -/
theorem UnionTagged.completes {d : Discriminator} {variants : List WireType}
    (h : UnionTagged graph d variants) :
    ∃ entries names, variants = names.map .model ∧ CompletesDeclared graph d entries names := by
  cases h with
  | intro holds => exact ⟨_, _, rfl, _, ⟨_, holds, rfl⟩, .refl _, rfl⟩

end Types

namespace Table

variable {graph : Schema.Graph} {options : Options} {definitions : List (String × Definition)}
  {table : Table} {ignored : List String} {models : List Model} {first : List String}

/-- The fields of a record are fields of the object that it is made of. -/
theorem recordOf_fields {options : Options} {name : String} {o : ObjectType} {r : RecordModel}
    (h : recordOf options name o = .ok r) : ∀ g ∈ r.fields, ∃ f ∈ o.fields, g = fieldOf f := by
  obtain ⟨-, rfl, -⟩ := recordOf_eq h
  intro g mem
  obtain ⟨f, kept, rfl⟩ := List.mem_map.mp mem
  exact ⟨f, List.mem_of_mem_filter kept, rfl⟩

namespace Building

variable (b : Building options definitions table ignored models first)
  (stems : ∀ d ∈ definitions, d.2.Stems graph)

include b stems

theorem record_stems {r : RecordModel} (mem : .record r ∈ table.models) :
    ∃ o : ObjectType, o.Stems graph ∧ r.discriminator = o.discriminator ∧
      ∀ g ∈ r.fields, ∃ f ∈ o.fields, g = fieldOf f := by
  obtain ⟨p, there, -, made⟩ := b.exists_definition (b.mem_models mem)
  obtain ⟨o, same, recorded⟩ := modelOf_record made
  have stems := stems p there
  rw [same] at stems
  obtain ⟨-, rfl, -⟩ := recordOf_eq recorded
  exact ⟨o, stems, rfl, recordOf_fields recorded⟩

theorem union_stems {u : UnionModel} (mem : .union u ∈ table.models) : u.type.Stems graph := by
  obtain ⟨p, there, -, made⟩ := b.exists_definition (b.mem_models mem)
  obtain ⟨-, name, same⟩ := modelOf_union made
  have stems := stems p there
  rw [same] at stems
  refine WireType.stems_union (fun t mem part inside => stems part (.variant mem inside)) ?_
  intro d tagged
  have sourced := stems _ .refl
  rw [tagged] at sourced
  exact sourced

/-- What a field of a table says is said by schemas. -/
theorem field_stems {r : RecordModel} (mem : .record r ∈ table.models) {f : Field}
    (own : f ∈ r.fields) : f.type.Stems graph ∧
      ∀ v, f.default = some v → ∃ node, graph.Holds node ∧ node.notes.default = some v := by
  obtain ⟨o, stems, -, fields⟩ := b.record_stems stems mem
  obtain ⟨g, there, rfl⟩ := fields f own
  exact ⟨WireType.stems_strip.mpr (stems.fields g there).type, (stems.fields g there).default⟩

/-- What a type of a table says is said by schemas. -/
theorem occurs_stems {t : WireType} (occurs : table.Occurs t) : t.Stems graph := by
  induction occurs with
  | field mem own => exact (b.field_stems stems mem own).1
  | union mem => exact b.union_stems stems mem
  | optional _ ih => exact WireType.stems_optional.mp ih
  | nullable _ ih => exact WireType.stems_nullable.mp ih
  | sequence _ ih => exact fun part inside => ih part (.sequence inside)
  | mapping _ ih => exact fun part inside => ih part (.mapping inside)
  | variant _ mem ih => exact fun part inside => ih part (.variant mem inside)

/-- All enumerations of a table are plain if those of the schemas are. -/
theorem plainEnums (schemas : ∀ declared ∈ graph.definitions, declared.2.EnumsPlain) :
    table.PlainEnums :=
  fun occurs => (b.occurs_stems stems occurs).enumsPlain schemas _ _ _ .refl

/-- The values of a named enumeration are those of a schema. -/
theorem enum_stems {e : NamedEnum} (mem : e ∈ table.enums) :
    ∃ notes, graph.Holds (.enum notes e.values e.kind) := by
  rw [b.result] at mem
  obtain ⟨p, there, same⟩ := List.mem_filterMap.mp mem
  have stems := stems p (List.mem_filter.mp there).1
  unfold enumOf at same
  split at same
  · rename_i t meaning
    rw [meaning] at stems
    split at same
    · rename_i n values kind stripped
      have sourced := WireType.stems_strip.mpr stems _ (.refl : WireType.Part _ t.strip)
      rw [stripped] at sourced
      split at same
      · cases same
        exact sourced.imp fun _ => And.left
      · cases same
    · cases same
  · cases same

/-- Every discriminator of a table holds entries of a declared one, completed by names. -/
theorem completes {d : Schema.Discriminator} (occurs : table.Discriminates d) :
    ∃ entries names, Types.CompletesDeclared graph d entries names := by
  rcases occurs with ⟨m, mem, tagged⟩ | ⟨m, mem, t, inner, name, mode, variants, inside⟩
  · cases m with
    | record r =>
      obtain ⟨o, stems, same, -⟩ := b.record_stems stems mem
      have tagged : o.discriminator = some d := same ▸ tagged
      rcases stems.discriminator with none | family
      · rw [none] at tagged
        cases tagged
      · obtain ⟨entries, completes⟩ := Types.completes_of_familyDiscriminator (family ▸ tagged)
        exact ⟨entries, _, completes⟩
    | union u =>
      have sourced := b.union_stems stems mem _ .refl
      rw [UnionModel.type, show u.discriminator = some d from tagged] at sourced
      obtain ⟨entries, names, -, completes⟩ := Types.UnionTagged.completes sourced
      exact ⟨entries, names, completes⟩
  · have occurs := (occurs_of_mem_innerTypes mem inner).part inside
    obtain ⟨entries, names, -, completes⟩ :=
      Types.UnionTagged.completes (b.occurs_stems stems occurs _ .refl)
    exact ⟨entries, names, completes⟩

end Building
end Table
end WireModel
