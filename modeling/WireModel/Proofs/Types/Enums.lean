import WireModel.Proofs.Types.Provenance

/-!
# Enumerations of types come from schemas

What the types of a resolution say is said by its schemas. So the values of the enumerations in them
are plain if those of the schemas are.
-/

namespace WireModel.Types

open Schema

/-- The values of all enumerations in a type hold no instance and nothing unset. -/
def WireType.EnumsPlain (t : WireType) : Prop :=
  ∀ name values kind, (WireType.enum name values kind).Part t → ∀ v ∈ values, v.isPlain = true

/-- The values of all enumerations in the types of a definition are plain. -/
def Definition.EnumsPlain : Definition → Prop
  | .object o => ∀ f ∈ o.fields, f.type.EnumsPlain
  | .type t => t.EnumsPlain

/-! ## Types -/

namespace WireType

theorem enumsPlain_enum {name : Option String} {values : List Value} {kind : Kind} :
    (WireType.enum name values kind).EnumsPlain ↔ ∀ v ∈ values, v.isPlain = true := by
  refine ⟨fun h => h name values kind .refl, fun h _ _ _ part => ?_⟩
  cases part
  exact h

theorem enumsPlain_optional {t : WireType} : (optional t).EnumsPlain ↔ t.EnumsPlain := by
  refine ⟨fun h _ _ _ part => h _ _ _ (.optional part), fun h _ _ _ part => ?_⟩
  cases part with
  | optional part => exact h _ _ _ part

theorem enumsPlain_nullable {t : WireType} : (nullable t).EnumsPlain ↔ t.EnumsPlain := by
  refine ⟨fun h _ _ _ part => h _ _ _ (.nullable part), fun h _ _ _ part => ?_⟩
  cases part with
  | nullable part => exact h _ _ _ part

theorem enumsPlain_sequence {t : WireType} : (sequence t).EnumsPlain ↔ t.EnumsPlain := by
  refine ⟨fun h _ _ _ part => h _ _ _ (.sequence part), fun h _ _ _ part => ?_⟩
  cases part with
  | sequence part => exact h _ _ _ part

theorem enumsPlain_mapping {t : WireType} : (mapping t).EnumsPlain ↔ t.EnumsPlain := by
  refine ⟨fun h _ _ _ part => h _ _ _ (.mapping part), fun h _ _ _ part => ?_⟩
  cases part with
  | mapping part => exact h _ _ _ part

theorem enumsPlain_union {name : Option String} {mode : Combination}
    {discriminator : Option Discriminator} {variants : List WireType} :
    (union name mode discriminator variants).EnumsPlain ↔ ∀ t ∈ variants, t.EnumsPlain := by
  refine ⟨fun h t mem _ _ _ part => h _ _ _ (.variant mem part), fun h _ _ _ part => ?_⟩
  cases part with
  | variant mem part => exact h _ mem _ _ _ part

theorem enumsPlain_strip : ∀ {t : WireType}, t.strip.EnumsPlain ↔ t.EnumsPlain
  | .optional t => by rw [strip, enumsPlain_strip, enumsPlain_optional]
  | .nullable t => by rw [strip, enumsPlain_strip, enumsPlain_nullable]
  | .primitive .. | .sequence _ | .mapping _ | .enum .. | .model _ | .union .. => Iff.rfl

end WireType

/-! ## Resolutions -/

variable {graph : Graph}

/-- The enumerations in a type are those of schemas. -/
theorem WireType.Stems.enumsPlain {t : WireType} (h : t.Stems graph)
    (schemas : ∀ declared ∈ graph.definitions, declared.2.EnumsPlain) : t.EnumsPlain := by
  intro name values kind part
  obtain ⟨notes, ⟨declared, mem, inside⟩, -⟩ := h _ part
  exact schemas declared mem notes values kind inside

theorem Definition.Stems.enumsPlain {d : Definition} (h : d.Stems graph)
    (schemas : ∀ declared ∈ graph.definitions, declared.2.EnumsPlain) : d.EnumsPlain := by
  cases d with
  | object o => exact fun f own => (h.fields f own).type.enumsPlain schemas
  | type t => exact WireType.Stems.enumsPlain h schemas

/-- All definitions of a resolution have plain enumerations if its schemas do. -/
theorem Resolution.enumsPlain {definitions : List (String × Definition)} {entries : List Entry}
    {hoisted : List ObjectType} (h : Resolution graph definitions entries hoisted)
    (schemas : ∀ declared ∈ graph.definitions, declared.2.EnumsPlain) :
    ∀ d ∈ definitions, d.2.EnumsPlain :=
  fun d mem => Definition.Stems.enumsPlain (h.stems d mem) schemas

end WireModel.Types
