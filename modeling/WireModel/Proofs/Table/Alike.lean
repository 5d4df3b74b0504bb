import WireModel.Proofs.Table.Conformance
import WireModel.Proofs.Value.Renaming

/-!
# Tables that differ in names

Two tables may call their models by other names, and one of them may have a named union where the
other one has the same union without a name. `Alike` relates the types of such tables, and
`TablesAlike` the tables: what one name stands for is alike what its counterpart does, field by
field. All of this can be turned around (`symm`), so it is enough to follow one direction.

Alike types ask for the same shapes, so a choice among alternatives is the same on both sides
(`IsFirst.exists_right`).
-/

namespace WireModel.Table

open Types (WireType)

variable (R : String → String → Prop) (left right : Table)

/-- Types of two tables that differ in names, where either may have a name for a union. -/
inductive Alike : WireType → WireType → Prop
  | primitive {kind format} : Alike (.primitive kind format) (.primitive kind format)
  | optional {t u} : Alike t u → Alike (.optional t) (.optional u)
  | nullable {t u} : Alike t u → Alike (.nullable t) (.nullable u)
  | sequence {t u} : Alike t u → Alike (.sequence t) (.sequence u)
  | mapping {t u} : Alike t u → Alike (.mapping t) (.mapping u)
  | enum {name name' values kind} : (∀ v ∈ values, v.isPlain = true) →
      Alike (.enum name values kind) (.enum name' values kind)
  | model {a b} : R a b → Alike (.model a) (.model b)
  | union {name name' mode mode' d variants others} :
      (∀ target ∈ WireType.targets d, R target target) → variants.length = others.length →
      (∀ p ∈ variants.zip others, Alike p.1 p.2) →
      Alike (.union name mode d variants) (.union name' mode' d others)
  | namedLeft {name' mode' others a u} : left.get? a = some (.union u) →
      (∀ target ∈ WireType.targets u.discriminator, R target target) →
      u.variants.length = others.length → (∀ p ∈ u.variants.zip others, Alike p.1 p.2) →
      Alike (.model a) (.union name' mode' u.discriminator others)
  | namedRight {name mode variants b u} : right.get? b = some (.union u) →
      (∀ target ∈ WireType.targets u.discriminator, R target target) →
      variants.length = u.variants.length → (∀ p ∈ variants.zip u.variants, Alike p.1 p.2) →
      Alike (.union name mode u.discriminator variants) (.model b)

/-- Fields that differ in the names of models. -/
structure FieldsAlike (f g : Field) : Prop where
  attributeName : g.attributeName = f.attributeName
  wireName : g.wireName = f.wireName
  required : g.required = f.required
  nullable : g.nullable = f.nullable
  type : Alike R left right f.type g.type

/-- Records that differ in the names of models. -/
structure RecordsAlike (r s : RecordModel) : Prop where
  name : R r.name s.name
  discriminator : s.discriminator = r.discriminator
  targets : ∀ target ∈ WireType.targets r.discriminator, R target target
  fields : List.Forall₂ (FieldsAlike R left right) r.fields s.fields

/-- What two names stand for: nothing, alike records, or alike unions. -/
inductive ModelsAlike : Option Model → Option Model → Prop
  | none : ModelsAlike none none
  | record {r s} : RecordsAlike R left right r s → ModelsAlike (some (.record r)) (some (.record s))
  | union {u w} : Alike R left right u.type w.type →
      ModelsAlike (some (.union u)) (some (.union w))

/-- Tables that differ in the names of models. -/
structure TablesAlike : Prop where
  functional : ∀ a b b', R a b → R a b' → b = b'
  injective : ∀ a a' b, R a b → R a' b → a = a'
  models : ∀ a b, R a b → ModelsAlike R left right (left.get? a) (right.get? b)

variable {R left right}

/-! ## The other direction -/

theorem Alike.symm {t u : WireType} (h : Alike R left right t u) :
    Alike (fun a b => R b a) right left u t := by
  induction h with
  | primitive => exact .primitive
  | optional _ ih => exact .optional ih
  | nullable _ ih => exact .nullable ih
  | sequence _ ih => exact .sequence ih
  | mapping _ ih => exact .mapping ih
  | enum plain => exact .enum plain
  | model name => exact .model name
  | union targets same _ ih =>
    exact .union targets same.symm (forall_mem_zip_swap
      (R := fun t u => Alike (fun a b => R b a) right left u t) ih)
  | namedLeft found targets same _ ih =>
    exact .namedRight found targets same.symm (forall_mem_zip_swap
      (R := fun t u => Alike (fun a b => R b a) right left u t) ih)
  | namedRight found targets same _ ih =>
    exact .namedLeft found targets same.symm (forall_mem_zip_swap
      (R := fun t u => Alike (fun a b => R b a) right left u t) ih)

theorem RecordsAlike.symm {r s : RecordModel} (h : RecordsAlike R left right r s) :
    RecordsAlike (fun a b => R b a) right left s r where
  name := h.name
  discriminator := h.discriminator.symm
  targets := by
    rw [h.discriminator]
    exact h.targets
  fields := h.fields.flip.imp fun _ _ f =>
    ⟨f.attributeName.symm, f.wireName.symm, f.required.symm, f.nullable.symm, f.type.symm⟩

theorem ModelsAlike.symm {m n : Option Model} (h : ModelsAlike R left right m n) :
    ModelsAlike (fun a b => R b a) right left n m := by
  cases h with
  | none => exact .none
  | record same => exact .record same.symm
  | union same => exact .union same.symm

theorem TablesAlike.symm (h : TablesAlike R left right) :
    TablesAlike (fun a b => R b a) right left where
  functional b a a' := h.injective a a' b
  injective b b' a := h.functional a b b'
  models b a name := (h.models a b name).symm

/-! ## Counterparts -/

section

variable (tables : TablesAlike R left right) {a b : String} (name : R a b)
include tables name

theorem TablesAlike.exists_record {r : RecordModel} (found : left.get? a = some (.record r)) :
    ∃ s, right.get? b = some (.record s) ∧ RecordsAlike R left right r s := by
  have models := tables.models a b name
  rw [found] at models
  generalize right.get? b = m at models ⊢
  cases models with
  | record same => exact ⟨_, rfl, same⟩

theorem TablesAlike.exists_union {u : UnionModel} (found : left.get? a = some (.union u)) :
    ∃ w, right.get? b = some (.union w) ∧ Alike R left right u.type w.type := by
  have models := tables.models a b name
  rw [found] at models
  generalize right.get? b = m at models ⊢
  cases models with
  | union same => exact ⟨_, rfl, same⟩

end

theorem Alike.variants {u w : UnionModel} (h : Alike R left right u.type w.type) :
    List.Forall₂ (Alike R left right) u.variants w.variants := by
  obtain ⟨name, mode, discriminator, variants⟩ := u
  obtain ⟨name', mode', discriminator', others⟩ := w
  cases h with
  | union _ same all => exact forall₂_of_zip same all

/-! ## Shapes -/

theorem RecordsAlike.requiredNames_eq {r s : RecordModel} (h : RecordsAlike R left right r s) :
    s.requiredNames = r.requiredNames := by
  have names := h.fields
  rw [RecordModel.requiredNames, RecordModel.requiredNames]
  generalize r.fields = fs at names
  generalize s.fields = gs at names
  induction names with
  | nil => rfl
  | cons first _ ih =>
    rw [List.filter_cons, List.filter_cons, first.required]
    split
    · rw [List.map_cons, List.map_cons, first.wireName, ih]
    · exact ih

/-- A reading of records that takes a value for a record also takes the renamed value for the
renamed record. -/
def RecordReading.Agrees (R : String → String → Prop) (takes : RecordReading) : Prop :=
  ∀ a b required v w, R a b → (∀ b', R a b' → b = b') → v.Renamed R w → takes a required v = true →
    takes b required w = true

theorem wire_agrees : RecordReading.Agrees R RecordReading.wire := by
  intro a b required v w _ _ renamed takes
  rw [RecordReading.wire, renamed.hasRequired_eq]
  exact takes

theorem held_agrees : RecordReading.Agrees R RecordReading.held := by
  intro a b required v w name unique renamed takes
  cases v with
  | record model fields =>
    obtain ⟨model', others, rfl, same, -⟩ := renamed.exists_record
    have eq : model = a := by simpa [RecordReading.held, Codec.isInstanceOf] using takes
    rw [eq] at same
    simpa [RecordReading.held, Codec.isInstanceOf] using (unique model' same).symm
  | _ => cases takes

/-- A value has the shape of a type if its counterpart has that of an alike one. -/
theorem HasShape.alike (tables : TablesAlike R left right) {takes : RecordReading}
    (agrees : RecordReading.Agrees R takes) {v w : Value} (renamed : v.Renamed R w) {t u : WireType}
    (h : left.HasShape takes v t) (alike : Alike R left right t u) : right.HasShape takes w u := by
  induction h generalizing u with
  | primitive ofKind =>
    cases alike with
    | primitive => exact .primitive ((renamed.isKind_eq _).trans ofKind)
  | enum member =>
    cases alike with
    | enum plain =>
      rw [← renamed.eq_of_isPlain (Value.isPlain_of_member plain member)] at member
      exact .enum member
  | sequence sequence =>
    cases alike with
    | sequence => exact .sequence (renamed.isSequence_eq.trans sequence)
  | mapping map =>
    cases alike with
    | mapping => exact .mapping (renamed.isMap_eq.trans map)
  | optional _ ih =>
    cases alike with
    | optional alike => exact .optional (ih alike)
  | nullable _ ih =>
    cases alike with
    | nullable alike => exact .nullable (ih alike)
  -- a model is alike a model, or alike the union that one of the two names
  | record found taken =>
    cases alike with
    | model name =>
      obtain ⟨s, there, records⟩ := tables.exists_record name found
      refine .record there ?_
      rw [records.requiredNames_eq]
      exact agrees _ _ _ _ _ records.name (fun b' => tables.functional _ _ _ records.name) renamed
        taken
    | namedLeft found' =>
      rw [found] at found'
      cases found'
  | named found mem _ ih =>
    cases alike with
    | model name =>
      obtain ⟨w, there, same⟩ := tables.exists_union name found
      obtain ⟨u, mem', same⟩ := exists_right_of_forall₂ same.variants mem
      exact .named there mem' (ih same)
    | namedLeft found' _ same all =>
      rw [found] at found'
      cases found'
      obtain ⟨u, pair⟩ := exists_zip_of_mem_left same mem
      exact .union (List.of_mem_zip pair).2 (ih (all _ pair))
  | union mem _ ih =>
    cases alike with
    | union _ same all =>
      obtain ⟨u, pair⟩ := exists_zip_of_mem_left same mem
      exact .union (List.of_mem_zip pair).2 (ih (all _ pair))
    | namedRight found _ same all =>
      obtain ⟨u, pair⟩ := exists_zip_of_mem_left same mem
      exact .named found (List.of_mem_zip pair).2 (ih (all _ pair))

/-- The first variant of a shape has a counterpart that is the first one as well. -/
theorem exists_isFirst {S : WireType → WireType → Prop} {shape shape' : WireType → Prop}
    {ts us : List WireType} (all : List.Forall₂ S ts us)
    (agree : ∀ t u, S t u → (shape t ↔ shape' u)) {t : WireType} (h : Types.IsFirst shape ts t) :
    ∃ u, Types.IsFirst shape' us u ∧ S t u := by
  obtain ⟨before, after, rfl, none, here⟩ := h
  induction before generalizing us with
  | nil =>
    cases all with
    | cons first _ => exact ⟨_, ⟨[], _, rfl, nofun, (agree _ _ first).mp here⟩, first⟩
  | cons s before ih =>
    cases all with
    | cons first rest =>
      obtain ⟨skipped, none⟩ := List.forall_mem_cons.mp none
      obtain ⟨u, ⟨before', after', rfl, none', here'⟩, same⟩ := ih rest none
      refine ⟨u, ⟨_ :: before', after', rfl, ?_, here'⟩, same⟩
      exact List.forall_mem_cons.mpr ⟨fun h => skipped ((agree _ _ first).mpr h), none'⟩

end WireModel.Table
