import WireModel.Proofs.Types.ExtractedFamilies
import WireModel.Proofs.Types.Nullability
import WireModel.Proofs.Types.Retyping

/-!
# What a schema comes to under a name of its own

A schema at a property and the same schema with a name are resolved in different ways: an object at
a property becomes a model under a new name, a union stays inside the type of the field, and an
alias is followed. `Nameable` are the schemas for which this makes no other difference than such
names (`Stands`); the others are listed there.

The owner of the property keeps all else that it had: `DefinitionOf.extracted` takes its derivation
apart into that of the schema and one for the owner with a reference.
-/

namespace WireModel.Types

open Schema

/-! ## The schema -/

/-- Schemas that mean the same at a property and under a name. Not among them are

* references, and an `allOf` of a single one, which at a property stand for what they lead to;
* free-form objects, which are mappings at a property and models without fields under a name;
* objects and `allOf` with a discriminator, which only models with a name have;
* an `allOf` that joins a family with a discriminator when it gets a name;
* unions of several alternatives that allow null through an alternative alone. -/
inductive Nameable (graph : Graph) : Node → Prop
  | primitive {notes kind format} : Nameable graph (.primitive notes kind format)
  | enum {notes values kind} : Nameable graph (.enum notes values kind)
  | array {notes items} : Nameable graph (.array notes items)
  | mapping {notes required additional} :
      isModel (.object notes [] required additional none) = false →
      Nameable graph (.object notes [] required additional none)
  | object {notes properties required additional} : properties ≠ [] →
      Nameable graph (.object notes properties required additional none)
  | merge {notes members discriminator} :
      (∀ inner pointer target, members ≠ [.reference inner pointer target]) →
      declaredIn (.composite notes .allOf members discriminator) = none →
      Unled graph (.composite notes .allOf members discriminator) →
      Nameable graph (.composite notes .allOf members discriminator)
  | union {notes mode members discriminator} : mode ≠ .allOf →
      (isModel (.composite notes mode members discriminator) = true →
        CarriesNull graph (.composite notes mode members discriminator) →
        declaresNull (.composite notes mode members discriminator) = true) →
      Nameable graph (.composite notes mode members discriminator)

/-- The type of a reference to a schema, where `t` is the type of the schema itself. -/
def namedType (name : String) (schema : Node) (t : WireType) : WireType :=
  if isModel schema then (WireType.model name).orNullIf (declaresNull schema)
  else
    match schema with
    | .enum notes values kind => (WireType.enum (some name) values kind).orNullIf notes.nullable
    | _ => t

theorem namedType_of_isModel {name : String} {schema : Node} {t : WireType}
    (model : isModel schema = true) :
    namedType name schema t = (WireType.model name).orNullIf (declaresNull schema) :=
  if_pos model

theorem namedType_of_not_isModel {name : String} {schema : Node} {t : WireType}
    (unnamed : isModel schema = false)
    (other : ∀ notes values kind, schema ≠ .enum notes values kind) :
    namedType name schema t = t := by
  unfold namedType
  rw [unnamed, if_neg Bool.false_ne_true]
  split
  · exact absurd rfl (other _ _ _)
  · rfl

/-- What a schema is at a property and under a name: its type, the type of a reference to it, the
meaning of the name, and the models that are made at the property only. -/
inductive Stands (name : String) : WireType → WireType → Definition → List ObjectType → Prop
  | followed {t} : Stands name t t (.type t) []
  | enum {values kind allowed} :
      Stands name ((WireType.enum none values kind).orNullIf allowed)
        ((WireType.enum (some name) values kind).orNullIf allowed)
        (.type ((WireType.enum (some name) values kind).orNullIf allowed)) []
  | object {o allowed} : o.discriminator = none →
      Stands name ((WireType.model o.name).orNullIf allowed)
        ((WireType.model name).orNullIf allowed) (.object { o with name := name }) [o]
  | union {mode discriminator variants allowed} :
      Stands name ((WireType.union none mode discriminator variants).orNullIf allowed)
        ((WireType.model name).orNullIf allowed)
        (.type (.union (some name) mode discriminator variants)) []

section

variable {graph : Graph} {known : Known}

theorem VariantsOf.length_eq {members : List Node} {variants : List WireType} {nullable : Bool}
    {own : List ObjectType} (h : VariantsOf graph known members variants nullable own) :
    variants.length = (members.filter fun m => !m.isNull).length := by
  induction members generalizing variants nullable own with
  | nil =>
    cases h
    rfl
  | cons node rest ih =>
    cases h with
    | null null h => rw [List.filter_cons_of_neg (by simp [null]), ih h]
    | cons proper _ h =>
      rw [List.filter_cons_of_pos (by simp [proper]), List.length_cons, List.length_cons, ih h]

/-- A union that is a model has several variants. -/
theorem VariantsOf.several {notes : Notes} {mode : Combination} {members : List Node}
    {discriminator : Option Discriminator} {variants : List WireType} {nullable : Bool}
    {own : List ObjectType} (h : VariantsOf graph known members variants nullable own)
    (union : mode ≠ .allOf)
    (model : isModel (.composite notes mode members discriminator) = true) :
    1 < variants.length := by
  rw [h.length_eq]
  cases mode with
  | allOf => exact absurd rfl union
  | _ => simpa [isModel] using model

/-- A union of several variants has a name or not; nothing else depends on it. -/
theorem UnionOf.exists_union {mode : Combination} {discriminator : Option Discriminator}
    {variants : List WireType} {t : WireType} (h : UnionOf mode none discriminator variants t)
    (several : 1 < variants.length) :
    ∃ d, t = .union none mode d variants ∧
      ∀ name, UnionOf mode name discriminator variants (.union name mode d variants) := by
  cases h with
  | single => exact absurd several (Nat.lt_irrefl 1)
  | untagged many => exact ⟨none, rfl, fun name => .untagged many⟩
  | tagged many => exact ⟨_, rfl, fun name => .tagged many⟩

/-- The type of a union of several variants takes null exactly if a reference to it does. -/
theorem TypeOf.unionFlag_eq (fits : known.Fits graph) {notes : Notes} {mode : Combination}
    {members : List Node} {discriminator d : Option Discriminator} {variants : List WireType}
    {allowed : Bool} {own : List ObjectType}
    (nullable : CarriesNull graph (.composite notes mode members discriminator) →
      declaresNull (.composite notes mode members discriminator) = true)
    (h : TypeOf graph known (.composite notes mode members discriminator)
      ((WireType.union none mode d variants).orNullIf (notes.nullable || allowed)) own) :
    (notes.nullable || allowed) = declaresNull (.composite notes mode members discriminator) := by
  have carries := (h.carriesNull fits).1
  have bare : (WireType.union none mode d variants).isNullable = false := rfl
  rw [WireType.isNullable_orNullIf, bare, Bool.or_false] at carries
  rw [Bool.eq_iff_iff]
  refine ⟨fun flag => nullable (carries.mp flag), fun declares => carries.mpr ?_⟩
  rcases declaresNull_iff.mp declares with flag | null
  · exact .flag flag
  · exact .null null

/-- A union of several variants, which is a model under a name. -/
theorem TypeOf.named_union (fits : known.Fits graph) {name : String} {notes : Notes}
    {mode : Combination} {members : List Node} {discriminator : Option Discriminator}
    (merged : mode ≠ .allOf)
    (model : isModel (.composite notes mode members discriminator) = true)
    (nullable : CarriesNull graph (.composite notes mode members discriminator) →
      declaresNull (.composite notes mode members discriminator) = true)
    {t : WireType} {own : List ObjectType}
    (h : TypeOf graph known (.composite notes mode members discriminator) t own) :
    ∃ d, DefinitionOf graph known name (.composite notes mode members discriminator) d own ∧
      Stands name t (namedType name (.composite notes mode members discriminator) t) d [] := by
  rw [namedType_of_isModel model]
  have whole := h
  cases h with
  | wrapper => exact absurd rfl merged
  | merge => exact absurd rfl merged
  | @union _ _ _ _ variants allowed u own _ h union =>
    obtain ⟨d, rfl, unions⟩ := union.exists_union (h.several merged model)
    rw [whole.unionFlag_eq fits nullable]
    exact ⟨_, .union merged model h (unions _), .union⟩

/-- A nameable schema stands for the same under a name that is not declared. -/
theorem TypeOf.named (fits : known.Fits graph) {name : String} {schema : Node}
    (nameable : Nameable graph schema) (family : familyDiscriminator graph name = none)
    {t : WireType} {own : List ObjectType} (h : TypeOf graph known schema t own) :
    ∃ d own' lost, own = own' ++ lost ∧ DefinitionOf graph known name schema d own' ∧
      Stands name t (namedType name schema t) d lost ∧
      (isModel schema = false → d = .type (namedType name schema t)) := by
  have followed : isModel schema = false → (∀ notes values kind, schema ≠ .enum notes values kind) →
      ∃ d own' lost, own = own' ++ lost ∧ DefinitionOf graph known name schema d own' ∧
        Stands name t (namedType name schema t) d lost ∧
        (isModel schema = false → d = .type (namedType name schema t)) := by
    intro unnamed other
    rw [namedType_of_not_isModel unnamed other]
    exact ⟨_, own, [], (List.append_nil own).symm,
      .other unnamed other h, .followed, fun _ => rfl⟩
  cases nameable with
  | primitive => exact followed rfl (by rintro _ _ _ ⟨⟩)
  | enum =>
    cases h with
    | enum nonempty => exact ⟨_, [], [], rfl, .enum nonempty, .enum, fun _ => rfl⟩
  | array => exact followed rfl (by rintro _ _ _ ⟨⟩)
  | mapping unnamed => exact followed unnamed (by rintro _ _ _ ⟨⟩)
  | @object notes properties required additional nonempty =>
    have model : isModel (.object notes properties required additional none) = true := by
      simp [isModel, nonempty]
    rw [namedType_of_isModel model]
    cases h with
    | dictionary | mapping => exact absurd rfl nonempty
    | @object _ _ _ _ _ inner fields own _ h =>
      have meaning : DefinitionOf graph known name
          (.object notes properties required additional none) _ own := .object model h
      rw [family] at meaning
      refine ⟨_, own, [⟨inner, fields, [], none, notes.description⟩], rfl, meaning,
        .object (o := ⟨inner, fields, [], none, notes.description⟩) rfl, ?_⟩
      intro other
      rw [model] at other
      cases other
  | @merge notes members discriminator proper _ _ =>
    rw [namedType_of_isModel rfl]
    cases h with
    | wrapper => exact absurd rfl (proper _ _ _)
    | @merge _ _ _ inner result own _ h =>
      have meaning : DefinitionOf graph known name (.composite notes .allOf members discriminator)
          _ own := .merge h
      have flag : declaresNull (.composite notes .allOf members discriminator) = notes.nullable :=
        Bool.or_false _
      rw [family] at meaning
      rw [flag]
      exact ⟨_, own, [result.toObject inner none], rfl, meaning,
        .object (o := result.toObject inner none) rfl, by rintro ⟨⟩⟩
    | union merged => exact absurd rfl merged
  | @union notes mode members discriminator merged nullable =>
    cases model : isModel (.composite notes mode members discriminator) with
    | false =>
      rw [model] at followed
      exact followed rfl (by rintro _ _ _ ⟨⟩)
    | true =>
      obtain ⟨d, definition, stands⟩ := h.named_union fits merged model (nullable model)
      exact ⟨d, own, [], (List.append_nil own).symm, definition, stands, by rintro ⟨⟩⟩

/-! ## The owner -/

theorem FieldsOf.split : ∀ {before after : List Property} {fields : List Field}
    {own : List ObjectType}, FieldsOf graph known (before ++ after) fields own →
      ∃ first second made others, fields = first ++ second ∧ own = made ++ others ∧
        FieldsOf graph known before first made ∧ FieldsOf graph known after second others
  | [], _, fields, own, h => ⟨[], fields, [], own, rfl, rfl, .nil, h⟩
  | _ :: _, _, _, _, .cons h rest => by
    obtain ⟨first, second, made, others, rfl, rfl, front, back⟩ := rest.split
    exact ⟨_ :: first, second, _ ++ made, others, rfl, (List.append_assoc ..).symm,
      .cons h front, back⟩

theorem FieldsOf.append {before after : List Property} {first second : List Field}
    {made others : List ObjectType} (front : FieldsOf graph known before first made)
    (back : FieldsOf graph known after second others) :
    FieldsOf graph known (before ++ after) (first ++ second) (made ++ others) := by
  induction before generalizing first made with
  | nil =>
    cases front
    exact back
  | cons p rest ih =>
    cases front with
    | cons h front =>
      rw [List.append_assoc]
      exact .cons h (ih front)

theorem MergeOf.split : ∀ {before after : List Node} {merge result : Merge}
    {own : List ObjectType}, MergeOf graph known merge (before ++ after) result own →
      ∃ middle made others, own = made ++ others ∧
        MergeOf graph known merge before middle made ∧
        MergeOf graph known middle after result others
  | [], _, merge, _, own, h => ⟨merge, [], own, rfl, .nil, h⟩
  | _ :: _, _, _, _, _, .reference there found rest => by
    obtain ⟨middle, made, others, rfl, front, back⟩ := rest.split
    exact ⟨middle, made, others, rfl, .reference there found front, back⟩
  | _ :: _, _, _, _, _, .object h rest => by
    obtain ⟨middle, made, others, rfl, front, back⟩ := rest.split
    exact ⟨middle, _ ++ made, others, (List.append_assoc ..).symm, .object h front, back⟩
  | _ :: _, _, _, _, _, .nested h rest => by
    obtain ⟨middle, made, others, rfl, front, back⟩ := rest.split
    exact ⟨middle, _ ++ made, others, (List.append_assoc ..).symm, .nested h front, back⟩

theorem MergeOf.append {after : List Node} {result : Merge} :
    ∀ {before : List Node} {merge middle : Merge} {made others : List ObjectType},
      MergeOf graph known merge before middle made →
      MergeOf graph known middle after result others →
        MergeOf graph known merge (before ++ after) result (made ++ others)
  | [], _, _, _, _, .nil, back => back
  | _ :: _, _, _, _, _, .reference there found front, back =>
    .reference there found (front.append back)
  | _ :: _, _, _, _, _, .object h front, back => by
    rw [List.append_assoc]
    exact .object h (front.append back)
  | _ :: _, _, _, _, _, .nested h front, back => by
    rw [List.append_assoc]
    exact .nested h (front.append back)

/-- A derivation in another document, where a reference has the type `u` and a field with this type
in place of `t` is one of the others. -/
structure Swaps (F : Field → Field → Prop) (graph other : Graph) (known known' : Known)
    (property name : String) (schema : Node) (t u : WireType) : Prop where
  carries : Carries F graph other known known'
  refers : Refers other known' false name u
  field : ∀ required place, F (fieldOf property required schema.notes t)
    (fieldOf property required (.at place) u)

/-- Among what a schema makes is what the schema of a property makes; for the rest something holds
in each document where a reference takes its place. -/
def Extracted (graph : Graph) (known : Known) (property name : String) (schema : Node)
    (own : List ObjectType)
    (Q : (Field → Field → Prop) → Graph → Known → List ObjectType → Prop) : Prop :=
  ∃ t made before after, TypeOf graph known schema t made ∧ own = before ++ made ++ after ∧
    ∀ F other known' u, Swaps F graph other known known' property name schema t u →
      Q F other known' (before ++ after)

variable {property name : String} {schema : Node}

theorem Extracted.around (front back : List ObjectType) {own : List ObjectType}
    {Q Q' : (Field → Field → Prop) → Graph → Known → List ObjectType → Prop}
    (h : Extracted graph known property name schema own Q)
    (imp : ∀ F other known' kept, Carries F graph other known known' → Q F other known' kept →
      Q' F other known' (front ++ kept ++ back)) :
    Extracted graph known property name schema (front ++ own ++ back) Q' := by
  obtain ⟨t, made, before, after, type, rfl, all⟩ := h
  refine ⟨t, made, front ++ before, after ++ back, type, by simp only [List.append_assoc], ?_⟩
  intro F other known' u swaps
  have whole := imp F other known' _ swaps.carries (all F other known' u swaps)
  simpa only [List.append_assoc] using whole

theorem FieldsOf.extracted (name : String) {before after : List Property} {required : Bool} {fields : List Field}
    {own : List ObjectType}
    (h : FieldsOf graph known (before ++ ⟨property, schema, required⟩ :: after) fields own) :
    Extracted graph known property name schema own fun F other known' kept =>
      ∀ place pointer, ∃ fields' own', FieldsOf other known'
          (before ++ ⟨property, .reference (.at place) pointer name, required⟩ :: after) fields'
          own' ∧
        List.Forall₂ F fields fields' ∧ List.Forall₂ (ObjectType.Retyped F) kept own' := by
  obtain ⟨first, second, made, others, rfl, rfl, front, rest⟩ := h.split
  cases rest with
  | @cons _ _ _ _ t _ inside back type rest =>
    refine ⟨t, inside, made, back, type, (List.append_assoc ..).symm, ?_⟩
    intro F other known' u swaps place pointer
    obtain ⟨made', front', same⟩ := front.retyped swaps.carries id
    obtain ⟨back', rest', same'⟩ := rest.retyped swaps.carries id
    rw [relocateProperties_id] at front' rest'
    have reference : TypeOf other known' (.reference (.at place) pointer name) u [] :=
      .reference swaps.refers
    refine ⟨_, _, front'.append (.cons reference rest'), ?_, List.rel_append same same'⟩
    exact List.rel_append (swaps.carries.inherited.forall₂_refl _)
      (.cons (swaps.field required place) (swaps.carries.inherited.forall₂_refl _))

/-- The owner is an `allOf`, and the property is that of an object at any depth of it. -/
theorem MergeOf.extracted {node node' : Node} (h : Node.Extracts property name schema node node') :
    ∀ {rest : List Node} {merge result : Merge} {own : List ObjectType},
      MergeOf graph known merge (node :: rest) result own →
        Extracted graph known property name schema own fun F other known' kept =>
          ∀ merge', merge.Retyped F merge' → ∃ result' own',
            MergeOf other known' merge' (node' :: rest) result' own' ∧
              result.Retyped F result' ∧ List.Forall₂ (ObjectType.Retyped F) kept own' := by
  induction h with
  | @property notes before required after keys additional discriminator place pointer =>
    intro rest merge result own derivation
    cases derivation with
    | @object _ _ _ _ _ _ _ fields _ _ others fieldsOf mergeOf =>
      refine (fieldsOf.extracted name).around [] others ?_
      intro F other known' kept carries extracted merge' same
      obtain ⟨fields', made', fieldsOf', retyped, own⟩ := extracted place pointer
      have added := same.add carries.inherited (o := ⟨"", fields, [], none, notes.description⟩)
        (p := ⟨"", fields', [], none, notes.description⟩) retyped
      have next : Merge.Retyped F
          { merge.add ⟨"", fields, [], none, notes.description⟩ with
            required := merge.required ++ keys }
          { merge'.add ⟨"", fields', [], none, notes.description⟩ with
            required := merge'.required ++ keys } := ⟨added.fields, by rw [same.required]⟩
      obtain ⟨result', others', mergeOf', result, own'⟩ := mergeOf.retyped carries id next
      rw [relocateAll_id] at mergeOf'
      exact ⟨result', made' ++ others', .object fieldsOf' mergeOf', result,
        List.rel_append own own'⟩
  | @member notes before inner inner' after discriminator _ ih =>
    intro rest merge result own derivation
    cases derivation with
    | @nested _ _ _ _ _ merged _ made others nested mergeOf =>
      obtain ⟨middle, first, second, rfl, front, back⟩ := nested.split
      refine (ih back).around first others ?_
      intro F other known' kept carries extracted merge' same
      obtain ⟨middle', first', front', retyped, own⟩ := front.retyped carries id
        (.start notes.description notes.description)
      obtain ⟨merged', second', back', retyped', own'⟩ := extracted middle' retyped
      obtain ⟨result', others', mergeOf', result, own''⟩ := mergeOf.retyped carries id
        (same.add carries.inherited (retyped'.toObject carries.inherited "" rfl).fields)
      rw [relocateAll_id] at front' mergeOf'
      exact ⟨result', (first' ++ second') ++ others', .nested (front'.append back') mergeOf',
        result, List.rel_append (List.rel_append own own') own''⟩

/-- The meaning of the owner in a document where a reference takes the place of the schema. -/
theorem DefinitionOf.extracted {owner : String} {node node' : Node}
    (h : Node.Extracts property name schema node node') {d : Definition} {own : List ObjectType}
    (derivation : DefinitionOf graph known owner node d own) :
    Extracted graph known property name schema own fun F other known' kept =>
      familyDiscriminator other owner = familyDiscriminator graph owner →
        ∃ d' own', DefinitionOf other known' owner node' d' own' ∧ d.Retyped F d' ∧
          List.Forall₂ (ObjectType.Retyped F) kept own' := by
  cases h with
  | @property notes before required after keys additional discriminator place pointer =>
    have model : ∀ node, isModel (.object notes (before ++ ⟨property, node, required⟩ :: after)
        keys additional discriminator) = true := by
      intro node
      simp [isModel]
    cases derivation with
    | other unnamed =>
      rw [model] at unnamed
      cases unnamed
    | object _ fieldsOf =>
      obtain ⟨t, made, first, second, type, rfl, all⟩ := fieldsOf.extracted name
      refine ⟨t, made, first, second, type, rfl, fun F other known' u swaps family => ?_⟩
      obtain ⟨fields', own', fieldsOf', retyped, same⟩ := all F other known' u swaps place pointer
      exact ⟨_, own', .object (model _) fieldsOf', .object ⟨rfl, retyped, family⟩, same⟩
  | @member notes before inner inner' after discriminator extracts =>
    cases derivation with
    | union merged => exact absurd rfl merged
    | other unnamed => cases unnamed
    | @merge _ _ _ result _ mergeOf =>
      obtain ⟨middle, first, second, rfl, front, back⟩ := mergeOf.split
      rw [← List.append_nil (first ++ second)]
      refine (MergeOf.extracted extracts back).around first [] ?_
      intro F other known' kept carries extracted family
      obtain ⟨middle', first', front', retyped, own⟩ := front.retyped carries id
        (.start notes.description notes.description)
      obtain ⟨result', second', back', retyped', own'⟩ := extracted middle' retyped
      rw [relocateAll_id] at front'
      rw [List.append_nil]
      exact ⟨_, first' ++ second', .merge (front'.append back'),
          .object (retyped'.toObject carries.inherited owner family), List.rel_append own own'⟩

end

end WireModel.Types
