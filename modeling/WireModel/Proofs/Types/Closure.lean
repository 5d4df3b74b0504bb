import WireModel.Proofs.Types.Coherence
import WireModel.Proofs.Types.Hoisting
import WireModel.Proofs.Types.Overriding

/-!
# The models that types refer to

Whether references to a schema are followed is told by the schema alone, before its meaning is
known. That the two agree is what makes every reference to a model lead to one.

* **`DefinitionOf.isModel_iff`**: a schema is a model exactly if it is defined to be an object, or a
  union under its name.
* **`Derived.names`**: every model that a derived type refers to is a declared one, or was made on
  the way.
* **`Closed`**: what this comes to for all definitions of a resolution (`Resolution.closed`).
-/

namespace WireModel.Types

open Schema

/-! ## The names in types -/

/-- All models that a type refers to, at any depth, have names of some kind. -/
def WireType.Names (P : String → Prop) (t : WireType) : Prop :=
  ∀ n, (model n).Part t → P n

namespace WireType

variable {P : String → Prop} {t : WireType}

theorem names_iff_inside :
    t.Names P ↔ (∀ n, t = .model n → P n) ∧ ∀ u ∈ t.inside, u.Names P := by
  constructor
  · refine fun h => ⟨?_, fun u mem n part => h n (part_of_inside mem part)⟩
    rintro n rfl
    exact h n .refl
  · rintro ⟨here, below⟩ n part
    rcases eq_or_inside_of_part part with same | ⟨u, mem, part⟩
    · exact here n same.symm
    · exact below u mem n part

@[simp] theorem names_primitive {kind : Kind} {format : Option String} :
    (primitive kind format).Names P := names_iff_inside.mpr ⟨nofun, nofun⟩

@[simp] theorem names_enum {name : Option String} {values : List Value} {kind : Kind} :
    (enum name values kind).Names P := names_iff_inside.mpr ⟨nofun, nofun⟩

@[simp] theorem names_model {n : String} : (model n).Names P ↔ P n := by
  simp [names_iff_inside (t := .model n), inside]

@[simp] theorem names_optional : (optional t).Names P ↔ t.Names P := by
  simp [names_iff_inside (t := .optional t), inside]

@[simp] theorem names_nullable : (nullable t).Names P ↔ t.Names P := by
  simp [names_iff_inside (t := .nullable t), inside]

@[simp] theorem names_sequence : (sequence t).Names P ↔ t.Names P := by
  simp [names_iff_inside (t := .sequence t), inside]

@[simp] theorem names_mapping : (mapping t).Names P ↔ t.Names P := by
  simp [names_iff_inside (t := .mapping t), inside]

@[simp] theorem names_union {name : Option String} {mode : Combination}
    {discriminator : Option Discriminator} {variants : List WireType} :
    (union name mode discriminator variants).Names P ↔ ∀ t ∈ variants, t.Names P := by
  simp [names_iff_inside (t := .union name mode discriminator variants), inside]

@[simp] theorem names_strip : ∀ {t : WireType}, t.strip.Names P ↔ t.Names P
  | .optional t => by rw [strip, names_strip, names_optional]
  | .nullable t => by rw [strip, names_strip, names_nullable]
  | .primitive .. | .sequence _ | .mapping _ | .enum .. | .model _ | .union .. => Iff.rfl

@[simp] theorem names_orNullIf {allowed : Bool} : (t.orNullIf allowed).Names P ↔ t.Names P := by
  rw [← names_strip, strip_orNullIf, names_strip]

end WireType

/-- All models that a definition refers to have names of some kind. -/
def Definition.Names (P : String → Prop) : Definition → Prop
  | .object o => ∀ f ∈ o.fields, f.type.Names P
  | .type t => t.Names P

variable {graph : Graph} {P : String → Prop}

theorem names_fieldOf {name : String} {required : Bool} {notes : Notes} {t : WireType} :
    (fieldOf name required notes t).type.Names P ↔ t.Names P := by
  cases required
  · exact WireType.names_optional
  · exact Iff.rfl

theorem Merge.names_add {merge : Merge} {o : ObjectType}
    (before : ∀ f ∈ merge.fields, f.type.Names P) (added : ∀ f ∈ o.fields, f.type.Names P) :
    ∀ f ∈ (merge.add o).fields, f.type.Names P :=
  fun f mem => (Merge.mem_add mem).elim (added f) (before f)

theorem Field.names_requireIf {names : List String} {f : Field} (h : f.type.Names P) :
    (f.requireIf names).type.Names P := by
  unfold requireIf
  split
  · rename_i inner optional
    rw [optional] at h
    split
    · exact WireType.names_optional.mp h
    · exact optional ▸ h
  · exact h

theorem Merge.names_toObject {merge : Merge} {name : String}
    {discriminator : Option Discriminator} (all : ∀ f ∈ merge.fields, f.type.Names P) :
    (Definition.object (merge.toObject name discriminator)).Names P := by
  intro f mem
  have mem : f ∈ merge.fields.map (Field.requireIf merge.required) := mem
  obtain ⟨g, there, rfl⟩ := List.mem_map.mp mem
  exact Field.names_requireIf (all g there)

theorem UnionOf.names {mode : Combination} {name : Option String}
    {discriminator : Option Discriminator} {variants : List WireType} {t : WireType}
    (h : UnionOf mode name discriminator variants t) (all : ∀ v ∈ variants, v.Names P) :
    t.Names P := by
  cases h with
  | single => exact all t List.mem_cons_self
  | untagged | tagged => exact WireType.names_union.mpr all

/-! ## Derivations -/

/-- All declared models are of some kind. What is known refers to models of that kind only, and is
an object only for a schema that is a model. -/
structure Known.Refer (graph : Graph) (P : String → Prop) (known : Known) : Prop where
  models : ∀ n node, graph.get? n = some node → isModel node = true → P n
  names : ∀ n d, known n = some d → d.Names P
  objects : ∀ n node o, graph.get? n = some node → known n = some (.object o) →
    isModel node = true

variable {known : Known}

theorem Refers.names (refer : known.Refer graph P) {nullable : Bool} {target : String}
    {t : WireType} (h : Refers graph known nullable target t) : t.Names P := by
  cases h with
  | model found model => simpa using refer.models _ _ found model
  | named _ _ meant => exact WireType.names_orNullIf.mpr (refer.names _ _ meant)
  | object found other meant =>
    -- the two tests agree, so that references are never followed to an object
    rw [refer.objects _ _ _ found meant] at other
    cases other

mutual

/-- By induction on the derivation, if the models made inside have names of that kind. -/
theorem TypeOf.names (refer : known.Refer graph P) : ∀ {node t own},
    TypeOf graph known node t own → (∀ o ∈ own, P o.name) →
    t.Names P ∧ ∀ o ∈ own, (Definition.object o).Names P
  | _, _, _, .reference h, _ => ⟨h.names refer, nofun⟩
  | _, _, _, .primitive, _ => ⟨by simp, nofun⟩
  | _, _, _, .enum _, _ => ⟨by simp, nofun⟩
  | _, _, _, .list, _ => ⟨by simp [WireType.any], nofun⟩
  | _, _, _, .array h, named => by
    obtain ⟨element, own⟩ := h.names refer named
    exact ⟨by simpa using element, own⟩
  | _, _, _, .dictionary _, _ => ⟨by simp [WireType.any], nofun⟩
  | _, _, _, .mapping h, named => by
    obtain ⟨value, own⟩ := h.names refer named
    exact ⟨by simpa using value, own⟩
  | _, _, _, .object _ h, named => by
    obtain ⟨inner, here⟩ := List.forall_mem_append.mp named
    obtain ⟨fields, own⟩ := h.names refer inner
    refine ⟨by simpa using here, List.forall_mem_append.mpr ⟨own, ?_⟩⟩
    exact List.forall_mem_singleton.mpr fields
  | _, _, _, .wrapper h, _ => ⟨by simpa using h.names refer, nofun⟩
  | _, _, _, .merge _ h, named => by
    obtain ⟨inner, here⟩ := List.forall_mem_append.mp named
    obtain ⟨fields, own⟩ := h.names refer inner nofun
    refine ⟨WireType.names_orNullIf.mpr (WireType.names_model.mpr ?_),
      List.forall_mem_append.mpr ⟨own, ?_⟩⟩
    · exact here _ List.mem_cons_self
    · exact List.forall_mem_singleton.mpr (Merge.names_toObject fields)
  | _, _, _, .union _ h union, named => by
    obtain ⟨variants, own⟩ := h.names refer named
    exact ⟨by simpa using union.names variants, own⟩

theorem FieldsOf.names (refer : known.Refer graph P) : ∀ {properties fields own},
    FieldsOf graph known properties fields own → (∀ o ∈ own, P o.name) →
    (∀ f ∈ fields, f.type.Names P) ∧ ∀ o ∈ own, (Definition.object o).Names P
  | _, _, _, .nil, _ => ⟨nofun, nofun⟩
  | _, _, _, .cons h rest, named => by
    obtain ⟨here, later⟩ := List.forall_mem_append.mp named
    obtain ⟨type, own⟩ := h.names refer here
    obtain ⟨fields, others⟩ := rest.names refer later
    exact ⟨List.forall_mem_cons.mpr ⟨names_fieldOf.mpr type, fields⟩,
      List.forall_mem_append.mpr ⟨own, others⟩⟩

theorem VariantsOf.names (refer : known.Refer graph P) : ∀ {members variants nullable own},
    VariantsOf graph known members variants nullable own → (∀ o ∈ own, P o.name) →
      (∀ t ∈ variants, t.Names P) ∧ ∀ o ∈ own, (Definition.object o).Names P
  | _, _, _, _, .nil, _ => ⟨nofun, nofun⟩
  | _, _, _, _, .null _ rest, named => rest.names refer named
  | _, _, _, _, .cons _ h rest, named => by
    obtain ⟨here, later⟩ := List.forall_mem_append.mp named
    obtain ⟨type, own⟩ := h.names refer here
    obtain ⟨types, others⟩ := rest.names refer later
    exact ⟨List.forall_mem_cons.mpr ⟨WireType.names_strip.mpr type, types⟩,
      List.forall_mem_append.mpr ⟨own, others⟩⟩

theorem MergeOf.names (refer : known.Refer graph P) : ∀ {merge members result own},
    MergeOf graph known merge members result own → (∀ o ∈ own, P o.name) →
      (∀ f ∈ merge.fields, f.type.Names P) →
      (∀ f ∈ result.fields, f.type.Names P) ∧ ∀ o ∈ own, (Definition.object o).Names P
  | _, _, _, _, .nil, _, before => ⟨before, nofun⟩
  | _, _, _, _, .reference _ meant rest, named, before =>
    rest.names refer named (Merge.names_add before (refer.names _ _ meant))
  | _, _, _, _, .object h rest, named, before => by
    obtain ⟨here, later⟩ := List.forall_mem_append.mp named
    obtain ⟨fields, own⟩ := h.names refer here
    obtain ⟨result, others⟩ := rest.names refer later (Merge.names_add before fields)
    exact ⟨result, List.forall_mem_append.mpr ⟨own, others⟩⟩
  | _, _, _, _, .nested h rest, named, before => by
    obtain ⟨here, later⟩ := List.forall_mem_append.mp named
    obtain ⟨inner, own⟩ := h.names refer here nofun
    obtain ⟨result, others⟩ :=
      rest.names refer later (Merge.names_add before (Merge.names_toObject inner))
    exact ⟨result, List.forall_mem_append.mpr ⟨own, others⟩⟩

end

theorem DefinitionOf.names (refer : known.Refer graph P) {name : String} {node : Node}
    {d : Definition} {own : List ObjectType}
    (h : DefinitionOf graph known name node d own) (named : ∀ o ∈ own, P o.name) :
    d.Names P ∧ ∀ o ∈ own, (Definition.object o).Names P := by
  cases h with
  | object _ h => exact h.names refer named
  | merge h =>
    obtain ⟨fields, own⟩ := h.names refer named nofun
    exact ⟨Merge.names_toObject fields, own⟩
  | union _ _ h union =>
    obtain ⟨variants, own⟩ := h.names refer named
    exact ⟨union.names variants, own⟩
  | enum => exact ⟨WireType.names_orNullIf.mpr WireType.names_enum, nofun⟩
  | other _ _ h => exact h.names refer named

/-- Everything derived refers to declared models and to those made on the way only. -/
theorem Derived.names (models : ∀ n node, graph.get? n = some node → isModel node = true → P n)
    {active : List String} {entries : List Entry} (h : Derived graph active [] entries)
    (named : ∀ e ∈ entries, ∀ o ∈ e.own, P o.name) :
    ∀ e ∈ entries, e.meaning.Names P ∧ ∀ o ∈ e.own, (Definition.object o).Names P := by
  induction h with
  | nil => nofun
  | @cons e node entries derived _ _ found meaning ih =>
    obtain ⟨here, later⟩ := List.forall_mem_cons.mp named
    have all := ih later
    rw [List.append_nil] at meaning
    have refer : Known.Refer graph P (knownIn (entries.map Entry.pair)) := by
      refine ⟨models, fun n d meant => ?_, fun n node o found meant => ?_⟩
      · obtain ⟨f, mem, -, rfl⟩ := exists_entry_of_knownIn meant
        exact (all f mem).1
      · obtain ⟨f, mem, rfl, same⟩ := exists_entry_of_knownIn meant
        obtain ⟨node', _, found', meaning, -⟩ := derived.exists_definition mem
        obtain rfl := Option.some.inj (found.symm.trans found')
        rw [same] at meaning
        exact meaning.isObject_of_object.2
    exact List.forall_mem_cons.mpr ⟨meaning.names refer here, all⟩

/-! ## The kinds of definitions -/

/-- A definition is a model of its own: an object, or a union that has the name. -/
inductive Definition.IsModelAs (name : String) : Definition → Prop
  | object {o} : IsModelAs name (.object o)
  | union {mode discriminator variants} :
      IsModelAs name (.type (.union (some name) mode discriminator variants))

theorem UnionOf.eq_union {mode : Combination} {name : Option String}
    {discriminator : Option Discriminator} {variants : List WireType} {t : WireType}
    (h : UnionOf mode name discriminator variants t) (several : 1 < variants.length) :
    ∃ d, t = .union name mode d variants := by
  cases h with
  | single => exact absurd several (Nat.lt_irrefl 1)
  | untagged | tagged => exact ⟨_, rfl⟩

/-- A schema is a model exactly if it is defined to be one: the test on the schema agrees with what
comes out. -/
theorem DefinitionOf.isModel_iff (unions : known.NamesModels graph) {name : String} {node : Node}
    {d : Definition} {own : List ObjectType} (h : DefinitionOf graph known name node d own) :
    isModel node = true ↔ d.IsModelAs name := by
  cases h with
  | object model => exact iff_of_true model .object
  | merge => exact iff_of_true rfl .object
  | @union notes mode members discriminator variants nullable t _ union model h variant =>
    obtain ⟨d, rfl⟩ := variant.eq_union (h.several union model)
    exact iff_of_true model .union
  | @enum notes values kind =>
    refine iff_of_false Bool.false_ne_true fun model => ?_
    generalize same : Definition.type _ = d at model
    cases model with
    | object => cases same
    | union =>
      have named : (WireType.union (some name) _ _ _).strip = _ :=
        congrArg WireType.strip (Definition.type.inj same).symm
      rw [WireType.strip_orNullIf] at named
      cases named
  | other other _ h =>
    refine iff_of_false (by simp [other]) fun model => ?_
    cases model with
    | union => exact h.unnamed unions ⟨_, _, _, _, rfl⟩

/-! ## Resolutions -/

/-- A name is that of a model among some definitions. -/
def IsModelIn (definitions : List (String × Definition)) (name : String) : Prop :=
  ∃ d, (name, d) ∈ definitions ∧ d.IsModelAs name

/-- What the definitions of a resolution have in common, where some models were added to the
declared schemas. -/
structure Closed (graph : Graph) (definitions : List (String × Definition))
    (hoisted : List ObjectType) : Prop where
  /-- The declared names come first, in their order, and then those of the models added. -/
  names : definitions.map Prod.fst =
    graph.definitions.map Prod.fst ++ hoisted.map ObjectType.name
  /-- Every name is there once: no model added takes a declared name or that of another one. -/
  distinct : (definitions.map Prod.fst).Nodup
  added : ∀ o ∈ hoisted, o.pair ∈ definitions
  /-- Each model added is that of a schema inside of a named one, and no schema has two. -/
  places : ∃ places : List (String × List Nat), places.Nodup ∧
    List.Forall₂ (fun o place => place.2 ≠ [] ∧ ∃ node, graph.at? place = some node ∧
      Models graph definitions node o) hoisted places
  /-- A declared schema that is a model is defined to be one. -/
  models : ∀ name node, graph.get? name = some node → isModel node = true →
    IsModelIn definitions name
  /-- Any other one is an alias, defined to be a type: no object, and no union under its name. -/
  aliases : ∀ name node, graph.get? name = some node → isModel node = false →
    ¬IsModelIn definitions name ∧ ∃ t, (name, .type t) ∈ definitions
  /-- Whatever refers to a model, at any depth of a type, refers to one that is there. -/
  refs : ∀ p ∈ definitions, p.2.Names (IsModelIn definitions)

section

variable {definitions : List (String × Definition)} {entries : List Entry}
  {hoisted : List ObjectType}

theorem Resolution.added (r : Resolution graph definitions entries hoisted) :
    ∀ o ∈ hoisted, o.pair ∈ definitions := by
  intro o mem
  obtain ⟨e, there, own⟩ := List.mem_flatMap.mp (r.made.mem_iff.mp mem)
  exact r.own_mem there own

/-- The definition of a declared schema is a model exactly if the schema is one. -/
theorem Resolution.exists_isModel_iff (r : Resolution graph definitions entries hoisted)
    (distinct : (graph.definitions.map Prod.fst).Nodup) {name : String} {node : Node}
    (found : graph.get? name = some node) :
    ∃ d, (name, d) ∈ definitions ∧ (isModel node = true ↔ d.IsModelAs name) := by
  obtain ⟨known, d, own, meaning, unions, defined, -⟩ := r.exists_definitionOf distinct found
  exact ⟨d, mem_of_lookup_eq_some defined, meaning.isModel_iff unions⟩

/-- The definitions of a resolution are closed. -/
theorem Resolution.closed (r : Resolution graph definitions entries hoisted)
    (distinct : (graph.definitions.map Prod.fst).Nodup) : Closed graph definitions hoisted := by
  have models : ∀ name node, graph.get? name = some node → isModel node = true →
      IsModelIn definitions name := by
    intro name node found model
    obtain ⟨d, mem, same⟩ := r.exists_isModel_iff distinct found
    exact ⟨d, mem, same.mp model⟩
  have refs := r.derived.names models fun e mem o own => ⟨_, r.own_mem mem own, .object⟩
  refine
    { names := r.map_fst
      distinct := r.nodup distinct
      added := r.added
      places := r.exists_places distinct
      models := models
      aliases := fun name node found other => ?_
      refs := fun p mem => ?_ }
  · obtain ⟨d, mem, same⟩ := r.exists_isModel_iff distinct found
    have unnamed : ¬d.IsModelAs name := fun model => by
      rw [same.mpr model] at other
      cases other
    refine ⟨?_, ?_⟩
    · rintro ⟨d', mem', model⟩
      have one : (name, d) = (name, d') :=
        List.inj_on_of_nodup_map (r.nodup distinct) mem mem' rfl
      cases one
      exact unnamed model
    · cases d with
      | object => exact absurd .object unnamed
      | type t => exact ⟨t, mem⟩
  · rcases r.mem_cases mem with ⟨e, there, rfl⟩ | ⟨e, there, o, own, rfl⟩
    · exact (refs e there).1
    · exact (refs e there).2 o own

end

end WireModel.Types
