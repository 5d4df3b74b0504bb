import WireModel.Proofs.Schema.Provenance
import WireModel.Proofs.Types.Overriding
import WireModel.Proofs.Types.Soundness

/-!
# What types say is in the schemas

Every enumeration, every discriminated union and every default in the types of a resolution is that
of a schema of the graph (`Resolution.stems`), and an enumeration with a name that of the schema with
this name: by induction on the derivation, and for each schema on what its type is. A discriminator
is a declared one, completed by names: those of the variants of a union, or those of the family of
an object.
-/

namespace WireModel.Types

open Schema

/-- The discriminator of a union completes one that a schema declares, by the names of the
variants. -/
inductive UnionTagged (graph : Graph) : Discriminator → List WireType → Prop
  | intro {notes mode members declared names} :
      graph.Holds (.composite notes mode members (some declared)) →
      UnionTagged graph ⟨declared.property, completed declared.mapping names⟩ (names.map .model)

/-- What a type says itself is said by a schema. -/
def WireType.Sourced (graph : Graph) : WireType → Prop
  | .enum name values kind => ∃ notes, graph.Holds (.enum notes values kind) ∧
    ∀ n, name = some n → graph.get? n = some (.enum notes values kind)
  | .union _ _ (some d) variants => UnionTagged graph d variants
  | _ => True

/-- What a type says is said by schemas. -/
def WireType.Stems (graph : Graph) (t : WireType) : Prop :=
  ∀ part : WireType, part.Part t → part.Sourced graph

/-- What a field says is said by schemas. -/
structure Field.Stems (graph : Graph) (f : Field) : Prop where
  type : f.type.Stems graph
  default : ∀ v, f.default = some v → ∃ node, graph.Holds node ∧ node.notes.default = some v

/-- What an object says is said by schemas; only a named one has a discriminator, that of its
family. -/
structure ObjectType.Stems (graph : Graph) (o : ObjectType) : Prop where
  fields : ∀ f ∈ o.fields, f.Stems graph
  discriminator : o.discriminator = none ∨ o.discriminator = familyDiscriminator graph o.name

/-- What a definition says is said by schemas. -/
def Definition.Stems (graph : Graph) : Definition → Prop
  | .object o => o.Stems graph
  | .type t => t.Stems graph

variable {graph : Graph}

/-! ## Types -/

namespace WireType

theorem stems_primitive {kind : Kind} {format : Option String} :
    (primitive kind format).Stems graph := by
  intro _ part
  cases part
  trivial

theorem stems_model {name : String} : (model name).Stems graph := by
  intro _ part
  cases part
  trivial

theorem stems_enum {notes : Notes} {name : Option String} {values : List Value} {kind : Kind}
    (holds : graph.Holds (.enum notes values kind))
    (named : ∀ n, name = some n → graph.get? n = some (.enum notes values kind)) :
    (WireType.enum name values kind).Stems graph := by
  intro _ part
  cases part
  exact ⟨notes, holds, named⟩

theorem stems_optional {t : WireType} : (optional t).Stems graph ↔ t.Stems graph := by
  refine ⟨fun h _ part => h _ (.optional part), fun h _ part => ?_⟩
  cases part with
  | refl => trivial
  | optional part => exact h _ part

theorem stems_nullable {t : WireType} : (nullable t).Stems graph ↔ t.Stems graph := by
  refine ⟨fun h _ part => h _ (.nullable part), fun h _ part => ?_⟩
  cases part with
  | refl => trivial
  | nullable part => exact h _ part

theorem Stems.sequence {t : WireType} (h : t.Stems graph) :
    (WireType.sequence t).Stems graph := by
  intro _ part
  cases part with
  | refl => trivial
  | sequence part => exact h _ part

theorem Stems.mapping {t : WireType} (h : t.Stems graph) : (WireType.mapping t).Stems graph := by
  intro _ part
  cases part with
  | refl => trivial
  | mapping part => exact h _ part

theorem stems_union {name : Option String} {mode : Combination}
    {discriminator : Option Discriminator} {variants : List WireType}
    (all : ∀ t ∈ variants, t.Stems graph)
    (tagged : ∀ d, discriminator = some d → UnionTagged graph d variants) :
    (union name mode discriminator variants).Stems graph := by
  intro _ part
  cases part with
  | refl =>
    cases discriminator with
    | none => trivial
    | some d => exact tagged d rfl
  | variant mem part => exact all _ mem _ part

theorem stems_strip : ∀ {t : WireType}, t.strip.Stems graph ↔ t.Stems graph
  | .optional t => by rw [strip, stems_strip, stems_optional]
  | .nullable t => by rw [strip, stems_strip, stems_nullable]
  | .primitive .. | .sequence _ | .mapping _ | .enum .. | .model _ | .union .. => Iff.rfl

theorem stems_orNullIf {allowed : Bool} {t : WireType} :
    (t.orNullIf allowed).Stems graph ↔ t.Stems graph := by
  cases allowed with
  | false => rfl
  | true => rw [← stems_strip, ← stems_strip (t := t), orNullIf, if_pos rfl, strip_orNull]

end WireType

/-! ## Fields -/

theorem stems_fieldOf {name : String} {required : Bool} {node : Node} {t : WireType}
    (holds : graph.Holds node) (type : t.Stems graph) :
    (fieldOf name required node.notes t).Stems graph where
  type := by
    unfold fieldOf
    split
    · exact type
    · exact WireType.stems_optional.mpr type
  default _ same := ⟨node, holds, same⟩

theorem stems_require {names : List String} {fields : List Field}
    (all : ∀ f ∈ fields, f.Stems graph) : ∀ f ∈ require names fields, f.Stems graph := by
  intro f mem
  obtain ⟨g, there, rfl⟩ := List.mem_map.mp mem
  have stems := all g there
  split
  · rename_i inner same
    split
    · have type := stems.type
      rw [same] at type
      exact ⟨WireType.stems_optional.mp type, stems.default⟩
    · exact stems
  · exact stems

theorem stems_add {merge : Merge} {o : ObjectType} (before : ∀ f ∈ merge.fields, f.Stems graph)
    (added : ∀ f ∈ o.fields, f.Stems graph) : ∀ f ∈ (merge.add o).fields, f.Stems graph :=
  fun f mem => (Merge.mem_add mem).elim (added f) (before f)

/-! ## Schemas -/

/-- What is known says what schemas say. -/
def Known.Stems (graph : Graph) (known : Known) : Prop :=
  ∀ name definition, known name = some definition → definition.Stems graph

variable {known : Known}

theorem Refers.stems {nullable : Bool} {target : String} {t : WireType}
    (h : Refers graph known nullable target t) (stems : known.Stems graph) : t.Stems graph := by
  cases h with
  | model =>
    refine WireType.stems_orNullIf.mpr ?_
    exact WireType.stems_orNullIf.mpr WireType.stems_model
  | named _ _ found => exact WireType.stems_orNullIf.mpr (stems _ _ found)
  | object => exact WireType.stems_orNullIf.mpr WireType.stems_model

theorem UnionOf.stems {notes : Notes} {mode : Combination} {members : List Node}
    {name : Option String} {discriminator : Option Discriminator} {variants : List WireType}
    {t : WireType} (h : UnionOf mode name discriminator variants t)
    (holds : graph.Holds (.composite notes mode members discriminator))
    (all : ∀ v ∈ variants, v.Stems graph) : t.Stems graph := by
  cases h with
  | single => exact all t List.mem_cons_self
  | untagged => exact WireType.stems_union all nofun
  | tagged =>
    refine WireType.stems_union all fun d same => ?_
    cases same
    exact .intro holds

/-- A member of an `allOf` or a union stands in the graph if that does. -/
theorem holds_of_mem {notes : Notes} {mode : Combination} {members : List Node}
    {discriminator : Option Discriminator}
    (holds : graph.Holds (.composite notes mode members discriminator)) :
    ∀ m ∈ members, graph.Holds m :=
  fun _ mem => holds.part (.member mem .refl)

theorem holds_of_mem_properties {notes : Notes} {properties : List Property}
    {required : List String} {additional : Additional} {discriminator : Option Discriminator}
    (holds : graph.Holds (.object notes properties required additional discriminator)) :
    ∀ p ∈ properties, graph.Holds p.node :=
  fun _ mem => holds.part (.property mem .refl)

mutual

theorem TypeOf.stems (stems : known.Stems graph) :
    ∀ {node t own}, TypeOf graph known node t own → graph.Holds node →
      t.Stems graph ∧ ∀ o ∈ own, o.Stems graph
  | _, _, _, .reference h, _ => ⟨h.stems stems, nofun⟩
  | _, _, _, .primitive, _ => ⟨WireType.stems_orNullIf.mpr WireType.stems_primitive, nofun⟩
  | _, _, _, .enum _, holds => ⟨WireType.stems_orNullIf.mpr (WireType.stems_enum holds nofun), nofun⟩
  | _, _, _, .list, _ => ⟨WireType.stems_orNullIf.mpr WireType.stems_primitive.sequence, nofun⟩
  | _, _, _, .array h, holds => by
    obtain ⟨inner, own⟩ := h.stems stems (holds.part (.items .refl))
    exact ⟨WireType.stems_orNullIf.mpr inner.sequence, own⟩
  | _, _, _, .dictionary _, _ =>
    ⟨WireType.stems_orNullIf.mpr WireType.stems_primitive.mapping, nofun⟩
  | _, _, _, .mapping h, holds => by
    obtain ⟨inner, own⟩ := h.stems stems (holds.part (.additional .refl))
    exact ⟨WireType.stems_orNullIf.mpr inner.mapping, own⟩
  | _, _, _, .object _ h, holds => by
    obtain ⟨fields, own⟩ := h.stems stems (holds_of_mem_properties holds)
    refine ⟨WireType.stems_orNullIf.mpr WireType.stems_model, ?_⟩
    exact List.forall_mem_append.mpr ⟨own, List.forall_mem_singleton.mpr ⟨fields, .inl rfl⟩⟩
  | _, _, _, .wrapper h, _ => ⟨WireType.stems_orNullIf.mpr (h.stems stems), nofun⟩
  | _, _, _, .merge _ h, holds => by
    obtain ⟨fields, own⟩ := h.stems stems (holds_of_mem holds) nofun
    refine ⟨WireType.stems_orNullIf.mpr WireType.stems_model, List.forall_mem_append.mpr ⟨own, ?_⟩⟩
    exact List.forall_mem_singleton.mpr ⟨stems_require fields, .inl rfl⟩
  | _, _, _, .union _ h union, holds => by
    obtain ⟨variants, own⟩ := h.stems stems (holds_of_mem holds)
    exact ⟨WireType.stems_orNullIf.mpr (union.stems holds variants), own⟩

theorem FieldsOf.stems (stems : known.Stems graph) :
    ∀ {properties fields own}, FieldsOf graph known properties fields own →
      (∀ p ∈ properties, graph.Holds p.node) →
      (∀ f ∈ fields, f.Stems graph) ∧ ∀ o ∈ own, o.Stems graph
  | _, _, _, .nil, _ => ⟨nofun, nofun⟩
  | _, _, _, .cons h rest, holds => by
    obtain ⟨here, holds⟩ := List.forall_mem_cons.mp holds
    obtain ⟨type, own⟩ := h.stems stems here
    obtain ⟨fields, others⟩ := rest.stems stems holds
    refine ⟨List.forall_mem_cons.mpr ⟨stems_fieldOf here type, fields⟩, ?_⟩
    exact List.forall_mem_append.mpr ⟨own, others⟩

theorem VariantsOf.stems (stems : known.Stems graph) :
    ∀ {members variants nullable own}, VariantsOf graph known members variants nullable own →
      (∀ m ∈ members, graph.Holds m) →
      (∀ t ∈ variants, t.Stems graph) ∧ ∀ o ∈ own, o.Stems graph
  | _, _, _, _, .nil, _ => ⟨nofun, nofun⟩
  | _, _, _, _, .null _ rest, holds => rest.stems stems (List.forall_mem_cons.mp holds).2
  | _, _, _, _, .cons _ h rest, holds => by
    obtain ⟨here, holds⟩ := List.forall_mem_cons.mp holds
    obtain ⟨type, own⟩ := h.stems stems here
    obtain ⟨types, others⟩ := rest.stems stems holds
    refine ⟨List.forall_mem_cons.mpr ⟨WireType.stems_strip.mpr type, types⟩, ?_⟩
    exact List.forall_mem_append.mpr ⟨own, others⟩

theorem MergeOf.stems (stems : known.Stems graph) :
    ∀ {merge members result own}, MergeOf graph known merge members result own →
      (∀ m ∈ members, graph.Holds m) → (∀ f ∈ merge.fields, f.Stems graph) →
      (∀ f ∈ result.fields, f.Stems graph) ∧ ∀ o ∈ own, o.Stems graph
  | _, _, _, _, .nil, _, before => ⟨before, nofun⟩
  | _, _, _, _, .reference _ found rest, holds, before =>
    rest.stems stems (List.forall_mem_cons.mp holds).2 (stems_add before (stems _ _ found).fields)
  | _, _, _, _, .object h rest, holds, before => by
    obtain ⟨here, holds⟩ := List.forall_mem_cons.mp holds
    obtain ⟨fields, own⟩ := h.stems stems (holds_of_mem_properties here)
    obtain ⟨result, others⟩ := rest.stems stems holds (stems_add before fields)
    exact ⟨result, List.forall_mem_append.mpr ⟨own, others⟩⟩
  | _, _, _, _, .nested h rest, holds, before => by
    obtain ⟨here, holds⟩ := List.forall_mem_cons.mp holds
    obtain ⟨inner, own⟩ := h.stems stems (holds_of_mem here) nofun
    obtain ⟨result, others⟩ := rest.stems stems holds (stems_add before (stems_require inner))
    exact ⟨result, List.forall_mem_append.mpr ⟨own, others⟩⟩

end

/-! ## Named schemas -/

theorem mem_of_get? {name : String} {node : Node} (h : graph.get? name = some node) :
    (name, node) ∈ graph.definitions := mem_of_lookup_eq_some h

theorem DefinitionOf.stems {name : String} {node : Node} {d : Definition} {own : List ObjectType}
    (h : DefinitionOf graph known name node d own) (stems : known.Stems graph)
    (found : graph.get? name = some node) : d.Stems graph ∧ ∀ o ∈ own, o.Stems graph := by
  have holds : graph.Holds node := ⟨_, mem_of_get? found, .refl⟩
  cases h with
  | object _ h =>
    obtain ⟨fields, own⟩ := h.stems stems (holds_of_mem_properties holds)
    exact ⟨⟨fields, .inr rfl⟩, own⟩
  | merge h =>
    obtain ⟨fields, own⟩ := h.stems stems (holds_of_mem holds) nofun
    exact ⟨⟨stems_require fields, .inr rfl⟩, own⟩
  | union _ _ h union =>
    obtain ⟨variants, own⟩ := h.stems stems (holds_of_mem holds)
    exact ⟨union.stems holds variants, own⟩
  | enum =>
    refine ⟨WireType.stems_orNullIf.mpr (WireType.stems_enum holds fun n same => ?_), nofun⟩
    exact Option.some.inj same ▸ found
  | other _ _ h => exact h.stems stems holds

theorem Derived.stems {active : List String} {pairs : List (String × Definition)}
    {entries : List Entry} (h : Derived graph active pairs entries)
    (stems : (knownIn pairs).Stems graph) :
    (knownIn (entries.map Entry.pair ++ pairs)).Stems graph ∧
      ∀ e ∈ entries, ∀ o ∈ e.own, o.Stems graph := by
  induction h with
  | nil => exact ⟨stems, nofun⟩
  | cons _ _ _ found meaning ih =>
    obtain ⟨meant, own⟩ := meaning.stems ih.1 found
    refine ⟨fun name d known => ?_, List.forall_mem_cons.mpr ⟨own, ih.2⟩⟩
    rw [List.map_cons, List.cons_append, Entry.pair, knownIn_cons] at known
    split at known
    · cases known
      exact meant
    · exact ih.1 name d known

/-- What the definitions of a resolution say is said by its schemas. -/
theorem Resolution.stems {definitions : List (String × Definition)} {entries : List Entry}
    {hoisted : List ObjectType} (h : Resolution graph definitions entries hoisted) :
    ∀ d ∈ definitions, d.2.Stems graph := by
  have unknown : (knownIn []).Stems graph := nofun
  obtain ⟨known, own⟩ := h.derived.stems unknown
  rw [List.append_nil] at known
  obtain ⟨named, rfl, all⟩ := h.definitions
  refine List.forall_mem_append.mpr ⟨fun d mem => ?_, fun d mem => ?_⟩
  · obtain ⟨declared, -, -, found⟩ := exists_left_of_forall₂ all mem
    exact known _ _ found
  · obtain ⟨o, made, rfl⟩ := List.mem_map.mp mem
    obtain ⟨e, he, ho⟩ := List.mem_flatMap.mp (h.made.mem_iff.mp made)
    exact own e he o ho

end WireModel.Types
