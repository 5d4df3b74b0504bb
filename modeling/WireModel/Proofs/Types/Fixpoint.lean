import WireModel.Proofs.Types.Nullability

/-!
# What a resolution says of itself

A resolution finds the meaning of a schema by what it knows at that moment. It never takes anything
back, so each meaning is also derived from all that it knows in the end.

* **`TypeOf.mono`**: whoever knows more derives the same.
* **`Resolution.definitionOf`**: the meaning of a named schema, derived from the definitions that
  the resolution results in.
* **`ModelOf`**: an object is the model of a schema. So is that of every named object and `allOf`,
  and that of every schema inside of another one that becomes a model (`Resolution.defines`).
-/

namespace WireModel.Types

open Schema

variable {graph : Graph} {known more : Known}

/-! ## More knowledge -/

theorem Refers.mono (includes : more.Includes known) {nullable : Bool} {target : String}
    {t : WireType} (h : Refers graph known nullable target t) :
    Refers graph more nullable target t := by
  cases h with
  | model found model => exact .model found model
  | named found other meant => exact .named found other (includes _ _ meant)
  | object found other meant => exact .object found other (includes _ _ meant)

mutual

theorem TypeOf.mono (includes : more.Includes known) : ∀ {node t own},
    TypeOf graph known node t own → TypeOf graph more node t own
  | _, _, _, .reference h => .reference (h.mono includes)
  | _, _, _, .primitive => .primitive
  | _, _, _, .enum listed => .enum listed
  | _, _, _, .list => .list
  | _, _, _, .array h => .array (h.mono includes)
  | _, _, _, .dictionary plain => .dictionary plain
  | _, _, _, .mapping h => .mapping (h.mono includes)
  | _, _, _, .object proper h => .object proper (h.mono includes)
  | _, _, _, .wrapper h => .wrapper (h.mono includes)
  | _, _, _, .merge proper h => .merge proper (h.mono includes)
  | _, _, _, .union mode h union => .union mode (h.mono includes) union

theorem FieldsOf.mono (includes : more.Includes known) : ∀ {properties fields own},
    FieldsOf graph known properties fields own → FieldsOf graph more properties fields own
  | _, _, _, .nil => .nil
  | _, _, _, .cons h rest => .cons (h.mono includes) (rest.mono includes)

theorem VariantsOf.mono (includes : more.Includes known) : ∀ {members variants nullable own},
    VariantsOf graph known members variants nullable own →
      VariantsOf graph more members variants nullable own
  | _, _, _, _, .nil => .nil
  | _, _, _, _, .null null rest => .null null (rest.mono includes)
  | _, _, _, _, .cons other h rest => .cons other (h.mono includes) (rest.mono includes)

theorem MergeOf.mono (includes : more.Includes known) : ∀ {merge members result own},
    MergeOf graph known merge members result own → MergeOf graph more merge members result own
  | _, _, _, _, .nil => .nil
  | _, _, _, _, .reference there meant rest =>
    .reference there (includes _ _ meant) (rest.mono includes)
  | _, _, _, _, .object h rest => .object (h.mono includes) (rest.mono includes)
  | _, _, _, _, .nested h rest => .nested (h.mono includes) (rest.mono includes)

end

theorem DefinitionOf.mono (includes : more.Includes known) {name : String} {node : Node}
    {d : Definition} {own : List ObjectType} (h : DefinitionOf graph known name node d own) :
    DefinitionOf graph more name node d own := by
  cases h with
  | object model h => exact .object model (h.mono includes)
  | merge h => exact .merge (h.mono includes)
  | union mode model h union => exact .union mode model (h.mono includes) union
  | enum some => exact .enum some
  | other other enum h => exact .other other enum (h.mono includes)

/-! ## Models of schemas -/

/-- An object has what a schema says of a model, with the models made inside of it; not its name and
its discriminator, which the schema does not tell. -/
inductive ModelOf (graph : Graph) (known : Known) : Node → ObjectType → List ObjectType → Prop
  | object {notes properties required additional tagged name fields discriminator own} :
      FieldsOf graph known properties fields own →
      ModelOf graph known (.object notes properties required additional tagged)
        ⟨name, fields, [], discriminator, notes.description⟩ own
  | merge {notes members tagged name result discriminator own} :
      MergeOf graph known { description := notes.description } members result own →
      ModelOf graph known (.composite notes .allOf members tagged)
        (result.toObject name discriminator) own

/-- An object is the model of a schema, and all models made inside of it are among some objects. -/
def ModelWithin (graph : Graph) (known : Known) (all : List ObjectType) (node : Node)
    (o : ObjectType) : Prop :=
  ∃ own, own ⊆ all ∧ ModelOf graph known node o own

variable {all : List ObjectType}

mutual

/-- By induction on the derivation: the models made inside of a schema are those of the schemas
that `madeIn` lists, in its order. -/
theorem TypeOf.models : ∀ {node t own}, TypeOf graph known node t own → own ⊆ all →
    List.Forall₂ (ModelWithin graph known all) (madeIn node) own
  | _, _, _, .reference _, _ | _, _, _, .primitive, _ | _, _, _, .enum _, _ | _, _, _, .list, _
  | _, _, _, .wrapper _, _ => by
    rw [madeIn]
    exact .nil
  | _, _, _, .array h, within => by
    rw [madeIn]
    exact h.models within
  | _, _, _, .dictionary plain, _ => by
    rw [madeIn_dictionary plain]
    exact .nil
  | _, _, _, .mapping h, within => by
    rw [madeIn_mapping]
    exact h.models within
  | _, _, _, .object proper h, within => by
    have inner := (List.append_subset.mp within).1
    rw [madeIn_object proper]
    exact List.rel_append (h.models inner) (.cons ⟨_, inner, .object h⟩ .nil)
  | _, _, _, .merge proper h, within => by
    have inner := (List.append_subset.mp within).1
    rw [madeIn_merge proper]
    exact List.rel_append (h.models inner) (.cons ⟨_, inner, .merge h⟩ .nil)
  | _, _, _, .union mode h _, within => by
    rw [madeIn_union mode]
    exact h.models within

theorem FieldsOf.models : ∀ {properties fields own}, FieldsOf graph known properties fields own →
    own ⊆ all → List.Forall₂ (ModelWithin graph known all) (madeInProperties properties) own
  | _, _, _, .nil, _ => by
    rw [madeInProperties]
    exact .nil
  | _, _, _, .cons h rest, within => by
    obtain ⟨here, later⟩ := List.append_subset.mp within
    rw [madeInProperties]
    exact List.rel_append (h.models here) (rest.models later)

theorem VariantsOf.models : ∀ {members variants nullable own},
    VariantsOf graph known members variants nullable own → own ⊆ all →
      List.Forall₂ (ModelWithin graph known all) (madeInVariants members) own
  | _, _, _, _, .nil, _ => by
    rw [madeInVariants]
    exact .nil
  | _, _, _, _, .null null rest, within => by
    rw [madeInVariants, madeIn_of_isNull null]
    exact rest.models within
  | _, _, _, _, .cons _ h rest, within => by
    obtain ⟨here, later⟩ := List.append_subset.mp within
    rw [madeInVariants]
    exact List.rel_append (h.models here) (rest.models later)

theorem MergeOf.models : ∀ {merge members result own},
    MergeOf graph known merge members result own → own ⊆ all →
      List.Forall₂ (ModelWithin graph known all) (madeInMembers members) own
  | _, _, _, _, .nil, _ => by
    rw [madeInMembers]
    exact .nil
  | _, _, _, _, .reference _ _ rest, within => by
    rw [madeInMembers]
    · exact rest.models within
    all_goals nofun
  | _, _, _, _, .object h rest, within => by
    obtain ⟨here, later⟩ := List.append_subset.mp within
    rw [madeInMembers]
    exact List.rel_append (h.models here) (rest.models later)
  | _, _, _, _, .nested h rest, within => by
    obtain ⟨here, later⟩ := List.append_subset.mp within
    rw [madeInMembers]
    exact List.rel_append (h.models here) (rest.models later)

end

theorem DefinitionOf.models {name : String} {node : Node} {d : Definition} {own : List ObjectType}
    (h : DefinitionOf graph known name node d own) (within : own ⊆ all) :
    List.Forall₂ (ModelWithin graph known all) (madeInside node) own := by
  cases h with
  | object model h =>
    rw [madeInside, if_pos model]
    exact h.models within
  | merge h =>
    rw [madeInside]
    exact h.models within
  | union mode _ h _ =>
    rw [madeInside_union mode, madeIn_union mode]
    exact h.models within
  | enum =>
    rw [madeInside, madeIn]
    · exact .nil
    all_goals intros; contradiction
  | other other _ h =>
    rw [madeInside_of_not_isModel other]
    exact h.models within

/-! ## Resolutions -/

section

variable {definitions : List (String × Definition)} {entries : List Entry}
  {hoisted : List ObjectType}

/-- A resolution knows each of its entries. -/
theorem Resolution.knownIn_eq (r : Resolution graph definitions entries hoisted)
    (distinct : (graph.definitions.map Prod.fst).Nodup) {e : Entry} (mem : e ∈ entries) :
    knownIn definitions e.name = some e.meaning :=
  (lookup_eq_some_iff_mem (r.nodup distinct)).mpr (r.pair_mem mem)

/-- The meaning of a named schema is derived from the definitions that come out. -/
theorem Resolution.definitionOf (r : Resolution graph definitions entries hoisted)
    (distinct : (graph.definitions.map Prod.fst).Nodup) {e : Entry} (mem : e ∈ entries) :
    ∃ node, graph.get? e.name = some node ∧
      DefinitionOf graph (knownIn definitions) e.name node e.meaning e.own := by
  obtain ⟨node, known, found, meaning, others⟩ := r.derived.exists_definition mem
  refine ⟨node, found, meaning.mono fun name d known => ?_⟩
  obtain ⟨f, there, rfl, rfl⟩ := others name d known
  exact r.knownIn_eq distinct there

/-- An object is the model of a schema by what some definitions say, and all models made inside of
it are among them. -/
def Models (graph : Graph) (definitions : List (String × Definition)) (node : Node)
    (o : ObjectType) : Prop :=
  ∃ own, ModelOf graph (knownIn definitions) node o own ∧ ∀ o ∈ own, o.pair ∈ definitions

/-- A definition is that of a schema: a named one means what it is defined to be, and an object
without a name is the model of a schema inside of a named one. -/
inductive Defines (graph : Graph) (definitions : List (String × Definition)) (node : Node)
    (p : String × Definition) : Prop
  | named {own} : DefinitionOf graph (knownIn definitions) p.1 node p.2 own →
      (∀ o ∈ own, o.pair ∈ definitions) → Defines graph definitions node p
  | made {o} : p = ObjectType.pair o → Models graph definitions node o →
      Defines graph definitions node p

/-- Each entry is defined by its schema, and the objects made inside are the models of the schemas
inside. -/
theorem Resolution.defines (r : Resolution graph definitions entries hoisted)
    (distinct : (graph.definitions.map Prod.fst).Nodup) {e : Entry} (mem : e ∈ entries) :
    ∃ node, graph.get? e.name = some node ∧ Defines graph definitions node e.pair ∧
      List.Forall₂ (Models graph definitions) (madeInside node) e.own := by
  obtain ⟨node, found, meaning⟩ := r.definitionOf distinct mem
  have inside : ∀ o ∈ e.own, o.pair ∈ definitions := fun o own => r.own_mem mem own
  refine ⟨node, found, .named meaning inside, ?_⟩
  refine (meaning.models (List.Subset.refl _)).imp fun node o model => ?_
  obtain ⟨own, within, model⟩ := model
  exact ⟨own, model, fun o there => inside o (within there)⟩

/-- Every definition of a resolution stands beside its schema. -/
theorem Resolution.exists_defines (r : Resolution graph definitions entries hoisted)
    (distinct : (graph.definitions.map Prod.fst).Nodup) :
    ∃ origins, Origins graph definitions origins ∧
      List.Forall₂ (fun origin p => origin.1 = p.1 ∧ Defines graph definitions origin.2 p)
        origins definitions := by
  refine r.exists_origins_all distinct fun e mem => ?_
  obtain ⟨node, found, defines, made⟩ := r.defines distinct mem
  exact ⟨node, found, defines, made.imp fun node o models => .made rfl models⟩

end

end WireModel.Types
