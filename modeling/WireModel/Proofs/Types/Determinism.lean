import WireModel.Proofs.Types.Completions
import WireModel.Proofs.Types.Derivation
import WireModel.Proofs.Types.Families

/-!
# Derivations differ in names only

Two derivations for the same schemas make as many models at the same places, and if these have
corresponding names, all types correspond: by induction on the first derivation, as the second one
has to use the same rules.

Only the discriminators do not correspond in general. The schema of a union declares some entries,
whatever names they lead to, and the others are for variants that none of these leads to. The
relation on discriminators is left open: it has to hold of two that complete the same entries, each
by names of its own (`Agreement`). If the schemas are declared in different orders, that is
`Completions`.
-/

namespace WireModel.Types

open Schema

/-- A relation on discriminators for two graphs with the same schemas: it holds of discriminators
that complete the same entries by corresponding names, and of those of a family. -/
structure Agreement (graph other : Graph) (R : String → String → Prop) (D : DiscriminatorRel) :
    Prop where
  reorders : Reorders graph other
  declared : ∀ name, graph.contains name = true → R name name
  absent : D none none
  completed : ∀ property entries {names others}, List.Forall₂ R names others →
    D (some ⟨property, completed entries names⟩) (some ⟨property, completed entries others⟩)
  family : ∀ name, graph.contains name = true →
    D (familyDiscriminator graph name) (familyDiscriminator other name)

/-- The same schemas in two graphs, with corresponding meanings as far as both are known. -/
structure Related (graph other : Graph) (known known' : Known) (R : String → String → Prop)
    (D : DiscriminatorRel) : Prop extends Agreement graph other R D where
  meaning : ∀ name d e, known name = some d → known' name = some e → d.Matches R D e

/-- As many models on both sides; and if these have corresponding names, they correspond and
something more holds. -/
def Determined (R : String → String → Prop) (D : DiscriminatorRel) (own others : List ObjectType)
    (P : Prop) : Prop :=
  own.length = others.length ∧
    (List.Forall₂ (fun o p => R o.name p.name) own others →
      P ∧ List.Forall₂ (ObjectType.Matches R D) own others)

namespace Determined

variable {R : String → String → Prop} {D : DiscriminatorRel}
  {own others own' others' : List ObjectType} {P Q : Prop}

theorem nil (h : P) : Determined R D [] [] P := ⟨rfl, fun _ => ⟨h, .nil⟩⟩

theorem imp (h : Determined R D own others P) (imp : P → Q) : Determined R D own others Q :=
  ⟨h.1, fun names => (h.2 names).imp_left imp⟩

theorem append (h : Determined R D own others P) (h' : Determined R D own' others' Q) :
    Determined R D (own ++ own') (others ++ others') (P ∧ Q) := by
  obtain ⟨same, h⟩ := h
  obtain ⟨same', h'⟩ := h'
  refine ⟨by rw [List.length_append, List.length_append, same, same'], fun names => ?_⟩
  obtain ⟨front, back⟩ := (forall₂_append_iff same).mp names
  obtain ⟨p, all⟩ := h front
  obtain ⟨q, all'⟩ := h' back
  exact ⟨⟨p, q⟩, List.rel_append all all'⟩

/-- One more model on each side. -/
theorem concat (h : Determined R D own others P) {o p : ObjectType}
    (imp : P → R o.name p.name → o.Matches R D p) :
    Determined R D (own ++ [o]) (others ++ [p]) (R o.name p.name) := by
  obtain ⟨same, h⟩ := h
  refine ⟨by rw [List.length_append, List.length_append, same]; rfl, fun names => ?_⟩
  obtain ⟨front, back⟩ := (forall₂_append_iff same).mp names
  have name := (List.forall₂_cons.mp back).1
  obtain ⟨p, all⟩ := h front
  exact ⟨name, List.rel_append all (.cons (imp p name) .nil)⟩

end Determined

/-! ## Discriminators -/

theorem family_completions {graph other : Graph} {R : String → String → Prop}
    (h : Reorders graph other) (declared : ∀ name, graph.contains name = true → R name name)
    {name : String} (there : graph.contains name = true) :
    Completions R (familyDiscriminator graph name) (familyDiscriminator other name) := by
  have family : (name :: descendantsOf other name).Perm (name :: descendantsOf graph name) :=
    (h.descendantsOf_perm name).cons _
  have fixed : List.Forall₂ R (name :: descendantsOf graph name)
      (name :: descendantsOf graph name) := by
    refine List.forall₂_same.mpr fun n mem => declared n ?_
    rcases List.mem_cons.mp mem with rfl | mem
    · exact there
    · exact contains_iff.mpr (mem_names_of_mem_descendantsOf h.distinct mem)
  unfold familyDiscriminator
  rw [h.declaredOf_eq, h.ancestorsOf_eq]
  dsimp only
  cases declaredOf graph name with
  | some own => exact .present fixed (completed_perm family)
  | none =>
    rw [(h.descendantsOf_perm name).isEmpty_eq]
    dsimp only
    split
    · exact .absent
    · cases (ancestorsOf graph name).findSome? (declaredOf graph) with
      | none => exact .absent
      | some source =>
        have within : ∀ t, (name :: descendantsOf other name).contains t =
            (name :: descendantsOf graph name).contains t := fun t => by
          rw [Bool.eq_iff_iff, List.contains_iff_mem, List.contains_iff_mem, family.mem_iff]
        simp only [Option.map_some, within]
        exact .present fixed (completed_perm family)

theorem Completions.agreement {graph other : Graph} {R : String → String → Prop}
    (h : Reorders graph other) (declared : ∀ name, graph.contains name = true → R name name) :
    Agreement graph other R (Completions R) where
  reorders := h
  declared := declared
  absent := .absent
  completed _ _ _ _ all := .present all (.refl _)
  family _ there := family_completions h declared there

/-! ## Schemas -/

section

variable {graph other : Graph} {known known' : Known} {R : String → String → Prop}
  {D : DiscriminatorRel}

/-- What a reference to something that is no model stands for. -/
def Definition.standIn : Definition → WireType
  | .type t => t
  | .object o => .model o.name

theorem Definition.Matches.standIn {d e : Definition} (h : d.Matches R D e) :
    d.standIn.Matches R D e.standIn := by
  cases h with
  | object h => exact .model h.name
  | type h => exact h

theorem Refers.exists_node {nullable : Bool} {target : String} {t : WireType}
    (h : Refers graph known nullable target t) : ∃ node, graph.get? target = some node ∧
      if isModel node = true then
        t = (WireType.orNullIf (declaresNull node) (.model target)).orNullIf nullable
      else ∃ d, known target = some d ∧ t = d.standIn.orNullIf nullable := by
  cases h with
  | model found model => exact ⟨_, found, by rw [if_pos model]⟩
  | named found other meaning =>
    exact ⟨_, found, by rw [other, if_neg Bool.false_ne_true]; exact ⟨_, meaning, rfl⟩⟩
  | object found other meaning =>
    exact ⟨_, found, by rw [other, if_neg Bool.false_ne_true]; exact ⟨_, meaning, rfl⟩⟩

theorem Refers.determined (rel : Related graph other known known' R D) {nullable : Bool}
    {target : String} {t u : WireType} (h : Refers graph known nullable target t)
    (h' : Refers other known' nullable target u) : t.Matches R D u := by
  obtain ⟨node, found, h⟩ := h.exists_node
  obtain ⟨node', found', h'⟩ := h'.exists_node
  rw [rel.reorders.get?_eq, found] at found'
  cases found'
  split at h
  · rename_i model
    rw [if_pos model] at h'
    rw [h, h']
    have declared := rel.declared target (contains_of_get? found)
    exact ((WireType.Matches.model declared).orNullIf _).orNullIf _
  · rename_i other
    rw [if_neg other] at h'
    obtain ⟨d, meaning, rfl⟩ := h
    obtain ⟨e, meaning', rfl⟩ := h'
    exact (rel.meaning _ _ _ meaning meaning').standIn.orNullIf _

theorem UnionOf.determined (agreement : Agreement graph other R D) {mode : Combination}
    {name : Option String}
    {discriminator : Option Discriminator} {variants others : List WireType} {t u : WireType}
    (h : UnionOf mode name discriminator variants t)
    (h' : UnionOf mode name discriminator others u)
    (all : List.Forall₂ (WireType.Matches R D) variants others) :
    t.Matches R D u := by
  have same := all.length_eq
  cases h with
  | single =>
    cases h' with
    | single => exact (List.forall₂_cons.mp all).1
    | untagged many =>
      rw [← same] at many
      exact absurd many (Nat.lt_irrefl 1)
    | tagged many =>
      rw [List.length_map] at same
      rw [← same] at many
      exact absurd many (Nat.lt_irrefl 1)
  | untagged many =>
    cases h' with
    | single =>
      rw [same] at many
      exact absurd many (Nat.lt_irrefl 1)
    | untagged _ => exact .of_forall₂ agreement.absent all
  | tagged many =>
    cases h' with
    | single =>
      rw [List.length_map] at same
      rw [same] at many
      exact absurd many (Nat.lt_irrefl 1)
    | tagged _ =>
      refine .of_forall₂ (agreement.completed _ _ ?_) all
      refine (List.forall₂_map_left_iff.mp (List.forall₂_map_right_iff.mp all)).imp ?_
      rintro a b ⟨⟩
      assumption

mutual

theorem TypeOf.determined (rel : Related graph other known known' R D) {node : Node}
    {t u : WireType} {own others : List ObjectType} :
    TypeOf graph known node t own → TypeOf other known' node u others →
      Determined R D own others (t.Matches R D u)
  | .reference h, h' => by
    cases h' with
    | reference h' => exact .nil (h.determined rel h')
  | .primitive, h' => by
    cases h' with
    | primitive => exact .nil (WireType.Matches.primitive.orNullIf _)
  | .enum _, h' => by
    cases h' with
    | enum _ => exact .nil (WireType.Matches.enum.orNullIf _)
  | .list, h' => by
    cases h' with
    | list => exact .nil ((WireType.Matches.sequence .primitive).orNullIf _)
  | .array h, h' => by
    cases h' with
    | array h' => exact (h.determined rel h').imp fun same => same.sequence.orNullIf _
  | .dictionary plain, h' => by
    cases h' with
    | dictionary _ => exact .nil ((WireType.Matches.mapping .primitive).orNullIf _)
    | mapping _ => exact absurd rfl (plain _)
    | object proper _ => simp at proper
  | .mapping h, h' => by
    cases h' with
    | dictionary plain => exact absurd rfl (plain _)
    | mapping h' => exact (h.determined rel h').imp fun same => same.mapping.orNullIf _
    | object proper _ => simp at proper
  | .object proper h, h' => by
    cases h' with
    | dictionary _ => simp at proper
    | mapping _ => simp at proper
    | object _ h' =>
      refine ((h.determined rel h').concat fun same name => ?_).imp fun name =>
        (WireType.Matches.model name).orNullIf _
      exact ⟨name, same, rfl, rel.absent, rfl⟩
  | .wrapper h, h' => by
    cases h' with
    | wrapper h' => exact .nil ((h.determined rel h').orNullIf _)
    | merge proper _ => exact absurd rfl (proper _ _ _)
    | union merged _ _ => exact absurd rfl merged
  | .merge proper h, h' => by
    cases h' with
    | wrapper _ => exact absurd rfl (proper _ _ _)
    | merge _ h' =>
      refine ((h.determined rel h').concat fun same name => ?_).imp fun name =>
        (WireType.Matches.model name).orNullIf _
      exact (same ⟨.nil, rfl, rfl, rfl⟩).toObject name rel.absent
    | union merged _ _ => exact absurd rfl merged
  | .union merged h union, h' => by
    cases h' with
    | wrapper _ => exact absurd rfl merged
    | merge _ _ => exact absurd rfl merged
    | union _ h' union' =>
      refine (h.determined rel h').imp fun ⟨same, nullable⟩ => ?_
      rw [nullable]
      exact (union.determined rel.toAgreement union' same).orNullIf _

theorem FieldsOf.determined (rel : Related graph other known known' R D)
    {properties : List Property} {fields fields' : List Field} {own others : List ObjectType} :
    FieldsOf graph known properties fields own → FieldsOf other known' properties fields' others →
      Determined R D own others (List.Forall₂ (Field.Matches R D) fields fields')
  | .nil, h' => by
    cases h' with
    | nil => exact .nil .nil
  | .cons h rest, h' => by
    cases h' with
    | cons h' rest' =>
      refine ((h.determined rel h').append (rest.determined rel rest')).imp fun ⟨first, rest⟩ => ?_
      exact .cons (fieldOf_matches first) rest

theorem VariantsOf.determined (rel : Related graph other known known' R D)
    {members : List Node} {variants variants' : List WireType} {nullable nullable' : Bool}
    {own others : List ObjectType} :
    VariantsOf graph known members variants nullable own →
      VariantsOf other known' members variants' nullable' others →
      Determined R D own others
        (List.Forall₂ (WireType.Matches R D) variants variants' ∧
          nullable' = nullable)
  | .nil, h' => by
    cases h' with
    | nil => exact .nil ⟨.nil, rfl⟩
  | .null null rest, h' => by
    cases h' with
    | null _ rest' => exact (rest.determined rel rest').imp fun ⟨same, _⟩ => ⟨same, rfl⟩
    | cons proper _ _ =>
      rw [null] at proper
      cases proper
  | .cons proper h rest, h' => by
    cases h' with
    | null null _ =>
      rw [null] at proper
      cases proper
    | cons _ h' rest' =>
      refine ((h.determined rel h').append (rest.determined rel rest')).imp fun ⟨first, rest⟩ => ?_
      exact ⟨.cons first.strip rest.1, by rw [first.isNullable_eq, rest.2]⟩

theorem MergeOf.determined (rel : Related graph other known known' R D) {merge merge' : Merge}
    {members : List Node} {result result' : Merge} {own others : List ObjectType} :
    MergeOf graph known merge members result own →
      MergeOf other known' merge' members result' others →
      Determined R D own others
        (merge.Matches R D merge' → result.Matches R D result')
  | .nil, h' => by
    cases h' with
    | nil => exact .nil fun same => same
  | .reference _ found rest, h' => by
    cases h' with
    | reference _ found' rest' =>
      refine (rest.determined rel rest').imp fun next same => next ?_
      cases rel.meaning _ _ _ found found' with
      | object parent =>
        have added := same.add parent.fields parent.description
        exact ⟨added.fields, by rw [same.parents], added.required, added.description⟩
  | @MergeOf.object _ _ _ notes _ _ _ _ _ _ _ _ _ h rest, h' => by
    cases h' with
    | object h' rest' =>
      refine ((h.determined rel h').append (rest.determined rel rest')).imp
        fun ⟨fields, next⟩ same => next ?_
      have added := same.add (o := ⟨"", _, [], none, notes.description⟩)
        (p := ⟨"", _, [], none, notes.description⟩) fields rfl
      exact ⟨added.fields, added.parents, by rw [same.required], added.description⟩
  | .nested h rest, h' => by
    cases h' with
    | nested h' rest' =>
      refine ((h.determined rel h').append (rest.determined rel rest')).imp
        fun ⟨inner, next⟩ same => next ?_
      have nested := inner ⟨.nil, rfl, rfl, rfl⟩
      exact same.add nested.toObject_fields nested.description

end

theorem DefinitionOf.determined (rel : Related graph other known known' R D) {name : String}
    {node : Node} (there : graph.contains name = true) {d e : Definition}
    {own others : List ObjectType} (h : DefinitionOf graph known name node d own)
    (h' : DefinitionOf other known' name node e others) :
    Determined R D own others (d.Matches R D e) := by
  have family := rel.family name there
  have here := rel.declared name there
  cases h with
  | object model h =>
    cases h' with
    | object _ h' =>
      exact (h.determined rel h').imp fun same => .object ⟨here, same, rfl, family, rfl⟩
    | other unnamed _ _ =>
      rw [model] at unnamed
      cases unnamed
  | merge h =>
    cases h' with
    | merge h' =>
      exact (h.determined rel h').imp fun same =>
        .object ((same ⟨.nil, rfl, rfl, rfl⟩).toObject here family)
    | union merged _ _ _ => exact absurd rfl merged
    | other unnamed _ _ => cases unnamed
  | union merged model h union =>
    cases h' with
    | merge _ => exact absurd rfl merged
    | union _ _ h' union' =>
      exact (h.determined rel h').imp fun same => .type (union.determined rel.toAgreement union' same.1)
    | other unnamed _ _ =>
      rw [model] at unnamed
      cases unnamed
  | enum _ =>
    cases h' with
    | enum _ => exact .nil (.type (WireType.Matches.enum.orNullIf _))
    | other _ enum _ => exact absurd rfl (enum _ _ _)
  | other unnamed enum h =>
    cases h' with
    | object model _ =>
      rw [model] at unnamed
      cases unnamed
    | merge _ => cases unnamed
    | union _ model _ _ =>
      rw [model] at unnamed
      cases unnamed
    | enum _ => exact absurd rfl (enum _ _ _)
    | other _ _ h' => exact (h.determined rel h').imp fun same => .type same

end

end WireModel.Types
