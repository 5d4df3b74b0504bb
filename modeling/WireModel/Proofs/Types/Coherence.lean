import WireModel.Proofs.Types.Extraction
import WireModel.Proofs.Types.Needs

/-!
# Families are complete and agree

A schema extends those that its `allOf` mentions. The discriminators that a resolution gives to the
members of a family are compared here with each other and with what the schemas say.

* **`Descends`**: one schema extends another, directly or through others.
* **`mem_family_iff`**, **`mem_ancestorsOf_iff`**: the two searches find exactly the descendants and
  the ancestors of a schema.
* **`mem_completed_filter_iff`**: entries can be restricted to a smaller family before or after they
  are completed.
* **`coherent_of_resolve`**: a schema with a discriminator of its own leads to its whole family, and
  the others have what such an ancestor says of their part of it, or nothing.
-/

namespace WireModel.Types

open Schema

/-! ## Extending -/

/-- A named schema is an `allOf` with a reference to another among its members. -/
def Inherits (graph : Graph) (child parent : String) : Prop :=
  ∃ notes members discriminator inner pointer,
    graph.get? child = some (.composite notes .allOf members discriminator) ∧
      .reference inner pointer parent ∈ members ∧ graph.contains parent = true

/-- A named schema extends another, directly or through others. -/
def Descends (graph : Graph) : String → String → Prop :=
  Relation.TransGen (Inherits graph)

/-- A schema that is an object or an `allOf`. -/
def isObject : Node → Bool
  | .object .. => true
  | .composite _ .allOf _ _ => true
  | _ => false

/-- The discriminator of a definition: that of an object, or of a union which has a name. A union
without one belongs to a schema inside of what is defined. -/
def Definition.discriminator : Definition → Option Discriminator
  | .object o => o.discriminator
  | .type t =>
    match t.strip with
    | .union (some _) _ discriminator _ => discriminator
    | _ => none

/-- A union that has a name, whatever wrappers are around it. -/
def WireType.IsNamedUnion (t : WireType) : Prop :=
  ∃ name mode discriminator variants, t.strip = .union (some name) mode discriminator variants

section

variable {graph : Graph}

theorem mem_parentsIn_iff {node : Node} {parent : String} :
    parent ∈ parentsIn graph node ↔ ∃ notes members discriminator inner pointer,
      node = .composite notes .allOf members discriminator ∧
        .reference inner pointer parent ∈ members ∧ graph.contains parent = true := by
  constructor
  · intro mem
    have there := contains_of_mem_parentsIn mem
    unfold parentsIn at mem
    split at mem
    · obtain ⟨member, mem, found⟩ := List.mem_filterMap.mp mem
      split at found
      · obtain ⟨-, same⟩ := Option.ite_none_right_eq_some.mp found
        cases same
        exact ⟨_, _, _, _, _, rfl, mem, there⟩
      · cases found
    · cases mem
  · rintro ⟨notes, members, discriminator, inner, pointer, rfl, mem, there⟩
    exact List.mem_filterMap.mpr ⟨_, mem, if_pos there⟩

theorem inherits_iff {child parent : String} :
    Inherits graph child parent ↔ parent ∈ parentsOf graph child := by
  constructor
  · rintro ⟨notes, members, discriminator, inner, pointer, found, mem, there⟩
    rw [parentsOf, found]
    exact mem_parentsIn_iff.mpr ⟨_, _, _, _, _, rfl, mem, there⟩
  · intro mem
    unfold parentsOf at mem
    split at mem
    · rename_i node found
      obtain ⟨_, _, _, _, _, rfl, mem, there⟩ := mem_parentsIn_iff.mp mem
      exact ⟨_, _, _, _, _, found, mem, there⟩
    · cases mem

theorem reaches_children_iff (distinct : (graph.definitions.map Prod.fst).Nodup) {a n : String} :
    Reaches (childrenOf graph) a n ↔ n = a ∨ Descends graph n a := by
  constructor
  · intro reaches
    induction reaches with
    | refl => exact .inl rfl
    | tail _ step ih =>
      have inherits := inherits_iff.mpr ((mem_childrenOf_iff distinct).mp step)
      rcases ih with rfl | further
      · exact .inr (.single inherits)
      · exact .inr (.head inherits further)
  · rintro (rfl | descends)
    · exact .refl
    · induction descends using Relation.TransGen.head_induction_on with
      | single inherits =>
        exact .single ((mem_childrenOf_iff distinct).mpr (inherits_iff.mp inherits))
      | head inherits _ ih =>
        exact .tail ih ((mem_childrenOf_iff distinct).mpr (inherits_iff.mp inherits))

/-! ## The two searches -/

/-- The family of a schema is itself and whatever descends from it. -/
theorem mem_family_iff (distinct : (graph.definitions.map Prod.fst).Nodup) {name n : String} :
    n ∈ name :: descendantsOf graph name ↔ n = name ∨ Descends graph n name := by
  rw [List.mem_cons, mem_descendantsOf distinct, reaches_children_iff distinct]
  by_cases same : n = name
  · simp [same]
  · simp [same]

/-- The ancestors of a schema are those from which it descends. -/
theorem mem_ancestorsOf_iff (distinct : (graph.definitions.map Prod.fst).Nodup)
    {name ancestor : String} : ancestor ∈ ancestorsOf graph name ↔ Descends graph name ancestor := by
  have searched := ancestors_searched distinct name
  have closed : ∀ n ∈ ancestorsOf graph name, ∀ m ∈ parentsOf graph n,
      m ∈ ancestorsOf graph name := by
    intro n mem m step
    rcases searched.closed n (List.mem_reverse.mp mem) with none | all
    · cases none
    · exact List.mem_reverse.mpr (all m step)
  constructor
  · intro mem
    rcases searched.reached ancestor (List.mem_reverse.mp mem) with none | ⟨parent, there, reaches⟩
    · cases none
    · exact .head' (inherits_iff.mpr there)
        (Relation.ReflTransGen.mono (fun _ _ step => inherits_iff.mpr step) _ _ reaches)
  · intro descends
    induction descends with
    | single inherits => exact List.mem_reverse.mpr (searched.met_queue _ (inherits_iff.mp inherits))
    | tail _ inherits ih => exact closed _ ih _ (inherits_iff.mp inherits)

end

/-! ## Entries -/

theorem mem_completed_iff {entries : List (String × String)} {names : List String}
    {entry : String × String} : entry ∈ completed entries names ↔
      entry ∈ entries ∨ entry.1 = entry.2 ∧ entry.2 ∈ names ∧ ∀ e ∈ entries, e.2 ≠ entry.2 := by
  obtain ⟨tag, target⟩ := entry
  simp only [completed, List.mem_append, List.mem_map, List.mem_filter, Bool.not_eq_true',
    List.any_eq_false, beq_iff_eq, Prod.mk.injEq]
  refine or_congr_right ⟨?_, ?_⟩
  · rintro ⟨n, ⟨mem, unmapped⟩, rfl, rfl⟩
    exact ⟨rfl, mem, unmapped⟩
  · rintro ⟨rfl, mem, unmapped⟩
    exact ⟨_, ⟨mem, unmapped⟩, rfl, rfl⟩

/-- Entries may be restricted to some of the names before they are completed, or after. -/
theorem mem_completed_filter_iff {entries : List (String × String)} {names all : List String}
    (within : ∀ n ∈ names, n ∈ all) {entry : String × String} :
    entry ∈ completed (entries.filter fun (_, t) => names.contains t) names ↔
      entry ∈ completed entries all ∧ entry.2 ∈ names := by
  rw [mem_completed_iff, mem_completed_iff]
  simp only [List.mem_filter, List.contains_iff_mem]
  constructor
  · rintro (⟨mem, target⟩ | ⟨implicit, target, unmapped⟩)
    · exact ⟨.inl mem, target⟩
    · refine ⟨.inr ⟨implicit, within _ target, fun e mem same => ?_⟩, target⟩
      -- an entry that leads to one of the names is kept
      exact unmapped e ⟨mem, same ▸ target⟩ same
  · rintro ⟨mem | ⟨implicit, -, unmapped⟩, target⟩
    · exact .inl ⟨mem, target⟩
    · exact .inr ⟨implicit, target, fun e kept => unmapped e kept.1⟩

/-! ## Discriminators of families -/

section

variable {graph : Graph}

theorem familyDiscriminator_of_declared {name : String} {own : Discriminator}
    (declared : declaredOf graph name = some own) : familyDiscriminator graph name =
      some ⟨own.property, completed own.mapping (name :: descendantsOf graph name)⟩ := by
  unfold familyDiscriminator
  rw [declared]

theorem familyDiscriminator_of_undeclared {name : String}
    (distinct : (graph.definitions.map Prod.fst).Nodup) (declared : declaredOf graph name = none)
    (alone : ∀ n, ¬Descends graph n name) : familyDiscriminator graph name = none := by
  refine familyDiscriminator_of_childless declared (List.eq_nil_iff_forall_not_mem.mpr ?_)
  intro child mem
  exact alone child (.single (inherits_iff.mpr ((mem_childrenOf_iff distinct).mp mem)))

/-- A schema in the middle of a family has the discriminator of an ancestor that declares one, but
only the entries that lead to its own part of the family. -/
theorem exists_root {name n ancestor : String}
    (distinct : (graph.definitions.map Prod.fst).Nodup) (declared : declaredOf graph name = none)
    (below : Descends graph n name) (other : n ≠ name) (above : Descends graph name ancestor)
    (leads : declaredOf graph ancestor ≠ none) :
    ∃ root d own, Descends graph name root ∧ declaredOf graph root ≠ none ∧
      familyDiscriminator graph root = some d ∧ familyDiscriminator graph name = some own ∧
      own.property = d.property ∧
      ∀ entry, entry ∈ own.mapping ↔
        entry ∈ d.mapping ∧ (entry.2 = name ∨ Descends graph entry.2 name) := by
  have led : (ancestorsOf graph name).findSome? (declaredOf graph) ≠ none := by
    intro none
    exact leads (List.findSome?_eq_none_iff.mp none ancestor ((mem_ancestorsOf_iff distinct).mpr above))
  obtain ⟨source, first⟩ := Option.ne_none_iff_exists'.mp led
  obtain ⟨root, mem, source_of⟩ := List.exists_of_findSome?_eq_some first
  have above : Descends graph name root := (mem_ancestorsOf_iff distinct).mp mem
  have inhabited : (descendantsOf graph name).isEmpty = false := by
    have mem := (mem_family_iff distinct).mpr (.inr below)
    have mem := (List.mem_cons.mp mem).resolve_left other
    exact List.isEmpty_eq_false_iff.mpr (List.ne_nil_of_mem mem)
  have whole : ∀ m ∈ name :: descendantsOf graph name, m ∈ root :: descendantsOf graph root := by
    intro m mem
    refine (mem_family_iff distinct).mpr (.inr ?_)
    rcases (mem_family_iff distinct).mp mem with rfl | descends
    · exact above
    · exact descends.trans above
  have restricted : familyDiscriminator graph name = some ⟨source.property,
      completed (source.mapping.filter fun (_, t) => (name :: descendantsOf graph name).contains t)
        (name :: descendantsOf graph name)⟩ := by
    simp only [familyDiscriminator, declared, inhabited, first]
    rfl
  refine ⟨root, _, _, above, by rw [source_of]; nofun, familyDiscriminator_of_declared source_of,
    restricted, rfl, fun entry => ?_⟩
  rw [mem_completed_filter_iff whole, mem_family_iff distinct]

end

/-! ## What is defined -/

section

variable {graph : Graph} {known : Known}

/-- The members of an `allOf` that are references stand for objects. -/
theorem MergeOf.known_object : ∀ {members : List Node} {merge result : Merge}
    {own : List ObjectType}, MergeOf graph known merge members result own →
      ∀ inner pointer target, .reference inner pointer target ∈ members →
        ∃ o, known target = some (.object o)
  | [], _, _, _, _, _, _, _, mem => nomatch mem
  | _ :: _, _, _, _, .reference _ meant rest, inner, pointer, target, mem => by
    rcases List.mem_cons.mp mem with same | mem
    · cases same
      exact ⟨_, meant⟩
    · exact rest.known_object inner pointer target mem
  | _ :: _, _, _, _, .object _ rest, inner, pointer, target, mem =>
    rest.known_object inner pointer target ((List.mem_cons.mp mem).resolve_left nofun)
  | _ :: _, _, _, _, .nested _ rest, inner, pointer, target, mem =>
    rest.known_object inner pointer target ((List.mem_cons.mp mem).resolve_left nofun)

/-- Unions with a name are known of models only. -/
def Known.NamesModels (graph : Graph) (known : Known) : Prop :=
  ∀ name node t, graph.get? name = some node → isModel node = false →
    known name = some (.type t) → ¬t.IsNamedUnion

@[simp] theorem WireType.isNamedUnion_orNullIf (allowed : Bool) (t : WireType) :
    (t.orNullIf allowed).IsNamedUnion ↔ t.IsNamedUnion := by
  unfold IsNamedUnion
  rw [strip_orNullIf]

theorem WireType.isNamedUnion_strip {t : WireType} : t.strip.IsNamedUnion ↔ t.IsNamedUnion := by
  unfold IsNamedUnion
  rw [strip_strip]

theorem Refers.unnamed (models : known.NamesModels graph) {nullable : Bool} {target : String}
    {t : WireType} (h : Refers graph known nullable target t) : ¬t.IsNamedUnion := by
  cases h with
  | model found model =>
    simp only [WireType.isNamedUnion_orNullIf]
    rintro ⟨_, _, _, _, ⟨⟩⟩
  | named found followed meant =>
    rw [WireType.isNamedUnion_orNullIf]
    exact models _ _ _ found followed meant
  | object found followed meant =>
    rw [WireType.isNamedUnion_orNullIf]
    rintro ⟨_, _, _, _, ⟨⟩⟩

mutual

/-- The type of a schema in place is no union with a name: references stand for the names of models,
and only a definition gives its name to a union. -/
theorem TypeOf.unnamed (models : known.NamesModels graph) : ∀ {node t own},
    TypeOf graph known node t own → ¬t.IsNamedUnion
  | _, _, _, .reference h => h.unnamed models
  | _, _, _, .primitive | _, _, _, .enum _ | _, _, _, .list | _, _, _, .array _
  | _, _, _, .dictionary _ | _, _, _, .mapping _ | _, _, _, .object _ _ | _, _, _, .merge _ _ => by
    rw [WireType.isNamedUnion_orNullIf]
    rintro ⟨_, _, _, _, ⟨⟩⟩
  | _, _, _, .wrapper h => by
    rw [WireType.isNamedUnion_orNullIf]
    exact h.unnamed models
  | _, _, _, .union _ h union => by
    rw [WireType.isNamedUnion_orNullIf]
    cases union with
    | single => exact h.unnamed models _ List.mem_cons_self
    | untagged => rintro ⟨_, _, _, _, ⟨⟩⟩
    | tagged => rintro ⟨_, _, _, _, ⟨⟩⟩

theorem VariantsOf.unnamed (models : known.NamesModels graph) : ∀ {members variants nullable own},
    VariantsOf graph known members variants nullable own → ∀ t ∈ variants, ¬t.IsNamedUnion
  | _, _, _, _, .nil => nofun
  | _, _, _, _, .null _ rest => rest.unnamed models
  | _, _, _, _, .cons _ h rest => by
    refine List.forall_mem_cons.mpr ⟨?_, rest.unnamed models⟩
    rw [WireType.isNamedUnion_strip]
    exact h.unnamed models

end

/-- An object or `allOf` that has a discriminator of its own, or is inherits, is a model. -/
theorem DefinitionOf.object_of_isObject {name : String} {node : Node} {d : Definition}
    {own : List ObjectType} (h : DefinitionOf graph known name node d own)
    (object : isObject node = true) (model : isModel node = true) :
    ∃ o, d = .object o ∧ o.discriminator = familyDiscriminator graph name := by
  cases h with
  | object => exact ⟨_, rfl, rfl⟩
  | merge => exact ⟨_, rfl, rfl⟩
  | @union _ mode _ _ _ _ _ _ union =>
    cases mode with
    | allOf => exact absurd rfl union
    | _ => cases object
  | enum => cases object
  | other other =>
    rw [model] at other
    cases other

/-- Only objects and `allOf`s that are models are defined to be objects. -/
theorem DefinitionOf.isObject_of_object {name : String} {node : Node} {o : ObjectType}
    {own : List ObjectType} (h : DefinitionOf graph known name node (.object o) own) :
    isObject node = true ∧ isModel node = true := by
  cases h with
  | object model => exact ⟨rfl, model⟩
  | merge => exact ⟨rfl, rfl⟩

/-- A schema that is not an object and declares no discriminator has none. -/
theorem DefinitionOf.discriminator_eq_none (models : known.NamesModels graph) {name : String}
    {node : Node} {d : Definition} {own : List ObjectType}
    (h : DefinitionOf graph known name node d own) (declared : declaredIn node = none)
    (family : familyDiscriminator graph name = none) : d.discriminator = none := by
  cases h with
  | object => exact family
  | merge => exact family
  | @union notes mode members discriminator variants nullable t _ union model h variant =>
    cases variant with
    | single => exact absurd (h.several union model) (Nat.lt_irrefl 1)
    | untagged => rfl
    | tagged =>
      cases mode with
      | allOf => exact absurd rfl union
      | _ => cases declared
  | enum => rw [Definition.discriminator, WireType.strip_orNullIf]; rfl
  | other _ _ h =>
    have unnamed := h.unnamed models
    simp only [Definition.discriminator]
    split
    · rename_i named
      exact absurd ⟨_, _, _, _, named⟩ unnamed
    · rfl

end

section

variable {graph : Graph} {active : List String} {entries : List Entry}

/-- Nothing that is derived is an followed of a union by its name. -/
theorem Derived.namesModels (h : Derived graph active [] entries) :
    (knownIn (entries.map Entry.pair)).NamesModels graph := by
  induction h with
  | nil => nofun
  | @cons e node entries _ _ _ found meaning ih =>
    rw [List.append_nil] at meaning
    intro name node' t found' followed meant
    rw [List.map_cons, Entry.pair, knownIn_cons] at meant
    split at meant
    · rename_i same
      subst same
      obtain rfl := Option.some.inj (found.symm.trans found')
      have means := Option.some.inj meant
      rw [means] at meaning
      generalize e.own = own at meaning
      cases meaning with
      | union _ model =>
        rw [model] at followed
        cases followed
      | enum =>
        rw [WireType.isNamedUnion_orNullIf]
        rintro ⟨_, _, _, _, ⟨⟩⟩
      | other _ _ type => exact type.unnamed ih
    · exact ih name node' t found' followed meant

end

/-! ## Resolutions -/

/-- What the discriminators of definitions have to say of a named schema and its family. -/
structure Coherent (graph : Graph) (definitions : List (String × Definition)) (name : String)
    (node : Node) : Prop where
  /-- An object with a discriminator of its own leads to itself and to all that descend from it. -/
  complete : isObject node = true → ∀ own, declaredIn node = some own →
    ∃ o d, definitions.lookup name = some (.object o) ∧ o.discriminator = some d ∧
      d.property = own.property ∧
      ∀ n, n = name ∨ Descends graph n name → ∃ entry ∈ d.mapping, entry.2 = n
  /-- An object without one that is extended has that of an ancestor, restricted to its part of the
  family. -/
  inherited : isObject node = true → declaredIn node = none → (∃ n, Descends graph n name) →
    (∃ ancestor, Descends graph name ancestor ∧ declaredOf graph ancestor ≠ none) →
    ∃ root o p d own, Descends graph name root ∧ declaredOf graph root ≠ none ∧
      definitions.lookup root = some (.object o) ∧ o.discriminator = some d ∧
      definitions.lookup name = some (.object p) ∧ p.discriminator = some own ∧
      own.property = d.property ∧
      ∀ entry, entry ∈ own.mapping ↔
        entry ∈ d.mapping ∧ (entry.2 = name ∨ Descends graph entry.2 name)
  /-- A schema without one that nothing extends has none. -/
  alone : declaredIn node = none → (∀ n, ¬Descends graph n name) →
    ∃ definition, definitions.lookup name = some definition ∧ definition.discriminator = none

section

variable {graph : Graph} {definitions : List (String × Definition)} {entries : List Entry}
  {hoisted : List ObjectType}

/-- A named schema is defined by one derivation, from what other names are defined to be. -/
theorem Resolution.exists_definitionOf (r : Resolution graph definitions entries hoisted)
    (distinct : (graph.definitions.map Prod.fst).Nodup) {name : String} {node : Node}
    (found : graph.get? name = some node) :
    ∃ known d own, DefinitionOf graph known name node d own ∧ known.NamesModels graph ∧
      definitions.lookup name = some d ∧
      ∀ n d', known n = some d' → definitions.lookup n = some d' := by
  obtain ⟨e, mem, rfl⟩ := r.exists_entry (contains_iff.mp (contains_of_get? found))
  obtain ⟨node', known, found', meaning, others⟩ := r.derived.exists_definition mem
  obtain rfl := Option.some.inj (found.symm.trans found')
  have unique : ((entries.map Entry.pair).map Prod.fst).Nodup := by
    rw [List.map_map]
    exact r.derived.names_nodup
  have meant : ∀ f ∈ entries, definitions.lookup f.name = some f.meaning := fun f there =>
    (lookup_eq_some_iff_mem (r.nodup distinct)).mpr (r.pair_mem there)
  refine ⟨known, e.meaning, e.own, meaning, ?_, meant e mem, ?_⟩
  · intro name node t found followed known
    obtain ⟨f, there, rfl, same⟩ := others name _ known
    refine r.derived.namesModels f.name node t found followed ?_
    rw [← same]
    exact (lookup_eq_some_iff_mem unique).mpr (List.mem_map.mpr ⟨f, there, rfl⟩)
  · intro n d' known
    obtain ⟨f, there, rfl, rfl⟩ := others n d' known
    exact meant f there

/-- A model that is an object or an `allOf` has the discriminator of its family. -/
theorem Resolution.lookup_object (r : Resolution graph definitions entries hoisted)
    (distinct : (graph.definitions.map Prod.fst).Nodup) {name : String} {node : Node}
    (found : graph.get? name = some node) (object : isObject node = true)
    (model : isModel node = true) : ∃ o, definitions.lookup name = some (.object o) ∧
      o.discriminator = familyDiscriminator graph name := by
  obtain ⟨known, d, own, meaning, -, defined, -⟩ := r.exists_definitionOf distinct found
  obtain ⟨o, rfl, family⟩ := meaning.object_of_isObject object model
  exact ⟨o, defined, family⟩

/-- Whoever is extended is an object, and one with the discriminator of its family. -/
theorem Resolution.lookup_parent (r : Resolution graph definitions entries hoisted)
    (distinct : (graph.definitions.map Prod.fst).Nodup) {child parent : String}
    (inherits : Inherits graph child parent) :
    ∃ o, definitions.lookup parent = some (.object o) ∧
      o.discriminator = familyDiscriminator graph parent := by
  obtain ⟨notes, members, discriminator, inner, pointer, found, mem, there⟩ := inherits
  obtain ⟨known, d, own, meaning, -, -, others⟩ := r.exists_definitionOf distinct found
  obtain ⟨o, object⟩ : ∃ o, known parent = some (.object o) := by
    cases meaning with
    | merge h => exact h.known_object inner pointer parent mem
    | union union => exact absurd rfl union
    | other other => cases other
  have defined := others parent _ object
  obtain ⟨node, parentNode⟩ : ∃ node, graph.get? parent = some node :=
    Option.isSome_iff_exists.mp there
  obtain ⟨known', d', own', meaning', -, defined', -⟩ := r.exists_definitionOf distinct parentNode
  obtain rfl := Option.some.inj (defined.symm.trans defined')
  obtain ⟨isObject, model⟩ := meaning'.isObject_of_object
  exact r.lookup_object distinct parentNode isObject model

end

/-! ## No schema descends from itself -/

section

variable {graph : Graph}

theorem mem_linksInMembers {way : Way} {inner : Notes} {pointer target : String} :
    ∀ {members : List Node}, .reference inner pointer target ∈ members →
      (way, target) ∈ linksInMembers way members
  | node :: rest, mem => by
    rcases List.mem_cons.mp mem with rfl | mem
    · rw [linksInMembers]
      exact List.mem_cons_self
    · have later : (way, target) ∈ linksInMembers way rest := mem_linksInMembers mem
      cases node with
      | reference =>
        rw [linksInMembers]
        exact List.mem_cons_of_mem _ later
      | object =>
        rw [linksInMembers]
        exact List.mem_append_right _ later
      | composite notes mode =>
        cases mode with
        | allOf =>
          rw [linksInMembers]
          exact List.mem_append_right _ later
        | _ =>
          rw [linksInMembers]
          · exact later
          all_goals simp
      | _ =>
        rw [linksInMembers]
        · exact later
        all_goals simp

theorem Inherits.needs {child parent : String} (h : Inherits graph child parent) :
    Needs graph child .merge parent := by
  obtain ⟨notes, members, discriminator, inner, pointer, found, mem, -⟩ := h
  refine ⟨_, found, ?_, .inl rfl⟩
  rw [linksInside]
  exact mem_linksInMembers mem

theorem Descends.leads {a b : String} (h : Descends graph a b) :
    ∃ ways, ways ≠ [] ∧ Leads graph a ways b := by
  induction h with
  | single inherits => exact ⟨[.merge], nofun, .step inherits.needs .stay⟩
  | tail _ inherits ih =>
    obtain ⟨ways, some, leads⟩ := ih
    exact ⟨ways ++ [.merge], by simp, leads.then inherits.needs⟩

/-- In schemas that resolve none descends from itself. -/
theorem not_descends_self {definitions : List (String × Definition)}
    (h : (resolve graph).outcome.1 = .ok definitions) (name : String) :
    ¬Descends graph name name := by
  intro descends
  obtain ⟨ways, some, leads⟩ := descends.leads
  exact not_cycle_of_resolve h name ways ⟨some, leads⟩

theorem isModel_of_declaredIn {node : Node} {own : Discriminator} (object : isObject node = true)
    (declared : declaredIn node = some own) : isModel node = true := by
  cases node with
  | object notes properties required additional discriminator =>
    have some : discriminator = some own := declared
    simp [isModel, some]
  | composite notes mode =>
    cases mode with
    | allOf => rfl
    | _ => cases object
  | _ => cases object

/-- **Families are complete and agree.** In schemas that resolve, a named object with a discriminator
of its own has entries for itself and all its descendants; one without has the entries of an
ancestor that lead to its own part of the family, if it has both descendants and such an ancestor;
and a schema without descendants has no discriminator but its own. -/
theorem coherent_of_resolve {definitions : List (String × Definition)}
    (distinct : (graph.definitions.map Prod.fst).Nodup)
    (h : (resolve graph).outcome.1 = .ok definitions) {name : String} {node : Node}
    (found : graph.get? name = some node) : Coherent graph definitions name node := by
  obtain ⟨entries, hoisted, r⟩ := exists_resolution h
  have own : declaredOf graph name = declaredIn node := by rw [declaredOf, found, Option.bind_some]
  refine ⟨?_, ?_, ?_⟩
  · intro object d declared
    have model := isModel_of_declaredIn object declared
    obtain ⟨o, defined, family⟩ := r.lookup_object distinct found object model
    rw [familyDiscriminator_of_declared (own.trans declared)] at family
    refine ⟨o, _, defined, family, rfl, fun n member => ?_⟩
    exact mem_completed ((mem_family_iff distinct).mpr member)
  · rintro object declared ⟨n, below⟩ ⟨ancestor, above, led⟩
    have other : n ≠ name := by
      rintro rfl
      exact not_descends_self h n below
    obtain ⟨root, d, part, above, declares, whole, restricted, property, entries⟩ :=
      exists_root distinct (own.trans declared) below other above led
    obtain ⟨_, -, inherits⟩ := Relation.TransGen.tail'_iff.mp above
    obtain ⟨o, rootDefined, rootFamily⟩ := r.lookup_parent distinct inherits
    obtain ⟨_, -, inherits⟩ := Relation.TransGen.tail'_iff.mp below
    obtain ⟨p, defined, family⟩ := r.lookup_parent distinct inherits
    exact ⟨root, o, p, d, part, above, declares, rootDefined, rootFamily.trans whole, defined,
      family.trans restricted, property, entries⟩
  · intro declared alone
    obtain ⟨known, d, made, meaning, models, defined, -⟩ := r.exists_definitionOf distinct found
    exact ⟨d, defined, meaning.discriminator_eq_none models declared
      (familyDiscriminator_of_undeclared distinct (own.trans declared) alone)⟩

end

/-! ## Kittens -/

/-- Pets are told apart by their kind; cats are called feline. -/
def petsNode : Node :=
  .object (.at "#/definitions/Pet")
    [⟨"kind", .primitive (.at "#/definitions/Pet/properties/kind") .string none, true⟩] ["kind"]
    .undeclared (some ⟨"kind", [("feline", "Cat")]⟩)

/-- A schema that extends another one. -/
def extending (name parent : String) : Node :=
  .composite (.at s!"#/definitions/{name}") .allOf
    [.reference (.at s!"#/definitions/{name}/allOf/0") s!"#/definitions/{parent}" parent] none

/-- Cats and dogs are pets, and kittens are cats. -/
def kittens : Graph :=
  ⟨"", "#/definitions", "kittens", [("Kitten", extending "Kitten" "Cat"), ("Pet", petsNode),
    ("Dog", extending "Dog" "Pet"), ("Cat", extending "Cat" "Pet")]⟩

theorem inherits_extending {name parent : String}
    (found : kittens.get? name = some (extending name parent))
    (there : kittens.contains parent = true) : Inherits kittens name parent :=
  ⟨_, _, _, _, _, found, List.mem_cons_self, there⟩

/-- Cats have what pets say of cats and kittens, and nothing of dogs. -/
theorem cats_cohere : (kittens.definitions.map Prod.fst).Nodup ∧
    kittens.get? "Cat" = some (extending "Cat" "Pet") ∧
    ∃ definitions o d, (resolve kittens).outcome.1 = .ok definitions ∧
      definitions.lookup "Cat" = some (.object o) ∧ o.discriminator = some d ∧
      d.property = "kind" ∧ ∀ entry ∈ d.mapping, entry.2 = "Cat" ∨ Descends kittens entry.2 "Cat" := by
  have distinct : (kittens.definitions.map Prod.fst).Nodup := by decide
  have found : kittens.get? "Cat" = some (extending "Cat" "Pet") := rfl
  have told : (resolve kittens).outcome.1.toOption.any (fun definitions =>
      ((definitions.lookup "Cat").bind Definition.discriminator).any fun d =>
        d.property == "kind") = true := by decide +kernel
  obtain ⟨definitions, resolves, told⟩ := (Option.any_eq_true _ _).mp told
  have resolves := toOption_eq_some.mp resolves
  have kitten : Inherits kittens "Kitten" "Cat" := inherits_extending rfl rfl
  have cat : Inherits kittens "Cat" "Pet" := inherits_extending rfl rfl
  have coherent := coherent_of_resolve distinct resolves found
  obtain ⟨_, _, o, _, own, -, -, -, -, defined, discriminator, -, entries⟩ :=
    coherent.inherited rfl rfl ⟨_, .single kitten⟩ ⟨_, .single cat, by decide⟩
  rw [defined, Option.bind_some, Definition.discriminator, discriminator] at told
  exact ⟨distinct, found, definitions, o, own, resolves, defined, discriminator,
    beq_iff_eq.mp told, fun entry mem => ((entries entry).mp mem).2⟩

end WireModel.Types
