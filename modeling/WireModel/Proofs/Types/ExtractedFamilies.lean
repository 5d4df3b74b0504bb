import WireModel.Proofs.Schema.Extraction
import WireModel.Proofs.Types.Families

/-!
# Families of a schema with a name of its own

A schema that gets a name can become a member of a family: of those that it extends through `allOf`.
If none of these declares a discriminator, no family has one because of it, so the discriminators of
all other schemas stay as they are. The new schema has none either, unless it declares one.
-/

namespace WireModel.Types

open Schema

/-- The references among the members of an `allOf` lead to declared schemas. -/
def ParentsDeclared (graph : Graph) (node : Node) : Prop :=
  ∀ notes members discriminator, node = .composite notes .allOf members discriminator →
    ∀ inner pointer target, .reference inner pointer target ∈ members →
      graph.contains target = true

/-- No schema that a schema extends, directly or not, declares a discriminator. -/
def Unled (graph : Graph) (schema : Node) : Prop :=
  ∀ parent ∈ parentsIn graph schema, ∀ ancestor, Reaches (parentsOf graph) parent ancestor →
    declaredOf graph ancestor = none

/-! ## Parents and declared discriminators of a schema -/

theorem parentsIn_relocate (graph : Graph) (place : String → String) (node : Node) :
    parentsIn graph (node.relocate place) = parentsIn graph node := by
  cases node with
  | composite notes mode members discriminator =>
    cases mode with
    | allOf =>
      rw [Node.relocate, parentsIn, parentsIn, relocateAll_eq_map, List.filterMap_map]
      congr 1
      funext member
      cases member with
      | array notes items => cases items <;> rfl
      | _ => rfl
    | _ => rfl
  | array notes items => cases items <;> rfl
  | _ => rfl

theorem declaredIn_relocate (place : String → String) (node : Node) :
    declaredIn (node.relocate place) = declaredIn node := by
  cases node with
  | composite notes mode members discriminator =>
    cases mode <;> cases discriminator <;> try rfl
    rw [Node.relocate, declaredIn, declaredIn, relocateAll_eq_map, List.findSome?_map]
    congr 1
    funext member
    cases member with
    | array notes items => cases items <;> rfl
    | _ => rfl
  | array notes items => cases items <;> rfl
  | _ => rfl

theorem findSome?_congr {α β : Type} {f g : α → Option β} :
    ∀ {l : List α}, (∀ a ∈ l, f a = g a) → l.findSome? f = l.findSome? g
  | [], _ => rfl
  | a :: l, same => by
    obtain ⟨first, rest⟩ := List.forall_mem_cons.mp same
    rw [List.findSome?_cons, List.findSome?_cons, first, findSome?_congr rest]

/-- A schema without a discriminator that nothing extends is in no family. -/
theorem familyDiscriminator_of_childless {graph : Graph} {name : String}
    (declared : declaredOf graph name = none) (childless : childrenOf graph name = []) :
    familyDiscriminator graph name = none := by
  have alone : descendantsOf graph name = [] := by
    rw [descendantsOf, childless]
    cases searchBound graph <;> rfl
  unfold familyDiscriminator
  rw [declared, alone]
  rfl

/-- A name that is not declared is in no family. -/
theorem familyDiscriminator_of_not_mem {graph : Graph} {name : String}
    (absent : name ∉ graph.definitions.map Prod.fst) : familyDiscriminator graph name = none := by
  refine familyDiscriminator_of_childless ?_ (childrenOf_of_not_mem absent)
  have none : graph.get? name = none := by
    rw [← Option.not_isSome_iff_eq_none]
    exact fun there => absent (contains_iff.mp there)
  rw [declaredOf, none]
  rfl

section

variable {graph : Graph} {property name : String} {schema : Node}

theorem parentsIn_extracts {node node' : Node} (h : Node.Extracts property name schema node node') :
    parentsIn graph node' = parentsIn graph node := by
  cases h with
  | property => rfl
  | member h =>
    rw [parentsIn, parentsIn, List.filterMap_append, List.filterMap_append]
    cases h <;> rfl

theorem declaredIn_extracts {node node' : Node} (h : Node.Extracts property name schema node node') :
    declaredIn node' = declaredIn node := by
  cases h with
  | property => rfl
  | @member _ _ _ _ _ discriminator h =>
    cases discriminator with
    | some => rfl
    | none =>
      rw [declaredIn, declaredIn, List.findSome?_append, List.findSome?_append]
      cases h <;> rfl

end

end WireModel.Types

/-! ## The schemas of both documents -/

namespace WireModel.Schema.Graph.Extracts

open Types

variable {graph other : Graph} {owner property name : String} {schema : Node}

theorem names_perm (h : graph.Extracts other owner property name schema) :
    (other.definitions.map Prod.fst).Perm (name :: graph.definitions.map Prod.fst) := by
  obtain ⟨place, before, after, eq, all⟩ := h.definitions
  have kept : graph.definitions.map Prod.fst = (before ++ after).map Prod.fst :=
    map_eq_map_of_forall₂ all fun _ _ changes => changes.1.symm
  rw [eq, kept, List.map_append, List.map_cons, List.map_append]
  exact List.perm_middle

theorem distinct_other (h : graph.Extracts other owner property name schema) :
    (other.definitions.map Prod.fst).Nodup :=
  h.names_perm.nodup_iff.mpr (List.nodup_cons.mpr ⟨h.fresh, h.distinct⟩)

theorem contains_other_iff (h : graph.Extracts other owner property name schema) {n : String} :
    other.contains n = true ↔ n = name ∨ graph.contains n = true := by
  rw [contains_iff, contains_iff, (names_perm h).mem_iff, List.mem_cons]

theorem ne_of_contains (h : graph.Extracts other owner property name schema) {n : String}
    (there : graph.contains n = true) : n ≠ name := by
  rintro rfl
  exact h.fresh (contains_iff.mp there)

theorem exists_named (h : graph.Extracts other owner property name schema) :
    ∃ place, other.get? name = some (schema.relocate place) := by
  obtain ⟨place, before, after, eq, -⟩ := h.definitions
  refine ⟨place, (get?_eq_some_iff h.distinct_other).mpr ?_⟩
  rw [eq]
  exact List.mem_append_right _ List.mem_cons_self

/-- Every schema of the first document is there, changed if it is that of the owner. -/
theorem exists_changed (h : graph.Extracts other owner property name schema) {n : String}
    {node : Node} (found : graph.get? n = some node) :
    ∃ node', other.get? n = some node' ∧
      Changes owner property name schema (n, node) (n, node') := by
  obtain ⟨place, before, after, eq, all⟩ := h.definitions
  have mem := (get?_eq_some_iff h.distinct).mp found
  obtain ⟨⟨n', node'⟩, there, same, changes⟩ := exists_right_of_forall₂ all mem
  obtain rfl : n' = n := same
  refine ⟨node', (get?_eq_some_iff h.distinct_other).mpr ?_, rfl, changes⟩
  rw [eq]
  rcases List.mem_append.mp there with there | there
  · exact List.mem_append_left _ there
  · exact List.mem_append_right _ (List.mem_cons_of_mem _ there)

/-- Schemas of other names are the same in both documents. -/
theorem get?_other (h : graph.Extracts other owner property name schema) {n : String}
    {node : Node} (found : graph.get? n = some node) (another : n ≠ owner) :
    other.get? n = some node := by
  obtain ⟨node', found', -, same⟩ := h.exists_changed found
  rw [if_neg another] at same
  exact found'.trans (congrArg some same)

theorem exists_owner (h : graph.Extracts other owner property name schema) :
    ∃ node node', graph.get? owner = some node ∧ other.get? owner = some node' ∧
      Node.Extracts property name schema node node' := by
  obtain ⟨node, found⟩ := Option.isSome_iff_exists.mp (contains_iff.mpr h.owned)
  obtain ⟨node', found', -, changed⟩ := h.exists_changed found
  rw [if_pos rfl] at changed
  exact ⟨node, node', found, found', changed⟩

/-! ## Families -/

theorem parentsIn_other (h : graph.Extracts other owner property name schema) {node : Node}
    (closed : ParentsDeclared graph node) : parentsIn other node = parentsIn graph node := by
  unfold parentsIn
  split
  · refine List.filterMap_congr fun member mem => ?_
    split
    · rename_i inner pointer target
      have there := closed _ _ _ rfl inner pointer target mem
      rw [if_pos there, if_pos (h.contains_other_iff.mpr (.inr there))]
    · rfl
  · rfl

variable (closed : ∀ d ∈ graph.definitions, ParentsDeclared graph d.2)
include closed

theorem parentsIn_changed (h : graph.Extracts other owner property name schema)
    {d e : String × Node} (mem : d ∈ graph.definitions)
    (changes : Changes owner property name schema d e) :
    parentsIn other e.2 = parentsIn graph d.2 := by
  have changed := changes.2
  split at changed
  · rw [parentsIn_extracts changed, h.parentsIn_other (closed d mem)]
  · rw [changed, h.parentsIn_other (closed d mem)]

theorem parentsOf_eq (h : graph.Extracts other owner property name schema) {n : String}
    (there : graph.contains n = true) : parentsOf other n = parentsOf graph n := by
  obtain ⟨node, found⟩ := Option.isSome_iff_exists.mp there
  obtain ⟨node', found', changes⟩ := h.exists_changed found
  rw [parentsOf, parentsOf, found, found']
  exact h.parentsIn_changed closed ((get?_eq_some_iff h.distinct).mp found) changes

omit closed in
theorem declaredOf_eq (h : graph.Extracts other owner property name schema) {n : String}
    (there : graph.contains n = true) : declaredOf other n = declaredOf graph n := by
  obtain ⟨node, found⟩ := Option.isSome_iff_exists.mp there
  obtain ⟨node', found', -, changed⟩ := h.exists_changed found
  rw [declaredOf, declaredOf, found, found', Option.bind_some, Option.bind_some]
  split at changed
  · exact declaredIn_extracts changed
  · rw [show node' = node from changed]

/-- The mentions of parents in both documents: those of the new schema are added. -/
theorem exists_mentions (h : graph.Extracts other owner property name schema)
    (own : ParentsDeclared graph schema) : ∃ before after, mentions graph = before ++ after ∧
      mentions other =
        before ++ ((parentsIn graph schema).map fun parent => (parent, name)) ++ after := by
  obtain ⟨place, before, after, eq, all⟩ := h.definitions
  have here : parentsIn other (schema.relocate place) = parentsIn graph schema := by
    rw [parentsIn_relocate, h.parentsIn_other own]
  let mentioned (d : String × Node) := (parentsIn other d.2).map fun parent => (parent, d.1)
  have rest : mentions graph = (before ++ after).flatMap mentioned := by
    unfold mentions
    rw [List.flatMap_def, List.flatMap_def]
    congr 1
    refine map_eq_map_of_forall₂ (forall₂_imp_of_mem (S := fun d e =>
      (d ∈ graph.definitions ∧ Changes owner property name schema d e)) all
        fun d mem e changes => ⟨mem, changes⟩) ?_
    rintro d e ⟨mem, changes⟩
    dsimp only [mentioned]
    rw [h.parentsIn_changed closed mem changes, changes.1]
  refine ⟨before.flatMap mentioned, after.flatMap mentioned, ?_, ?_⟩
  · rw [rest, List.flatMap_append]
  · change other.definitions.flatMap mentioned = _
    rw [eq, List.flatMap_append, List.flatMap_cons, List.append_assoc, ← here]

theorem searchBound_le (h : graph.Extracts other owner property name schema)
    (own : ParentsDeclared graph schema) : searchBound graph ≤ searchBound other := by
  obtain ⟨before, after, eq, eq'⟩ := h.exists_mentions closed own
  rw [searchBound_eq, searchBound_eq, eq, eq']
  simp only [List.length_append]
  omega

/-- The new schema adds a child to those that it extends only. -/
theorem childrenOf_eq (h : graph.Extracts other owner property name schema)
    (own : ParentsDeclared graph schema) {n : String} (apart : n ∉ parentsIn graph schema) :
    childrenOf other n = childrenOf graph n := by
  obtain ⟨before, after, eq, eq'⟩ := h.exists_mentions closed own
  have none : (((parentsIn graph schema).map fun parent => (parent, name)).filter
      (·.1 == n)) = [] := by
    refine List.filter_eq_nil_iff.mpr fun mention mem same => ?_
    obtain ⟨parent, there, rfl⟩ := List.mem_map.mp mem
    obtain rfl : parent = n := by simpa using same
    exact apart there
  rw [Types.childrenOf_eq, Types.childrenOf_eq, eq, eq', List.filter_append, List.filter_append,
    none, List.append_nil, List.filter_append]

theorem ancestorsOf_eq (h : graph.Extracts other owner property name schema)
    (own : ParentsDeclared graph schema) {n : String} (there : graph.contains n = true) :
    ancestorsOf other n = ancestorsOf graph n := by
  have cost := ancestors_cost h.distinct n
  have within : ∀ a, graph.contains a = true → ∀ parent ∈ parentsOf graph a,
      graph.contains parent = true := by
    intro a _ parent mem
    obtain ⟨node, -, mem⟩ := (mem_parentsOf_iff h.distinct).mp mem
    exact contains_of_mem_parentsIn mem
  have same := searchFrom_congr (S := {a | graph.contains a = true}) h.distinct
    (fun _ absent => parentsOf_of_not_mem absent) (fun a mem => h.parentsOf_eq closed mem)
    within (within n there) cost (cost.trans (h.searchBound_le closed own))
  rw [ancestorsOf, ancestorsOf, h.parentsOf_eq closed there, same]

theorem descendantsOf_eq (h : graph.Extracts other owner property name schema)
    (own : ParentsDeclared graph schema) {n : String}
    (apart : ∀ parent ∈ parentsIn graph schema, ¬ Reaches (parentsOf graph) parent n) :
    descendantsOf other n = descendantsOf graph n := by
  have same : ∀ d, Reaches (childrenOf graph) n d → childrenOf other d = childrenOf graph d := by
    intro d reaches
    refine h.childrenOf_eq closed own fun mem => apart d mem ?_
    exact reaches_parents_of_reaches_children h.distinct reaches
  have cost := descendants_cost h.distinct n
  have search := searchFrom_congr (S := {d | Reaches (childrenOf graph) n d}) h.distinct
    (fun _ absent => childrenOf_of_not_mem absent) same
    (fun d reaches child mem => Relation.ReflTransGen.tail reaches mem)
    (fun child mem => Relation.ReflTransGen.single mem) cost
    (cost.trans (h.searchBound_le closed own))
  rw [descendantsOf, descendantsOf, same n .refl, search]

/-- The discriminators of families stay as they are, if none reaches the new schema. -/
theorem familyDiscriminator_eq (h : graph.Extracts other owner property name schema)
    (own : ParentsDeclared graph schema) (unled : Unled graph schema) {n : String}
    (there : graph.contains n = true) :
    familyDiscriminator other n = familyDiscriminator graph n := by
  have declared : ∀ a ∈ ancestorsOf graph n, declaredOf other a = declaredOf graph a := by
    intro a mem
    rcases Relation.ReflTransGen.cases_tail (reaches_of_mem_ancestorsOf h.distinct mem) with
      same | ⟨_, -, step⟩
    · rw [same]
      exact h.declaredOf_eq there
    · obtain ⟨node, -, mem⟩ := (mem_parentsOf_iff h.distinct).mp step
      exact h.declaredOf_eq (contains_of_mem_parentsIn mem)
  have nearest : (ancestorsOf graph n).findSome? (declaredOf other) =
      (ancestorsOf graph n).findSome? (declaredOf graph) := findSome?_congr declared
  unfold familyDiscriminator
  rw [h.declaredOf_eq there, h.ancestorsOf_eq closed own there, nearest]
  by_cases above : ∃ parent ∈ parentsIn graph schema, Reaches (parentsOf graph) parent n
  · -- neither this schema nor one above it declares a discriminator
    obtain ⟨parent, mem, reaches⟩ := above
    have none : (ancestorsOf graph n).findSome? (declaredOf graph) = none := by
      refine List.findSome?_eq_none_iff.mpr fun a mem' => ?_
      exact unled parent mem a (reaches.trans (reaches_of_mem_ancestorsOf h.distinct mem'))
    simp only [unled parent mem n reaches, none, Option.map_none, ite_self]
  · have apart : ∀ parent ∈ parentsIn graph schema, ¬ Reaches (parentsOf graph) parent n :=
      fun parent mem reaches => above ⟨parent, mem, reaches⟩
    rw [h.descendantsOf_eq closed own apart]

/-- The new schema is in no family of its own. -/
theorem familyDiscriminator_named (h : graph.Extracts other owner property name schema)
    (own : ParentsDeclared graph schema) (plain : declaredIn schema = none) :
    familyDiscriminator other name = none := by
  obtain ⟨place, found⟩ := h.exists_named
  have declared : declaredOf other name = none := by
    rw [declaredOf, found, Option.bind_some, declaredIn_relocate, plain]
  have childless : childrenOf other name = [] := by
    rw [h.childrenOf_eq closed own, childrenOf_of_not_mem h.fresh]
    intro mem
    exact h.ne_of_contains (contains_of_mem_parentsIn mem) rfl
  exact familyDiscriminator_of_childless declared childless

end WireModel.Schema.Graph.Extracts
