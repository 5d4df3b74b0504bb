import Mathlib.Algebra.Order.BigOperators.Group.List
import Mathlib.Algebra.Order.Ring.Nat
import WireModel.Proofs.Lists
import WireModel.Proofs.Types.Search

/-!
# Families do not depend on the order of schemas

Whoever extends a schema, directly or not, is found by a search that has enough fuel, so the
descendants of a schema are a matter of the schemas alone. When these are declared in another
order, only the order of descendants and of a discriminator's entries changes.
-/

namespace WireModel.Types

open Schema

/-- The same schemas, declared in another order. -/
structure Reorders (graph other : Graph) : Prop where
  perm : other.definitions.Perm graph.definitions
  distinct : (graph.definitions.map Prod.fst).Nodup

/-! ## Mentions -/

/-- Every mention of a parent, with the child that mentions it. -/
def mentions (graph : Graph) : List (String × String) :=
  graph.definitions.flatMap fun (child, node) =>
    (parentsIn graph node).map fun parent => (parent, child)

theorem childrenOf_eq (graph : Graph) (name : String) :
    childrenOf graph name = ((mentions graph).filter (·.1 == name)).map Prod.snd := by
  unfold childrenOf mentions
  rw [List.filter_flatMap, List.map_flatMap]
  congr 1
  funext ⟨child, node⟩
  dsimp only
  induction parentsIn graph node with
  | nil => rfl
  | cons parent rest ih =>
    by_cases same : (parent == name) = true <;> simp_all

theorem searchBound_eq (graph : Graph) : searchBound graph = 1 + 2 * (mentions graph).length := by
  have fold : ∀ (definitions : List (String × Node)) (n : Nat),
      definitions.foldl (fun n declared => n + 2 * (parentsIn graph declared.2).length) n =
        n + 2 * (definitions.flatMap fun declared =>
          (parentsIn graph declared.2).map fun parent => (parent, declared.1)).length := by
    intro definitions
    induction definitions with
    | nil => exact fun n => rfl
    | cons declared rest ih =>
      intro n
      rw [List.foldl_cons, ih, List.flatMap_cons, List.length_append, List.length_map]
      omega
  exact fold graph.definitions 1

theorem sum_length_filter_le {names : List String} (distinct : names.Nodup) :
    ∀ l : List (String × String),
      (names.map fun n => (l.filter (·.1 == n)).length).sum ≤ l.length := by
  induction names with
  | nil => exact fun l => Nat.zero_le _
  | cons name rest ih =>
    intro l
    obtain ⟨absent, distinct⟩ := List.nodup_cons.mp distinct
    -- what the others count is left when the mentions of the first one are taken away
    have others : (rest.map fun n => (l.filter (·.1 == n)).length) =
        rest.map fun n => ((l.filter fun p => !(p.1 == name)).filter (·.1 == n)).length := by
      refine List.map_congr_left fun n mem => ?_
      rw [List.filter_filter]
      congr 2
      funext p
      by_cases same : p.1 = n
      · have apart : n ≠ name := fun eq => absent (eq ▸ mem)
        simp [same, apart]
      · simp [same]
    have all := List.length_eq_length_filter_add (l := l) fun p => p.1 == name
    rw [List.map_cons, List.sum_cons, others]
    have := ih distinct (l.filter fun p => !(p.1 == name))
    omega

theorem contains_of_mem_parentsIn {graph : Graph} {node : Node} {parent : String}
    (mem : parent ∈ parentsIn graph node) : graph.contains parent = true := by
  unfold parentsIn at mem
  split at mem
  · obtain ⟨member, -, found⟩ := List.mem_filterMap.mp mem
    split at found
    · split at found
      · rename_i there
        cases found
        exact there
      · cases found
    · cases found
  · cases mem

theorem contains_iff {graph : Graph} {name : String} :
    graph.contains name = true ↔ name ∈ graph.definitions.map Prod.fst := by
  simp only [Graph.contains, Graph.get?, List.lookup_isSome_iff, beq_iff_eq, List.mem_map]
  constructor
  · rintro ⟨p, mem, same⟩
    exact ⟨p, mem, same.symm⟩
  · rintro ⟨p, mem, same⟩
    exact ⟨p, mem, same.symm⟩

theorem contains_of_get? {graph : Graph} {name : String} {node : Node}
    (found : graph.get? name = some node) : graph.contains name = true := by
  rw [Graph.contains, found]
  rfl

/-- Only declared schemas have children. -/
theorem childrenOf_of_not_mem {graph : Graph} {name : String}
    (absent : name ∉ graph.definitions.map Prod.fst) : childrenOf graph name = [] := by
  rw [childrenOf_eq, List.map_eq_nil_iff, List.filter_eq_nil_iff]
  intro mention mem same
  obtain ⟨⟨child, node⟩, -, here⟩ := List.mem_flatMap.mp mem
  obtain ⟨parent, there, rfl⟩ := List.mem_map.mp here
  obtain rfl : parent = name := by simpa using same
  exact absent (contains_iff.mp (contains_of_mem_parentsIn there))

/-! ## Descendants -/

/-- A search for descendants has enough fuel. -/
theorem descendants_cost {graph : Graph} (distinct : (graph.definitions.map Prod.fst).Nodup)
    (name : String) : (childrenOf graph name).length +
      pending (childrenOf graph) (graph.definitions.map Prod.fst) [name] ≤ searchBound graph := by
  have cost : (childrenOf graph name).length +
      pending (childrenOf graph) (graph.definitions.map Prod.fst) [name] =
        pending (childrenOf graph) (graph.definitions.map Prod.fst) [] :=
    length_add_pending distinct (fun n absent => childrenOf_of_not_mem absent) List.not_mem_nil
  have bound : (graph.definitions.map Prod.fst |>.map fun n => (childrenOf graph n).length).sum ≤
      (mentions graph).length := by
    simp only [childrenOf_eq, List.length_map]
    exact sum_length_filter_le distinct _
  have most : pending (childrenOf graph) (graph.definitions.map Prod.fst) [] ≤ _ := pending_le _ _
  rw [searchBound_eq]
  omega

theorem descendants_searched {graph : Graph}
    (distinct : (graph.definitions.map Prod.fst).Nodup) (name : String) :
    Searched (childrenOf graph) (childrenOf graph name) [name]
      (searchFrom (childrenOf graph) (searchBound graph) (childrenOf graph name) [name]) :=
  searchFrom_searched distinct (fun _ absent => childrenOf_of_not_mem absent)
    (descendants_cost distinct name)

/-- The descendants of a schema are what it reaches through children, apart from itself. -/
theorem mem_descendantsOf {graph : Graph} (distinct : (graph.definitions.map Prod.fst).Nodup)
    {name n : String} :
    n ∈ descendantsOf graph name ↔ n ≠ name ∧ Reaches (childrenOf graph) name n := by
  have searched := descendants_searched distinct name
  obtain ⟨met, eq⟩ := searched.extends_seen
  have unique := searched.distinct (List.nodup_singleton name)
  rw [← searched.mem_iff, descendantsOf, eq]
  rw [eq] at unique
  have fresh : name ∉ met := by simpa using (List.nodup_append.mp unique).2.2 name
  simp only [List.reverse_append, List.reverse_cons, List.reverse_nil, List.nil_append,
    List.cons_append, List.drop_succ_cons, List.drop_zero, List.mem_reverse, List.mem_append,
    List.mem_singleton]
  constructor
  · intro mem
    exact ⟨fun same => fresh (same ▸ mem), .inl mem⟩
  · rintro ⟨other, mem | same⟩
    · exact mem
    · exact absurd same other

theorem descendantsOf_nodup {graph : Graph} (distinct : (graph.definitions.map Prod.fst).Nodup)
    (name : String) : (descendantsOf graph name).Nodup := by
  have searched := descendants_searched distinct name
  exact (List.nodup_reverse.mpr (searched.distinct (List.nodup_singleton name))).sublist
    (List.drop_sublist 1 _)

theorem mem_names_of_mem_childrenOf {graph : Graph} {name child : String}
    (mem : child ∈ childrenOf graph name) : child ∈ graph.definitions.map Prod.fst := by
  obtain ⟨⟨n, node⟩, declared, here⟩ := List.mem_flatMap.mp mem
  obtain ⟨parent, -, found⟩ := List.mem_filterMap.mp here
  split at found
  · cases found
    exact List.mem_map.mpr ⟨_, declared, rfl⟩
  · cases found

theorem mem_names_of_mem_descendantsOf {graph : Graph}
    (distinct : (graph.definitions.map Prod.fst).Nodup) {name n : String}
    (mem : n ∈ descendantsOf graph name) : n ∈ graph.definitions.map Prod.fst := by
  obtain ⟨other, reaches⟩ := (mem_descendantsOf distinct).mp mem
  rcases Relation.ReflTransGen.cases_tail reaches with same | ⟨_, -, step⟩
  · exact absurd same other
  · exact mem_names_of_mem_childrenOf step

/-! ## Ancestors -/

theorem get?_eq_some_iff {graph : Graph} (distinct : (graph.definitions.map Prod.fst).Nodup)
    {name : String} {node : Node} :
    graph.get? name = some node ↔ (name, node) ∈ graph.definitions :=
  lookup_eq_some_iff_mem distinct

theorem parentsOf_of_not_mem {graph : Graph} {name : String}
    (absent : name ∉ graph.definitions.map Prod.fst) : parentsOf graph name = [] := by
  have unknown : graph.get? name = none := by
    rw [← contains_iff, Graph.contains] at absent
    simpa using absent
  rw [parentsOf, unknown]

theorem mem_parentsOf_iff {graph : Graph} (distinct : (graph.definitions.map Prod.fst).Nodup)
    {name parent : String} : parent ∈ parentsOf graph name ↔
      ∃ node, (name, node) ∈ graph.definitions ∧ parent ∈ parentsIn graph node := by
  unfold parentsOf
  constructor
  · intro mem
    split at mem
    · rename_i node found
      exact ⟨node, (get?_eq_some_iff distinct).mp found, mem⟩
    · cases mem
  · rintro ⟨node, there, mem⟩
    rw [(get?_eq_some_iff distinct).mpr there]
    exact mem

theorem mem_childrenOf_iff {graph : Graph} (distinct : (graph.definitions.map Prod.fst).Nodup)
    {name child : String} : child ∈ childrenOf graph name ↔ name ∈ parentsOf graph child := by
  rw [mem_parentsOf_iff distinct]
  unfold childrenOf
  simp only [List.mem_flatMap, List.mem_filterMap, Option.ite_none_right_eq_some, beq_iff_eq,
    Option.some.injEq, Prod.exists]
  constructor
  · rintro ⟨_, node, there, _, mem, rfl, rfl⟩
    exact ⟨node, there, mem⟩
  · rintro ⟨node, there, mem⟩
    exact ⟨child, node, there, name, mem, rfl, rfl⟩

/-- Who descends from a schema has it as an ancestor. -/
theorem reaches_parents_of_reaches_children {graph : Graph}
    (distinct : (graph.definitions.map Prod.fst).Nodup) {a b : String}
    (h : Reaches (childrenOf graph) a b) : Reaches (parentsOf graph) b a := by
  induction h with
  | refl => exact .refl
  | tail _ step ih => exact .head ((mem_childrenOf_iff distinct).mp step) ih

/-- A search for ancestors has enough fuel. -/
theorem ancestors_cost {graph : Graph} (distinct : (graph.definitions.map Prod.fst).Nodup)
    (name : String) : (parentsOf graph name).length +
      pending (parentsOf graph) (graph.definitions.map Prod.fst) [] ≤ searchBound graph := by
  have each : ∀ d ∈ graph.definitions, (parentsOf graph d.1).length =
      ((parentsIn graph d.2).map fun parent => (parent, d.1)).length := by
    intro d mem
    rw [parentsOf, (get?_eq_some_iff distinct).mpr mem, List.length_map]
  have total : (graph.definitions.map Prod.fst |>.map fun n => (parentsOf graph n).length).sum =
      (mentions graph).length := by
    rw [List.map_map, mentions, List.length_flatMap]
    exact congrArg List.sum (List.map_congr_left each)
  have most : pending (parentsOf graph) (graph.definitions.map Prod.fst) [] ≤ _ := pending_le _ _
  have one : (parentsOf graph name).length ≤ (mentions graph).length := by
    by_cases mem : name ∈ graph.definitions.map Prod.fst
    · rw [← total]
      exact List.le_sum_of_mem (List.mem_map.mpr ⟨name, mem, rfl⟩)
    · rw [parentsOf_of_not_mem mem]
      exact Nat.zero_le _
  rw [searchBound_eq]
  omega

theorem ancestors_searched {graph : Graph}
    (distinct : (graph.definitions.map Prod.fst).Nodup) (name : String) :
    Searched (parentsOf graph) (parentsOf graph name) []
      (searchFrom (parentsOf graph) (searchBound graph) (parentsOf graph name) []) :=
  searchFrom_searched distinct (fun _ absent => parentsOf_of_not_mem absent)
    (ancestors_cost distinct name)

/-- Ancestors are reached through parents. -/
theorem reaches_of_mem_ancestorsOf {graph : Graph}
    (distinct : (graph.definitions.map Prod.fst).Nodup) {name ancestor : String}
    (mem : ancestor ∈ ancestorsOf graph name) : Reaches (parentsOf graph) name ancestor := by
  rcases (ancestors_searched distinct name).reached ancestor (List.mem_reverse.mp mem) with
    none | ⟨start, there, reaches⟩
  · cases none
  · exact .head there reaches

/-! ## Other orders -/

namespace Reorders

variable {graph other : Graph}

theorem distinct_other (h : Reorders graph other) : (other.definitions.map Prod.fst).Nodup :=
  (h.perm.map Prod.fst).nodup_iff.mpr h.distinct

theorem symm (h : Reorders graph other) : Reorders other graph := ⟨h.perm.symm, h.distinct_other⟩

theorem get?_eq (h : Reorders graph other) (name : String) :
    other.get? name = graph.get? name :=
  lookup_eq_of_perm h.perm h.distinct_other name

theorem contains_eq (h : Reorders graph other) (name : String) :
    other.contains name = graph.contains name := by
  rw [Graph.contains, Graph.contains, h.get?_eq]

theorem parentsIn_eq (h : Reorders graph other) : parentsIn other = parentsIn graph := by
  funext node
  unfold parentsIn
  split
  · simp only [h.contains_eq]
  · rfl

theorem declaredOf_eq (h : Reorders graph other) : declaredOf other = declaredOf graph := by
  funext name
  rw [declaredOf, declaredOf, h.get?_eq]

theorem ancestorsOf_eq (h : Reorders graph other) (name : String) :
    ancestorsOf other name = ancestorsOf graph name := by
  have next : parentsOf other = parentsOf graph := by
    funext name
    simp only [parentsOf, h.get?_eq, h.parentsIn_eq]
  have mentioned : (mentions other).Perm (mentions graph) := by
    unfold mentions
    rw [h.parentsIn_eq]
    exact h.perm.flatMap_right _
  rw [ancestorsOf, ancestorsOf, next, searchBound_eq, searchBound_eq, mentioned.length_eq]

theorem mem_childrenOf_iff (h : Reorders graph other) {name child : String} :
    child ∈ childrenOf other name ↔ child ∈ childrenOf graph name := by
  unfold childrenOf
  rw [h.parentsIn_eq]
  exact (h.perm.flatMap_right _).mem_iff

theorem descendantsOf_perm (h : Reorders graph other) (name : String) :
    (descendantsOf other name).Perm (descendantsOf graph name) := by
  refine (List.perm_ext_iff_of_nodup (descendantsOf_nodup h.distinct_other name)
    (descendantsOf_nodup h.distinct name)).mpr fun n => ?_
  rw [mem_descendantsOf h.distinct, mem_descendantsOf h.distinct_other, Reaches, Reaches]
  simp only [h.mem_childrenOf_iff]

end Reorders

end WireModel.Types
