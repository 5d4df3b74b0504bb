import WireModel.Schema.Graph

/-!
# Families of models

An object may extend others through `allOf`. The root of a family carries a discriminator that
tells the members apart; members with descendants of their own inherit it for those.
-/

namespace WireModel.Types

open Schema

/-- The references to named schemas among the members of an `allOf`. -/
def parentsIn (graph : Graph) : Node → List String
  | .composite _ .allOf members _ =>
    members.filterMap fun
      | .reference _ _ target => if graph.contains target then some target else none
      | _ => none
  | _ => []

/-- The schemas that a named schema extends directly. -/
def parentsOf (graph : Graph) (name : String) : List String :=
  match graph.get? name with
  | some node => parentsIn graph node
  | none => []

/-- The schemas that extend a named schema directly, once for each mention. -/
def childrenOf (graph : Graph) (name : String) : List String :=
  graph.definitions.flatMap fun (child, node) =>
    (parentsIn graph node).filterMap fun parent => if parent == name then some child else none

/-- Breadth-first search from a queue of names; `seen` are those met, last one first. Each
round takes a name from the queue, and only new names put others behind it, so the fuel counts
names taken. -/
def searchFrom (next : String → List String) : Nat → List String → List String → List String
  | 0, _, seen => seen
  | _, [], seen => seen
  | fuel + 1, name :: queue, seen =>
    if seen.contains name then searchFrom next fuel queue seen
    else searchFrom next fuel (queue ++ next name) (name :: seen)

/-- The number of times that a search can take a name from its queue: once at the start and
once for each mention of a parent. -/
def searchBound (graph : Graph) : Nat :=
  graph.definitions.foldl (fun n (_, node) => n + 2 * (parentsIn graph node).length) 1

/-- The schemas that extend a named schema, directly or not, breadth first. -/
def descendantsOf (graph : Graph) (name : String) : List String :=
  ((searchFrom (childrenOf graph) (searchBound graph) (childrenOf graph name) [name]).reverse).drop 1

/-- The schemas that a named schema extends, directly or not, breadth first. -/
def ancestorsOf (graph : Graph) (name : String) : List String :=
  (searchFrom (parentsOf graph) (searchBound graph) (parentsOf graph name) []).reverse

/-- The discriminator that a schema declares; that of an `allOf` may stand in one of its
members. -/
def declaredIn : Node → Option Discriminator
  | .object _ _ _ _ discriminator => discriminator
  | .composite _ .allOf members none =>
    members.findSome? fun
      | .object _ _ _ _ discriminator => discriminator
      | _ => none
  | .composite _ _ _ discriminator => discriminator
  | _ => none

/-- The discriminator that a named schema declares. -/
def declaredOf (graph : Graph) (name : String) : Option Discriminator :=
  (graph.get? name).bind declaredIn

/-- Entries for the members of a list that no entry leads to: each by its own name. -/
def completed (entries : List (String × String)) (names : List String) :
    List (String × String) :=
  entries ++ (names.filter fun n => !entries.any (·.2 == n)).map fun n => (n, n)

/-- The discriminator of a named object: its own, or that of its nearest ancestor restricted
to itself and its descendants if it has any. Members without an entry are told by their
names. -/
def familyDiscriminator (graph : Graph) (name : String) : Option Discriminator :=
  let descendants := descendantsOf graph name
  let family := name :: descendants
  match declaredOf graph name with
  | some own => some ⟨own.property, completed own.mapping family⟩
  | none =>
    if descendants.isEmpty then none
    else
      ((ancestorsOf graph name).findSome? (declaredOf graph)).map fun source =>
        ⟨source.property, completed (source.mapping.filter fun (_, t) => family.contains t) family⟩

theorem mem_completed {entries : List (String × String)} {names : List String} {name : String}
    (h : name ∈ names) : ∃ entry ∈ completed entries names, entry.2 = name := by
  by_cases mapped : entries.any (·.2 == name) = true
  · obtain ⟨entry, mem, eq⟩ := List.any_eq_true.1 mapped
    exact ⟨entry, by simp [completed, mem], by simpa using eq⟩
  · refine ⟨(name, name), ?_, rfl⟩
    simp only [completed, List.mem_append, List.mem_map, List.mem_filter]
    exact .inr ⟨name, ⟨h, by rw [Bool.eq_false_iff.mpr mapped]; rfl⟩, rfl⟩

end WireModel.Types
