import WireModel.Proofs.Schema.Places

/-!
# What stands at keys

A node of a document is read from some value, its origin, and the place of the node should lead
there. The types of a union are numbered without null, though, so there may be another name at the
number of a type; and what is inside of a type is placed below its name, where there is nothing.

* **`Origin`**: what a node is read from, and where that should stand.
* **`Node.Placed.located_iff`**: the place of a node leads to its origin, unless it is below a name
  in a list of types or is that of another name.
-/

namespace WireModel.Schema

open Pointer (place)

/-! ## Lists of types -/

/-- The names in the list of types of a schema, if it has one. -/
def typeNames? (members : Members) : Option (List String) :=
  match Value.lookup "type" members with
  | some (.list types) => types.mapM Value.asStr?
  | _ => none

/-- The types of a union: null is none of them. -/
def keptTypes (names : List String) : List String := names.filter (· != "null")

section

variable (document : Value)

/-- The schema at keys has a list of types with such names. -/
def TypesAt (keys names : List String) : Prop :=
  ∃ members, document.at? keys = some (.map members) ∧ typeNames? members = some names

/-- Keys that lead below a name in a list of types. -/
def Below (keys : List String) : Prop :=
  ∃ outer names index key rest, TypesAt document outer names ∧
    keys = outer ++ "type" :: index :: key :: rest

/-- A value stands at keys, or these lead below a name in a list of types. -/
def Stands (keys : List String) (v : Value) : Prop :=
  document.at? keys = some v ∨ Below document keys

/-- The keys of a type of a union whose number belongs to another name in the list of types. -/
def Renumbered (keys : List String) : Prop :=
  ∃ outer names index, TypesAt document outer names ∧
    keys = outer ++ ["type", Decimal.ofNat index] ∧ names[index]? ≠ (keptTypes names)[index]?

end

variable {document : Value}

/-- Values with texts are those texts. -/
theorem eq_map_of_asStr? : ∀ {types : List Value} {names : List String},
    types.mapM Value.asStr? = some names → types = names.map Value.str
  | [], names, h => by
    cases h
    rfl
  | v :: types, names, h => by
    rw [List.mapM_cons] at h
    obtain ⟨name, text, h⟩ := Option.bind_eq_some_iff.mp h
    obtain ⟨rest, texts, h⟩ := Option.bind_eq_some_iff.mp h
    cases h
    rw [List.map_cons, ← eq_map_of_asStr? texts]
    cases v <;> cases text
    rfl

theorem TypesAt.unique {keys names others : List String} (h : TypesAt document keys names)
    (h' : TypesAt document keys others) : names = others := by
  obtain ⟨members, there, types⟩ := h
  obtain ⟨members', there', types'⟩ := h'
  rw [there] at there'
  cases there'
  rw [types] at types'
  exact Option.some.inj types'

theorem TypesAt.at?_type {keys names : List String} (h : TypesAt document keys names) :
    document.at? (keys ++ ["type"]) = some (.list (names.map Value.str)) := by
  obtain ⟨members, there, types⟩ := h
  unfold typeNames? at types
  split at types
  · rename_i listed found
    rw [← eq_map_of_asStr? types, Value.at?_append, there, Option.bind_some, Value.at?_singleton]
    exact found
  · cases types

theorem TypesAt.at?_index {keys names : List String} (h : TypesAt document keys names) (i : Nat) :
    document.at? (keys ++ ["type", Decimal.ofNat i]) = names[i]?.map Value.str := by
  rw [List.append_cons, Value.at?_append, h.at?_type, Option.bind_some, Value.at?_singleton,
    Value.child?_list, List.getElem?_map]

/-- The document has nothing below a name in a list of types. -/
theorem Below.at?_eq_none {keys : List String} (h : Below document keys) :
    document.at? keys = none := by
  obtain ⟨outer, names, index, key, rest, types, rfl⟩ := h
  have split : outer ++ "type" :: index :: key :: rest =
      (outer ++ ["type"]) ++ ([index] ++ ([key] ++ rest)) := by simp
  rw [split, Value.at?_append, types.at?_type, Option.bind_some, Value.at?_append,
    Value.at?_singleton]
  cases found : (Value.list (names.map Value.str)).child? index with
  | none => rfl
  | some v =>
    obtain ⟨item, mem, rfl⟩ := Option.map_eq_some_iff.mp found
    have text := List.fst_mem_of_mem_zipIdx (List.mem_of_find?_eq_some mem)
    obtain ⟨s, -, same⟩ := List.mem_map.mp text
    rw [Option.bind_some, ← same]
    rfl

theorem Below.append {keys : List String} (h : Below document keys) (others : List String) :
    Below document (keys ++ others) := by
  obtain ⟨outer, names, index, key, rest, types, rfl⟩ := h
  exact ⟨outer, names, index, key, rest ++ others, types, by simp⟩

theorem Stands.append {keys : List String} {key : String} {v w : Value}
    (stands : Stands document keys v) (child : v.child? key = some w) :
    Stands document (keys ++ [key]) w := by
  rcases stands with there | below
  · refine .inl ?_
    rw [Value.at?_append, there, Option.bind_some, Value.at?_singleton]
    exact child
  · exact .inr (below.append [key])

/-! ## Nodes and faults at places -/

section

variable (document : Value) (root : Option String)

/-- A node is read from a value, and that is what should stand at the keys. Most nodes are read
from a schema; others are made of a list of item schemas, of the properties next to an `allOf`, or
of one of a list of types, and then it is the name of the type that should stand there. -/
inductive Origin : List String → Node → Value → Prop
  | schema {keys node v depth} : document.at? keys = some v →
      (parseNode root depth v (place keys)).Gives node → Origin keys node v
  | tuple {keys items variants depth} : document.at? keys = some (.list items) →
      (readMembers (partsReader root depth) (place keys) items).Gives variants →
      Origin keys (.composite (.at (place keys)) .anyOf variants none) (.list items)
  | beside {keys members node depth} : document.at? keys = some (.map members) →
      Value.hasKey "allOf" members = true →
      (readObject root (partsReader root depth) (siblings members) (place keys)
        (.at (place keys))).Gives node →
      Origin keys node (.map members)
  | variant {keys members names type index node depth} : document.at? keys = some (.map members) →
      typeNames? members = some names → (keptTypes names)[index]? = some type →
      (readVariant root (partsReader root depth) members (place keys) type index).Gives node →
      Origin (keys ++ ["type", Decimal.ofNat index]) node (.str type)

/-- The place of a node leads to what the node is read from. -/
def Node.Located (node : Node) : Prop :=
  ∃ keys v, node.path = place keys ∧ Origin document root keys node v ∧ document.at? keys = some v

/-- The place of a node is where it should stand, or below a name in a list of types. -/
def Node.Placed (node : Node) : Prop :=
  ∃ keys, node.path = place keys ∧
    (Below document keys ∨ ∃ v, Origin document root keys node v)

/-- So are those of all nodes in a node. -/
def Node.AllPlaced (node : Node) : Prop :=
  ∀ part : Node, part.Part node → part.Placed document root

/-- So are those of all nodes in a node but for itself. -/
def Node.InnerPlaced (node : Node) : Prop :=
  ∀ child ∈ node.children, child.AllPlaced document root

/-- The place of a fault leads to some value. -/
def Fault.Located (fault : Fault) : Prop :=
  ∃ keys v, fault.location = place keys ∧ document.at? keys = some v

/-- A fault has no place, or one at which some value stands. -/
def Fault.Placed (fault : Fault) : Prop :=
  fault.location = "" ∨ ∃ keys v, fault.location = place keys ∧ Stands document keys v

end

variable {root : Option String}

theorem Node.InnerPlaced.all {node : Node} (inner : node.InnerPlaced document root)
    (here : node.Placed document root) : node.AllPlaced document root := by
  intro part isPart
  rcases part_cases isPart with rfl | ⟨child, mem, isPart⟩
  · exact here
  · exact inner child mem part isPart

/-- A node is placed if it has an origin wherever the document has a value. -/
theorem Node.placed_of_stands {node : Node} {keys : List String} {v w : Value}
    (path : node.path = place keys) (stands : Stands document keys v)
    (origin : document.at? keys = some v → Origin document root keys node w) :
    node.Placed document root :=
  ⟨keys, path, stands.symm.imp_right fun there => ⟨w, origin there⟩⟩

/-! ## Right places -/

/-- No node is read from what is below a name in a list of types, or from a name that is not its
own. -/
theorem Node.Located.not_astray {node : Node} (located : node.Located document root) :
    ¬∃ keys, node.path = place keys ∧ (Below document keys ∨ Renumbered document keys) := by
  obtain ⟨keys, v, path, origin, there⟩ := located
  rintro ⟨keys', path', wrong⟩
  obtain rfl := Pointer.place_injective (path.symm.trans path')
  rcases wrong with below | ⟨outer, names, index, types, rfl, other⟩
  · rw [below.at?_eq_none] at there
    cases there
  · rw [types.at?_index] at there
    obtain ⟨name, listed, rfl⟩ := Option.map_eq_some_iff.mp there
    -- of all nodes only a type of a union is read from a name, and from its own
    generalize same : outer ++ ["type", Decimal.ofNat index] = keys at origin
    generalize told : Value.str name = v at origin
    cases origin with
    | schema _ read =>
      cases told
      rw [parseNode_eq] at read
      exact not_gives_fail read
    | tuple => cases told
    | beside => cases told
    | variant there' types' kept =>
      cases told
      obtain ⟨rfl, last⟩ := List.append_inj' same rfl
      obtain rfl := Decimal.ofNat_injective (List.cons.inj (List.cons.inj last).2).1
      obtain rfl := types.unique ⟨_, there', types'⟩
      exact other (listed.trans kept.symm)

/-- The origin of a node stands at its keys, unless these are those of another name. -/
theorem Origin.at? {keys : List String} {node : Node} {v : Value}
    (origin : Origin document root keys node v) (own : ¬Renumbered document keys) :
    document.at? keys = some v := by
  cases origin with
  | schema there => exact there
  | tuple there => exact there
  | beside there => exact there
  | @variant outer members names type index node depth there types kept =>
    have types : TypesAt document outer names := ⟨members, there, types⟩
    have listed : names[index]? = (keptTypes names)[index]? := by
      by_contra other
      exact own ⟨outer, names, index, types, rfl, other⟩
    rw [types.at?_index, listed, kept]
    rfl

theorem Node.Placed.located_iff {node : Node} (placed : node.Placed document root) :
    node.Located document root ↔
      ¬∃ keys, node.path = place keys ∧ (Below document keys ∨ Renumbered document keys) := by
  refine ⟨Node.Located.not_astray, fun right => ?_⟩
  obtain ⟨keys, path, below | ⟨v, origin⟩⟩ := placed
  · exact absurd ⟨keys, path, .inl below⟩ right
  · have own : ¬Renumbered document keys := fun other => right ⟨keys, path, .inr other⟩
    exact ⟨keys, v, path, origin, origin.at? own⟩

theorem Fault.Located.not_below {fault : Fault} (located : fault.Located document) :
    ¬∃ keys, fault.location = place keys ∧ Below document keys := by
  obtain ⟨keys, v, path, there⟩ := located
  rintro ⟨keys', path', below⟩
  obtain rfl := Pointer.place_injective (path.symm.trans path')
  rw [below.at?_eq_none] at there
  cases there

theorem Fault.Placed.located_iff {fault : Fault} (placed : fault.Placed document)
    (told : fault.location ≠ "") :
    fault.Located document ↔ ¬∃ keys, fault.location = place keys ∧ Below document keys := by
  refine ⟨Fault.Located.not_below, fun right => ?_⟩
  obtain ⟨keys, v, path, there | below⟩ := placed.resolve_left told
  · exact ⟨keys, v, path, there⟩
  · exact absurd ⟨keys, path, below⟩ right

end WireModel.Schema
