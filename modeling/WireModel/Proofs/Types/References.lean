import WireModel.Proofs.Schema.Places
import WireModel.Proofs.Types.Needs
import WireModel.Proofs.Types.Provenance

/-!
# What references mean

A pointer denotes the value at the keys that it is written for. The schema that a reference is bound
to is found by a name, which is the last key of the pointer.

* **`Denotes`**: the schema that a reference is bound to is what is read at the keys of its pointer.
* **`contains_of_resolve`**: a resolution that succeeds has found the schema of every reference that
  it reads.
* **`denotes_iff_of_resolve`**: a reference means what its pointer denotes exactly if the pointer is
  written for the container that the document's schemas are taken from.
-/

namespace WireModel.Types

open Schema

/-- The schema that a name is bound to is what is read at the keys that a pointer is written for. -/
def Denotes (document : Value) (requested : Option String) (graph : Graph)
    (pointer target : String) : Prop :=
  ∃ keys node, Pointer.Spells pointer keys ∧ graph.get? target = some node ∧
    ReadAt document requested keys node

section

variable {document : Value} {requested : Option String} {source : String} {graph : Graph}
  {definitions : List (String × Definition)} {notes : Notes} {pointer target : String}

/-- What a resolution reads in a named schema refers to named schemas only. -/
theorem contains_of_resolve (resolves : (resolve graph).Gives definitions) {name : String}
    {node : Node} (found : graph.get? name = some node) {link : Link}
    (mem : link ∈ linksInside node) : graph.contains link.2 = true := by
  obtain ⟨entries, hoisted, r⟩ := exists_resolution_of_gives resolves
  obtain ⟨e, there, rfl⟩ := r.exists_entry (contains_iff.mp (contains_of_get? found))
  obtain ⟨node', known, found', meaning, -⟩ := r.derived.exists_definition there
  obtain rfl := Option.some.inj (found.symm.trans found')
  exact (meaning.meets _ mem).1

/-- **What references mean.** A pointer other than `#` gives its last key, behind the keys of any
container; if a resolution reads it, that key is the name of a schema. This schema is the one that
the pointer denotes exactly if the pointer is written for a name in the container of the graph, and
the name is not that of the root of the document. -/
theorem denotes_iff_of_resolve
    (distinct : ∀ path entries, findContainer document = .ok (path, entries) →
      (entries.map Prod.fst).Nodup)
    (loads : (Graph.ofDocument document requested source).Gives graph)
    (resolves : (resolve graph).Gives definitions)
    (holds : graph.Holds (.reference notes pointer target)) (other : pointer ≠ "#") :
    ∃ container ∈ containers, graph.container = containerPath container ∧
      (∃ fragment, pointer.toList = '#' :: '/' :: fragment ∧
        ∃ named ∈ containers, Pointer.keys fragment = named ++ [target]) ∧
      ((∃ name node, graph.get? name = some node ∧ target ∈ (linksInside node).map Prod.snd) →
        graph.contains target = true) ∧
      (Denotes document requested graph pointer target ↔
        Pointer.Spells pointer (container ++ [target]) ∧
          rootOf document requested ≠ some target ∧ graph.contains target = true) := by
  obtain ⟨container, mem, place, readAt⟩ := exists_container loads distinct
  refine ⟨container, mem, place, named_of_holds loads holds other, ?_, ?_⟩
  · rintro ⟨name, node, found, read⟩
    obtain ⟨link, there, rfl⟩ := List.mem_map.mp read
    exact contains_of_resolve resolves found there
  constructor
  · rintro ⟨keys, node, spells, found, read⟩
    have same := read.unique (readAt _ (mem_of_get? found))
    -- only `#` is written for the root, which has no keys
    have named : rootOf document requested ≠ some target := by
      intro root
      rw [keysOf, if_pos root] at same
      rw [same] at spells
      exact other spells.eq_of_nil
    rw [keysOf, if_neg named] at same
    exact ⟨same ▸ spells, named, contains_of_get? found⟩
  · rintro ⟨spells, named, declared⟩
    obtain ⟨node, found⟩ := Option.isSome_iff_exists.mp declared
    have read := readAt _ (mem_of_get? found)
    rw [keysOf, if_neg named] at read
    exact ⟨_, node, spells, found, read⟩

end

/-! ## Two containers -/

/-- A schema that declares a type only. -/
def typed (type : String) : Value := .ofFields [("type", .str type)]

def ownerSchema : Value :=
  .ofFields [("properties", .ofFields [
    ("name", referenceTo "#/components/schemas/Pet"),
    ("number", referenceTo "#/definitions/Pet")])]

/-- Pets are numbers in one container and texts in the other; owners refer to both. -/
def ownersDocument : Value :=
  .ofFields [
    ("components", .ofFields [("schemas", .ofFields [
      ("Pet", typed "string"), ("Owner", ownerSchema)])]),
    ("definitions", .ofFields [("Pet", typed "integer")])]

def ownersPath (name : String) : String := "#/components/schemas/Owner/properties/" ++ name

def nameReference : Node := .reference (.at (ownersPath "name")) "#/components/schemas/Pet" "Pet"

def numberReference : Node := .reference (.at (ownersPath "number")) "#/definitions/Pet" "Pet"

def ownerNode : Node :=
  .object (.at "#/components/schemas/Owner")
    [⟨"name", nameReference, false⟩, ⟨"number", numberReference, false⟩] [] .undeclared none

def ownersGraph : Graph :=
  ⟨"", "#/components/schemas", "owners",
    [("Pet", .primitive (.at "#/components/schemas/Pet") .string none), ("Owner", ownerNode)]⟩

theorem loads_owners : (Graph.ofDocument ownersDocument none "owners").Gives ownersGraph :=
  Logged.gives_of_outcome rfl

theorem holds_of_owner {name : String} {node : Node} {required : Bool}
    (mem : ⟨name, node, required⟩ ∈ [⟨"name", nameReference, false⟩,
      (⟨"number", numberReference, false⟩ : Property)]) : ownersGraph.Holds node :=
  ⟨("Owner", ownerNode), List.mem_cons_of_mem _ List.mem_cons_self, .property mem .refl⟩

theorem resolves_owners : ∃ definitions, (resolve ownersGraph).Gives definitions :=
  ⟨_, Logged.gives_of_outcome rfl⟩

/-- The pointer to the numbers is bound to the texts. -/
theorem number_is_text :
    (Graph.ofDocument ownersDocument none "owners").Gives ownersGraph ∧
    (∃ definitions, (resolve ownersGraph).Gives definitions) ∧
    ownersGraph.Holds numberReference ∧
    Pointer.Spells "#/definitions/Pet" ["definitions", "Pet"] ∧
    ownersDocument.at? ["definitions", "Pet"] = some (typed "integer") ∧
    ownersGraph.get? "Pet" = some (.primitive (.at "#/components/schemas/Pet") .string none) ∧
    ¬Denotes ownersDocument none ownersGraph "#/definitions/Pet" "Pet" := by
  have spells : Pointer.Spells "#/definitions/Pet" ["definitions", "Pet"] :=
    Pointer.spells_of_place (by decide) (by decide)
  have bound : ownersGraph.get? "Pet" =
      some (.primitive (.at "#/components/schemas/Pet") .string none) := rfl
  refine ⟨loads_owners, resolves_owners, holds_of_owner (List.mem_cons_of_mem _ List.mem_cons_self),
    spells, rfl, bound, ?_⟩
  rintro ⟨keys, node, spells', found, value, -, read⟩
  obtain rfl := Option.some.inj (bound.symm.trans found)
  have place := path_of_parse read
  rw [spells'.unique spells] at place
  exact absurd place (by decide)

/-- The pointer to the texts means what it denotes. -/
theorem name_is_text :
    (Graph.ofDocument ownersDocument none "owners").Gives ownersGraph ∧
    (∃ definitions, (resolve ownersGraph).Gives definitions) ∧
    ownersGraph.Holds nameReference ∧
    Denotes ownersDocument none ownersGraph "#/components/schemas/Pet" "Pet" := by
  have spells : Pointer.Spells "#/components/schemas/Pet" ["components", "schemas", "Pet"] :=
    Pointer.spells_of_place (by decide) (by decide)
  have distinct : ∀ path entries, findContainer ownersDocument = .ok (path, entries) →
      (entries.map Prod.fst).Nodup := by
    intro path entries found
    have taken : findContainer ownersDocument = .ok ("#/components/schemas",
        [(.str "Pet", typed "string"), (.str "Owner", ownerSchema)]) := rfl
    obtain ⟨-, rfl⟩ := Prod.mk.inj (Except.ok.inj (found.symm.trans taken))
    simp
  obtain ⟨definitions, resolves⟩ := resolves_owners
  have holds : ownersGraph.Holds nameReference := holds_of_owner List.mem_cons_self
  obtain ⟨container, mem, place, -, -, denotes⟩ :=
    denotes_iff_of_resolve distinct loads_owners resolves holds (by decide)
  have only : ∀ container ∈ containers, ownersGraph.container = containerPath container →
      container = ["components", "schemas"] := by
    decide
  obtain rfl := only container mem place
  exact ⟨loads_owners, ⟨definitions, resolves⟩, holds, denotes.mpr ⟨spells, by decide, rfl⟩⟩

end WireModel.Types
