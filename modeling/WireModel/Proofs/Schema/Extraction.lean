import Mathlib.Data.List.Forall2
import WireModel.Schema.Graph

/-!
# A schema under a name of its own

The schema of a property may stand where it is used, or have a name and be referred to. Here is what
this does to the schemas of a document:

* **`Node.relocate`**: a schema at another place. All that changes are the places of its parts.
* **`Node.Extracts`**: a schema in which a property has its schema replaced by a reference. The
  property may be that of an object, or of an object among the members of an `allOf`.
* **`Graph.Extracts`**: all schemas of a document, with one of them changed in this way and another
  one declared.
-/

namespace WireModel.Schema

/-! ## Places -/

/-- Notes of a schema at another place. -/
def Notes.relocate (place : String → String) (notes : Notes) : Notes :=
  { notes with path := place notes.path }

mutual

/-- A schema at another place. -/
def Node.relocate (place : String → String) : Node → Node
  | .primitive notes kind format => .primitive (notes.relocate place) kind format
  | .object notes properties required additional discriminator =>
    .object (notes.relocate place) (relocateProperties place properties) required
      (relocateAdditional place additional) discriminator
  | .array notes none => .array (notes.relocate place) none
  | .array notes (some items) => .array (notes.relocate place) (some (items.relocate place))
  | .enum notes values kind => .enum (notes.relocate place) values kind
  | .composite notes mode members discriminator =>
    .composite (notes.relocate place) mode (relocateAll place members) discriminator
  | .reference notes pointer target => .reference (notes.relocate place) pointer target

def relocateProperties (place : String → String) : List (PropertyOf Node) → List (PropertyOf Node)
  | [] => []
  | ⟨name, node, required⟩ :: rest =>
    ⟨name, node.relocate place, required⟩ :: relocateProperties place rest

def relocateAdditional (place : String → String) : AdditionalOf Node → AdditionalOf Node
  | .undeclared => .undeclared
  | .flag allowed => .flag allowed
  | .schema node => .schema (node.relocate place)

def relocateAll (place : String → String) : List Node → List Node
  | [] => []
  | node :: rest => node.relocate place :: relocateAll place rest

end

@[simp] theorem Notes.nullable_relocate (place : String → String) (notes : Notes) :
    (notes.relocate place).nullable = notes.nullable := rfl

@[simp] theorem Notes.default_relocate (place : String → String) (notes : Notes) :
    (notes.relocate place).default = notes.default := rfl

@[simp] theorem Notes.description_relocate (place : String → String) (notes : Notes) :
    (notes.relocate place).description = notes.description := rfl

theorem relocateAll_eq_map (place : String → String) (nodes : List Node) :
    relocateAll place nodes = nodes.map (Node.relocate place) := by
  induction nodes with
  | nil => rfl
  | cons node rest ih => rw [relocateAll, ih, List.map_cons]

theorem Node.notes_relocate (place : String → String) (node : Node) :
    (node.relocate place).notes = node.notes.relocate place := by
  cases node with
  | array notes items => cases items <;> rfl
  | _ => rfl

@[simp] theorem Node.isNull_relocate (place : String → String) (node : Node) :
    (node.relocate place).isNull = node.isNull := by
  cases node with
  | array notes items => cases items <;> rfl
  | primitive notes kind format => cases kind <;> rfl
  | _ => rfl

@[simp] theorem isEmpty_relocateProperties (place : String → String) (properties : List Property) :
    (relocateProperties place properties).isEmpty = properties.isEmpty := by
  cases properties <;> rfl

mutual

/-- Nothing changes for a schema that stays where it is. -/
theorem Node.relocate_id : ∀ node : Node, node.relocate id = node
  | .primitive .. | .array _ none | .enum .. | .reference .. => rfl
  | .object _ properties _ additional _ => by
    rw [Node.relocate, relocateProperties_id properties, relocateAdditional_id additional]
    rfl
  | .array _ (some items) => by
    rw [Node.relocate, Node.relocate_id items]
    rfl
  | .composite _ _ members _ => by
    rw [Node.relocate, relocateAll_id members]
    rfl

theorem relocateProperties_id :
    ∀ properties : List (PropertyOf Node), relocateProperties id properties = properties
  | [] => rfl
  | ⟨_, node, _⟩ :: rest => by
    rw [relocateProperties, Node.relocate_id node, relocateProperties_id rest]

theorem relocateAdditional_id :
    ∀ additional : AdditionalOf Node, relocateAdditional id additional = additional
  | .undeclared | .flag _ => rfl
  | .schema node => by rw [relocateAdditional, Node.relocate_id node]

theorem relocateAll_id : ∀ nodes : List Node, relocateAll id nodes = nodes
  | [] => rfl
  | node :: rest => by rw [relocateAll, Node.relocate_id node, relocateAll_id rest]

end

/-! ## Extraction -/

/-- A schema and the same one where the schema of a property is replaced by a reference to it. -/
inductive Node.Extracts (property name : String) (schema : Node) : Node → Node → Prop
  | property {notes before required after keys additional discriminator place pointer} :
      Extracts property name schema
        (.object notes (before ++ ⟨property, schema, required⟩ :: after) keys additional
          discriminator)
        (.object notes
          (before ++ ⟨property, .reference (.at place) pointer name, required⟩ :: after) keys
          additional discriminator)
  | member {notes before node node' after discriminator} :
      Extracts property name schema node node' →
      Extracts property name schema
        (.composite notes .allOf (before ++ node :: after) discriminator)
        (.composite notes .allOf (before ++ node' :: after) discriminator)

/-- What becomes of a named schema: that of the owner of the property is changed. -/
def Changes (owner property name : String) (schema : Node) (d e : String × Node) : Prop :=
  e.1 = d.1 ∧
    if d.1 = owner then Node.Extracts property name schema d.2 e.2 else e.2 = d.2

/-- The schemas of two documents. In the second one a schema that the first one has at a property
has a name of its own, declared at any place among the others. -/
structure Graph.Extracts (graph other : Graph) (owner property name : String) (schema : Node) :
    Prop where
  distinct : (graph.definitions.map Prod.fst).Nodup
  owned : owner ∈ graph.definitions.map Prod.fst
  fresh : name ∉ graph.definitions.map Prod.fst
  definitions : ∃ place before after,
    other.definitions = before ++ (name, schema.relocate place) :: after ∧
      List.Forall₂ (Changes owner property name schema) graph.definitions (before ++ after)

end WireModel.Schema
