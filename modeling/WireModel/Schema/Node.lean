import WireModel.Value.Basic

/-!
# Schemas

A schema document as a tree, before any reference is followed. Every node keeps its place in
the document, and objects keep their properties in declaration order.
-/

namespace WireModel.Schema

/-- The kinds of values that are no containers, and the kind that every value has. -/
inductive Kind where
  | string
  | integer
  | number
  | boolean
  | null
  | any
  deriving DecidableEq, Inhabited

def Kind.name : Kind → String
  | .string => "string"
  | .integer => "integer"
  | .number => "number"
  | .boolean => "boolean"
  | .null => "null"
  | .any => "any"

/-- The kind that a schema document names; `any` has no name there. -/
def Kind.ofName? : String → Option Kind
  | "string" => some .string
  | "integer" => some .integer
  | "number" => some .number
  | "boolean" => some .boolean
  | "null" => some .null
  | _ => none

/-- The kind of a value. -/
def Kind.of : Value → Kind
  | .bool _ => .boolean
  | .int _ => .integer
  | .float _ => .number
  | .str _ => .string
  | .null => .null
  | _ => .any

/-- How a schema combines others. -/
inductive Combination where
  | allOf
  | oneOf
  | anyOf
  deriving DecidableEq

def Combination.keyword : Combination → String
  | .allOf => "allOf"
  | .oneOf => "oneOf"
  | .anyOf => "anyOf"

/-- The combinations in the order of precedence. -/
def Combination.all : List Combination := [.allOf, .oneOf, .anyOf]

/-- The property whose value tells the model of a mapping, and the models of its values in
declaration order. -/
structure Discriminator where
  property : String
  mapping : List (String × String)
  deriving DecidableEq

/-- What nodes of every form carry. A default is an optional value, so that a declared null
differs from none. -/
structure Notes where
  path : String
  description : Option String
  nullable : Bool
  default : Option Value

/-- Notes that say nothing but the place. -/
def Notes.at (path : String) : Notes := ⟨path, none, false, none⟩

/-- A property of an object whose schema is of type `ν`. -/
structure PropertyOf (ν : Type) where
  name : String
  node : ν
  required : Bool

/-- What an object schema says about keys that it does not list. -/
inductive AdditionalOf (ν : Type) where
  | undeclared
  | flag (allowed : Bool)
  | schema (node : ν)

/-- A schema. -/
inductive Node where
  | primitive (notes : Notes) (kind : Kind) (format : Option String)
  | object (notes : Notes) (properties : List (PropertyOf Node)) (required : List String)
      (additional : AdditionalOf Node) (discriminator : Option Discriminator)
  | array (notes : Notes) (items : Option Node)
  | enum (notes : Notes) (values : List Value) (kind : Kind)
  | composite (notes : Notes) (mode : Combination) (members : List Node)
      (discriminator : Option Discriminator)
  | reference (notes : Notes) (pointer target : String)

abbrev Property := PropertyOf Node

abbrev Additional := AdditionalOf Node

def Node.notes : Node → Notes
  | .primitive notes .. | .object notes .. | .array notes .. | .enum notes ..
  | .composite notes .. | .reference notes .. => notes

/-- Where a node stands in the document. -/
def Node.path (node : Node) : String := node.notes.path

/-- Whether a node says that null is allowed. -/
def Node.nullable (node : Node) : Bool := node.notes.nullable

/-- The node of null alone. -/
def Node.isNull : Node → Bool
  | .primitive _ .null _ => true
  | _ => false

theorem Kind.ofName?_name {kind : Kind} (h : kind ≠ .any) : Kind.ofName? kind.name = some kind := by
  cases kind <;> first | rfl | exact absurd rfl h

theorem Combination.mem_all (c : Combination) : c ∈ Combination.all := by
  cases c <;> simp [Combination.all]

end WireModel.Schema
