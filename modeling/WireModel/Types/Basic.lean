import WireModel.Schema.Node

/-!
# Types

What the values of a field look like once references are resolved. A type never holds a model:
it refers to one by name, which is what makes models that contain themselves finite.
-/

namespace WireModel.Types

open Schema

/-- The type of a value. -/
inductive WireType where
  | primitive (kind : Kind) (format : Option String)
  /-- May be absent from the wire form. -/
  | optional (inner : WireType)
  /-- May be an explicit null. -/
  | nullable (inner : WireType)
  | sequence (element : WireType)
  /-- A mapping with text keys. -/
  | mapping (value : WireType)
  | enum (name : Option String) (values : List Value) (kind : Kind)
  | model (name : String)
  /-- Alternatives, told apart by a discriminator or by trying them in order. -/
  | union (name : Option String) (mode : Combination) (discriminator : Option Discriminator)
      (variants : List WireType)
  deriving Inhabited

namespace WireType

/-- The type of everything. -/
def any : WireType := .primitive .any none

/-- A type without the wrappers around it. -/
def strip : WireType → WireType
  | .optional inner | .nullable inner => inner.strip
  | t => t

/-- Whether one of the wrappers around a type is `optional`. -/
def isOptional : WireType → Bool
  | .optional _ => true
  | .nullable inner => inner.isOptional
  | _ => false

/-- Whether one of the wrappers around a type is `nullable`. -/
def isNullable : WireType → Bool
  | .nullable _ => true
  | .optional inner => inner.isNullable
  | _ => false

/-- Allows null, once. -/
def orNull : WireType → WireType
  | .nullable inner => .nullable inner
  | t => .nullable t

/-- Allows null if the flag says so. -/
def orNullIf (allowed : Bool) (t : WireType) : WireType := if allowed then t.orNull else t

/-- The models that a discriminator leads to. -/
def targets : Option Discriminator → List String
  | some d => d.mapping.map (·.2)
  | none => []

mutual

/-- The models that a type refers to, in order and with repetitions. -/
def refs : WireType → List String
  | .model name => [name]
  | .optional inner | .nullable inner => inner.refs
  | .sequence element => element.refs
  | .mapping value => value.refs
  | .union _ _ discriminator variants => refsOfAll variants ++ targets discriminator
  | .primitive .. | .enum .. => []

def refsOfAll : List WireType → List String
  | [] => []
  | t :: rest => t.refs ++ refsOfAll rest

end

/-! ## Laws -/

@[simp] theorem strip_orNull (t : WireType) : t.orNull.strip = t.strip := by
  cases t <;> rfl

@[simp] theorem isNullable_orNull (t : WireType) : t.orNull.isNullable = true := by
  cases t <;> rfl

theorem refs_orNull (t : WireType) : t.orNull.refs = t.refs := by
  cases t <;> simp [orNull, refs]

/-! ## Induction -/

/-- A union holds its variants in a list; here the claim is given for each of them. -/
@[elab_as_elim]
theorem induct {motive : WireType → Prop}
    (primitive : ∀ kind format, motive (.primitive kind format))
    (optional : ∀ inner, motive inner → motive (.optional inner))
    (nullable : ∀ inner, motive inner → motive (.nullable inner))
    (sequence : ∀ element, motive element → motive (.sequence element))
    (mapping : ∀ value, motive value → motive (.mapping value))
    (enum : ∀ name values kind, motive (.enum name values kind))
    (model : ∀ name, motive (.model name))
    (union : ∀ name mode d variants, (∀ t ∈ variants, motive t) →
      motive (.union name mode d variants))
    (t : WireType) : motive t :=
  @WireType.rec motive (fun ts => ∀ t ∈ ts, motive t) primitive optional nullable sequence mapping
    enum model union (by simp) (fun _ _ first rest => by simpa using ⟨first, rest⟩) t

/-! ## Parts -/

/-- A type is a part of another one: that itself, or inside of it. -/
inductive Part (part : WireType) : WireType → Prop
  | refl : Part part part
  | optional {t} : Part part t → Part part (.optional t)
  | nullable {t} : Part part t → Part part (.nullable t)
  | sequence {t} : Part part t → Part part (.sequence t)
  | mapping {t} : Part part t → Part part (.mapping t)
  | variant {name mode discriminator variants t} : t ∈ variants → Part part t →
      Part part (.union name mode discriminator variants)

/-- The types right inside of a type. -/
def inside : WireType → List WireType
  | .optional t | .nullable t | .sequence t | .mapping t => [t]
  | .union _ _ _ variants => variants
  | _ => []

theorem part_of_inside {part t u : WireType} (mem : u ∈ t.inside) (h : Part part u) :
    Part part t := by
  cases t with
  | optional => exact .optional (List.mem_singleton.mp mem ▸ h)
  | nullable => exact .nullable (List.mem_singleton.mp mem ▸ h)
  | sequence => exact .sequence (List.mem_singleton.mp mem ▸ h)
  | mapping => exact .mapping (List.mem_singleton.mp mem ▸ h)
  | union => exact .variant mem h
  | _ => cases mem

theorem eq_or_inside_of_part {part t : WireType} (h : Part part t) :
    part = t ∨ ∃ u ∈ t.inside, Part part u := by
  cases h with
  | refl => exact .inl rfl
  | optional h | nullable h | sequence h | mapping h => exact .inr ⟨_, List.mem_cons_self, h⟩
  | variant mem h => exact .inr ⟨_, mem, h⟩

end WireType

/-- A field of an object; whether it is required and whether null is allowed are told by the
wrappers of its type. -/
structure Field where
  name : String
  type : WireType
  default : Option Value
  description : Option String

namespace Field

def required (f : Field) : Bool := !f.type.isOptional

def nullable (f : Field) : Bool := f.type.isNullable

end Field

/-- An object with the fields that it declares and inherits. -/
structure ObjectType where
  name : String
  fields : List Field
  parents : List String
  discriminator : Option Discriminator
  description : Option String

/-- The models that an object refers to, in order and with repetitions. -/
def ObjectType.refs (o : ObjectType) : List String :=
  o.fields.flatMap (·.type.refs) ++ WireType.targets o.discriminator

/-- What a name stands for: an object, or any other type. -/
inductive Definition where
  | object (o : ObjectType)
  | type (t : WireType)

/-- The models that a definition refers to. -/
def Definition.refs : Definition → List String
  | .object o => o.refs
  | .type t => t.refs

end WireModel.Types
