import WireModel.Types.Basic

/-!
# The table of models

Models with everything about them decided: the attribute of each field, whether it is required
and whether null is allowed. A table keeps its models in the order in which they are written.
-/

namespace WireModel

open Types (WireType)
open Schema (Combination Discriminator Kind)

/-- A field of a record. -/
structure Field where
  /-- The name of the field in instances. -/
  attributeName : String
  /-- The key of the field in the wire form. -/
  wireName : String
  type : WireType
  required : Bool
  nullable : Bool
  default : Option Value
  description : Option String

/-- A model with fields. -/
structure RecordModel where
  name : String
  fields : List Field
  discriminator : Option Discriminator
  parents : List String
  description : Option String

/-- A model of alternatives. -/
structure UnionModel where
  name : String
  mode : Combination
  discriminator : Option Discriminator
  variants : List WireType

/-- A model. -/
inductive Model where
  | record (r : RecordModel)
  | union (u : UnionModel)

/-- An enumeration with a name. -/
structure NamedEnum where
  name : String
  values : List Value
  kind : Kind

/-- All models and named enumerations of a document. -/
structure Table where
  models : List Model
  enums : List NamedEnum

namespace Model

def name : Model → String
  | .record r => r.name
  | .union u => u.name

def discriminator : Model → Option Discriminator
  | .record r => r.discriminator
  | .union u => u.discriminator

def isRecord : Model → Bool
  | .record _ => true
  | .union _ => false

def fields : Model → List Field
  | .record r => r.fields
  | .union _ => []

def variants : Model → List WireType
  | .record _ => []
  | .union u => u.variants

/-- The models that a model refers to, in order and with repetitions. -/
def refs (m : Model) : List String :=
  m.fields.flatMap (·.type.refs) ++ m.variants.flatMap (·.refs) ++
    WireType.targets m.discriminator

/-- The required fields. -/
def requiredFields (m : Model) : List Field := m.fields.filter (·.required)

/-- The field of a wire name. -/
def field? (m : Model) (wireName : String) : Option Field :=
  m.fields.find? (·.wireName == wireName)

end Model

/-- The wire names of the required fields. -/
def RecordModel.requiredNames (r : RecordModel) : List String :=
  (r.fields.filter (·.required)).map (·.wireName)

namespace Table

/-- The model of a name. -/
def get? (table : Table) (name : String) : Option Model :=
  table.models.find? (·.name == name)

def contains (table : Table) (name : String) : Bool := (table.get? name).isSome

def names (table : Table) : List String := table.models.map Model.name

theorem name_of_get? {table : Table} {name : String} {m : Model} (h : table.get? name = some m) :
    m.name = name := by
  simpa using List.find?_some h

theorem mem_of_get? {table : Table} {name : String} {m : Model} (h : table.get? name = some m) :
    m ∈ table.models := List.mem_of_find?_eq_some h

end Table

/-- The model that a discriminator names for a value: the first entry counts. -/
def Schema.Discriminator.target (d : Discriminator) (value : String) : Option String :=
  d.mapping.lookup value

/-- The values that a discriminator has for a model. -/
def Schema.Discriminator.valuesFor (d : Discriminator) (model : String) : List String :=
  (d.mapping.filter (·.2 == model)).map (·.1)

end WireModel
