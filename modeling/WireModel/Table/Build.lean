import WireModel.Options
import WireModel.Table.Basic

/-!
# Building the table

Records are made from resolved objects one after another. Then every name that a model refers
to has to be in the table, and the property of every discriminator a field of the records that
it leads to.
-/

namespace WireModel.Table

open Types (ObjectType Definition WireType)

/-- Why there is no table. -/
inductive Fault where
  | requiredWithDefault (model field : String)
  | duplicateField (model field : String)
  | unresolved (names : List String)
  | targetNotRecord (model target : String)
  | propertyMissing (property model target : String)
  | options (misuse : Options.Misuse)
  deriving DecidableEq

def Fault.message : Fault → String
  | .requiredWithDefault model field =>
    "field '" ++ field ++ "' of model '" ++ model ++ "' is required and has a default value"
  | .duplicateField model field =>
    "model '" ++ model ++ "' declares field '" ++ field ++ "' more than once"
  | .unresolved names => "unresolved model references: " ++ String.intercalate ", " names
  | .targetNotRecord model target =>
    "discriminator of '" ++ model ++ "' maps to '" ++ target ++ "', which is not an object model"
  | .propertyMissing property model target =>
    "discriminator property '" ++ property ++ "' of '" ++ model ++ "' is missing from '" ++
      target ++ "'"
  | .options misuse => misuse.message

/-- Stops at an option of the wrong kind. -/
def ofOption {α : Type} (result : Except Options.Misuse α) : Except Fault α :=
  result.mapError .options

/-! ## Fields -/

/-- The field of a record, added behind the others unless the options leave it out. A required
field with a default is a fault, or optional if the options say so. -/
def addField (options : Options) (model : String) (fields : List Field) (f : Types.Field) :
    Except Fault (List Field) := do
  if ← ofOption (options.ignoresField f.name) then return fields
  let conflict := f.required && f.default.isSome
  if conflict && !options.requiredWithDefault.isText "optional" then
    throw (.requiredWithDefault model f.name)
  let attributeName := Naming.attributeName f.name
  if fields.any fun g => g.wireName == f.name || g.attributeName == attributeName then
    throw (.duplicateField model f.name)
  return fields ++ [⟨attributeName, f.name, f.type.strip, f.required && !conflict, f.nullable,
    f.default, f.description⟩]

/-- The record of an object. -/
def recordOf (options : Options) (name : String) (o : ObjectType) : Except Fault RecordModel := do
  let fields ← o.fields.foldlM (addField options name) []
  return ⟨name, fields, o.discriminator, o.parents, o.description⟩

/-- The model of a definition, if it has one: objects and unions are models. -/
def modelOf (options : Options) (name : String) (definition : Definition) :
    Except Fault (Option Model) :=
  match definition with
  | .object o => (recordOf options name o).map fun r => some (.record r)
  | .type (.union _ mode discriminator variants) =>
    .ok (some (.union ⟨name, mode, discriminator, variants⟩))
  | .type _ => .ok none

/-- The enumeration of a definition, if it has the name of the definition. -/
def enumOf (name : String) : Definition → Option NamedEnum
  | .type t =>
    match t.strip with
    | .enum (some n) values kind => if n == name then some ⟨name, values, kind⟩ else none
    | _ => none
  | .object _ => none

/-! ## Checks -/

/-- The names that models refer to and that no model has. -/
def missingNames (models : List Model) : List String :=
  (models.flatMap Model.refs).filter fun name => !models.any (·.name == name)

/-- Whether a discriminator of a model can be used to reach one of its targets. -/
def checkTarget (models : List Model) (model : String) (d : Schema.Discriminator)
    (target : String) : Except Fault Unit :=
  match models.find? (·.name == target) with
  | some (.record r) =>
    if r.fields.any (·.wireName == d.property) then .ok ()
    else .error (.propertyMissing d.property model target)
  | _ => .error (.targetNotRecord model target)

/-- Whether the discriminator of a model can be used. -/
def checkDiscriminator (models : List Model) (m : Model) : Except Fault Unit :=
  match m.discriminator with
  | none => .ok ()
  | some d => d.mapping.forM fun (_, target) => checkTarget models m.name d target

/-! ## Order -/

/-- The models that the options name, each once, and then the others. -/
def ordered (first : List String) (models : List Model) : List Model :=
  let front := first.eraseDups.filterMap fun name => models.find? (·.name == name)
  front ++ models.filter fun m => !first.contains m.name

/-- The table of resolved definitions. -/
def build (options : Options) (definitions : List (String × Definition)) :
    Except Fault Table := do
  let ignored ← ofOption options.ignoredClasses
  let kept := definitions.filter fun (name, _) => !ignored.contains name
  let models ← kept.filterMapM fun (name, definition) => modelOf options name definition
  let missing := Text.sortedDistinct (missingNames models)
  unless missing.isEmpty do throw (.unresolved missing)
  models.forM (checkDiscriminator models)
  let first ← ofOption options.firstClasses
  return ⟨ordered first models, kept.filterMap fun (name, definition) => enumOf name definition⟩

theorem ordered_nil (models : List Model) : ordered [] models = models := by
  simp [ordered]

end WireModel.Table
