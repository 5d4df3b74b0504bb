import WireModel.Types.Basic
import WireModel.Types.Family
import WireModel.Warning

/-!
# From schemas to types

References to objects and unions become names and are not followed. All other schemas are
aliases: what they stand for is put in place of the reference, so a chain of aliases, or of
objects that extend each other, must not return to its start. Objects inside other schemas
become models of their own under new names.

The functions on nodes take the meaning of names as an argument; `definition` closes the
recursion. Every name on the way to it is a different one, so the number of definitions
bounds its depth.
-/

namespace WireModel.Types

open Schema

/-! ## Faults -/

/-- What is wrong with the references of a document. -/
inductive Fault where
  | unknownReference (pointer location : String)
  /-- A schema that is no model leads back to itself. -/
  | circularReference (target location : String)
  /-- An object extends itself. -/
  | circularAllOf (target location : String)
  | parentNotObject (target location : String)
  | memberNotObject (location : String)
  | noVariant (mode : Combination) (location : String)
  | variantNotModel (location : String)
  | emptyEnum (name location : String)
  deriving DecidableEq

namespace Fault

def location : Fault → String
  | .unknownReference _ location | .circularReference _ location | .circularAllOf _ location
  | .parentNotObject _ location | .memberNotObject location | .noVariant _ location
  | .variantNotModel location | .emptyEnum _ location => location

/-- The message without the location. -/
def reason : Fault → String
  | .unknownReference pointer _ => "unknown reference '" ++ pointer ++ "'"
  | .circularReference target _ =>
    "circular reference through non-model schema '" ++ target ++ "'"
  | .circularAllOf target _ => "circular allOf through '" ++ target ++ "'"
  | .parentNotObject target _ => "allOf member '" ++ target ++ "' is not an object schema"
  | .memberNotObject _ => "allOf members must be object schemas or references to them"
  | .noVariant mode _ => "'" ++ mode.keyword ++ "' has no non-null variant"
  | .variantNotModel _ => "every variant of a discriminated union must reference a model"
  | .emptyEnum name _ => "enum '" ++ name ++ "' has no values"

def message (fault : Fault) : String :=
  if fault.location.isEmpty then fault.reason else fault.location ++ ": " ++ fault.reason

end Fault

/-! ## Progress -/

/-- What is known so far. -/
structure Progress where
  /-- Named schemas with their meaning. -/
  known : List (String × Definition) := []
  /-- Models made from objects inside other schemas, in order. -/
  hoisted : List (String × Definition) := []
  /-- Names in use. -/
  taken : List String := []
  warnings : List Warning := []

/-- A computation that adds to what is known. -/
abbrev Resolve := ExceptT Fault (StateM Progress)

/-- What the types of a schema depend on. -/
structure Scope where
  graph : Graph
  /-- The names that are being resolved. -/
  active : List String
  /-- The meaning of a name that is not active. -/
  meaning : String → Resolve Definition

/-! ## Shapes of schemas -/

/-- Whether a schema is a model: references to it are not followed. -/
def isModel : Node → Bool
  | .object _ properties _ additional discriminator =>
    !properties.isEmpty || discriminator.isSome ||
      (match additional with
        | .undeclared | .flag false => true
        | _ => false)
  | .composite _ .allOf _ _ => true
  | .composite _ _ members _ => 1 < (members.filter fun m => !m.isNull).length
  | _ => false

/-- Whether a model says that null is allowed. -/
def declaresNull : Node → Bool
  | .composite notes mode members _ =>
    notes.nullable || (mode != .allOf && members.any Node.isNull)
  | node => node.nullable

/-- The fields of an object, one added: in its place if it is there, otherwise at the end. -/
def putField (f : Field) : List Field → List Field
  | [] => [f]
  | g :: rest => if g.name == f.name then f :: rest else g :: putField f rest

/-- Makes the fields of some names required. -/
def require (names : List String) (fields : List Field) : List Field :=
  fields.map fun f =>
    match f.type with
    | .optional inner => if names.contains f.name then { f with type := inner } else f
    | _ => f

/-! ## Names -/

/-- The meaning of a reference. -/
def reference (scope : Scope) (nullable : Bool) (pointer target location : String) :
    Resolve WireType := do
  match scope.graph.get? target with
  | none => throw (.unknownReference pointer location)
  | some node =>
    if isModel node then
      return (WireType.orNullIf (declaresNull node) (.model target)).orNullIf nullable
    else if scope.active.contains target then throw (.circularReference target location)
    else
      match ← scope.meaning target with
      | .type t => return t.orNullIf nullable
      | .object o => return (WireType.model o.name).orNullIf nullable

/-- A new name for a model that has none. -/
def newName (base : String) : Resolve String := do
  let progress ← get
  let name := Naming.uniqueName (if base.isEmpty then "InlineModel" else base) progress.taken
  set { progress with taken := name :: progress.taken }
  return name

/-- Adds a model that had no name. -/
def addHoisted (o : ObjectType) : Resolve Unit :=
  modify fun progress =>
    { progress with hoisted := progress.hoisted ++ [(o.name, .object o)] }

/-- The fields of the object that an `allOf` refers to. -/
def parent (scope : Scope) (pointer target location : String) : Resolve ObjectType := do
  if !scope.graph.contains target then throw (.unknownReference pointer location)
  else if scope.active.contains target then throw (.circularAllOf target location)
  else
    match ← scope.meaning target with
    | .object o => return o
    | .type _ => throw (.parentNotObject target location)

/-! ## Unions -/

/-- The discriminator of a union: explicit entries first, then its variants by name. -/
def unionDiscriminator (declared : Discriminator) (variants : List WireType)
    (location : String) : Resolve Discriminator := do
  let names ← variants.mapM fun
    | .model name => pure name
    | _ => throw (.variantNotModel location)
  return ⟨declared.property, completed declared.mapping names⟩

/-- A union of resolved variants; a single variant stands for itself. -/
def unionOf (notes : Notes) (mode : Combination) (discriminator : Option Discriminator)
    (name : Option String) (variants : List WireType) : Resolve WireType := do
  match variants with
  | [] => throw (.noVariant mode notes.path)
  | [variant] => return variant
  | _ =>
    match discriminator with
    | none => return .union name mode none variants
    | some declared =>
      return .union name mode (some (← unionDiscriminator declared variants notes.path)) variants

/-! ## Nodes -/

/-- What the members of an `allOf` come to. -/
structure Merge where
  fields : List Field := []
  parents : List String := []
  required : List String := []
  description : Option String := none

/-- Adds the fields of a member; a later field takes the place of an earlier one. -/
def Merge.add (merge : Merge) (o : ObjectType) : Merge :=
  { merge with
    fields := o.fields.foldl (fun fields f => putField f fields) merge.fields
    description := merge.description.orElse fun _ => o.description }

/-- The object that a merge makes. -/
def Merge.toObject (merge : Merge) (name : String) (discriminator : Option Discriminator) :
    ObjectType :=
  ⟨name, require merge.required merge.fields, merge.parents, discriminator, merge.description⟩

/-- A warning of a resolution. -/
def warn (w : Warning) : Resolve Unit :=
  modify fun progress => { progress with warnings := progress.warnings ++ [w] }

/-- Warns about a schema for other keys that is not used. -/
def warnAdditional (path : String) (properties : List Property) : Additional → Resolve Unit
  | .schema _ => unless properties.isEmpty do warn (.ignoredAdditional path)
  | _ => pure ()

/-- The field of a property of some type. -/
def fieldOf (name : String) (required : Bool) (notes : Notes) (t : WireType) : Field :=
  ⟨name, if required then t else .optional t, notes.default, notes.description⟩

mutual

/-- The type of a schema inside the model `owner`; `hint` tells the place, for a name. -/
def typeOf (scope : Scope) (owner hint : String) : Node → Resolve WireType
  | .reference notes pointer target => reference scope notes.nullable pointer target notes.path
  | .primitive notes kind format => return (WireType.primitive kind format).orNullIf notes.nullable
  | .enum notes values kind => do
    if values.isEmpty then throw (.emptyEnum (owner ++ hint) notes.path)
    return (WireType.enum none values kind).orNullIf notes.nullable
  | .array notes none => return (WireType.sequence .any).orNullIf notes.nullable
  | .array notes (some items) => do
    let element ← typeOf scope owner (hint ++ "Item") items
    return (WireType.sequence element).orNullIf notes.nullable
  | .object notes properties _ additional discriminator => do
    if properties.isEmpty && discriminator.isNone then
      let value ← otherType scope owner hint additional
      return (WireType.mapping value).orNullIf notes.nullable
    else
      let name ← newName (owner ++ hint)
      let fields ← fieldsOf scope name properties
      warnAdditional notes.path properties additional
      addHoisted ⟨name, fields, [], none, notes.description⟩
      return (WireType.model name).orNullIf notes.nullable
  | .composite notes .allOf [.reference inner pointer target] _ => do
    let t ← reference scope inner.nullable pointer target inner.path
    return t.orNullIf notes.nullable
  | .composite notes .allOf members _ => do
    let name ← newName (owner ++ hint)
    let merge ← mergeOf scope name { description := notes.description } members
    addHoisted (merge.toObject name none)
    return (WireType.model name).orNullIf notes.nullable
  | .composite notes mode members discriminator => do
    let (variants, nullable) ← variantsOf scope owner hint 1 members
    let t ← unionOf notes mode discriminator none variants
    return t.orNullIf (notes.nullable || nullable)

/-- The type of the values under keys that are not listed. -/
def otherType (scope : Scope) (owner hint : String) : AdditionalOf Node → Resolve WireType
  | .schema node => typeOf scope owner (hint ++ "Value") node
  | _ => return .any

/-- The fields of properties. -/
def fieldsOf (scope : Scope) (owner : String) : List (PropertyOf Node) → Resolve (List Field)
  | [] => return []
  | ⟨name, node, required⟩ :: rest => do
    let t ← typeOf scope owner (Naming.pascalCase name) node
    let fields ← fieldsOf scope owner rest
    return fieldOf name required node.notes t :: fields

/-- The types of a union's members, null left out, and whether null is among them or allowed
by one of them. -/
def variantsOf (scope : Scope) (owner hint : String) (index : Nat) :
    List Node → Resolve (List WireType × Bool)
  | [] => return ([], false)
  | node :: rest => do
    if node.isNull then
      let (variants, _) ← variantsOf scope owner hint (index + 1) rest
      return (variants, true)
    else
      let t ← typeOf scope owner (hint ++ "Option" ++ Decimal.ofNat index) node
      let (variants, nullable) ← variantsOf scope owner hint (index + 1) rest
      return (t.strip :: variants, t.isNullable || nullable)

/-- Merges the members of an `allOf` one after another. -/
def mergeOf (scope : Scope) (name : String) (merge : Merge) : List Node → Resolve Merge
  | [] => return merge
  | .reference notes pointer target :: rest => do
    let o ← parent scope pointer target notes.path
    let merge := merge.add o
    mergeOf scope name { merge with parents := merge.parents ++ [target] } rest
  | .object notes properties required _ _ :: rest => do
    let fields ← fieldsOf scope name properties
    let merge := merge.add ⟨name, fields, [], none, notes.description⟩
    mergeOf scope name { merge with required := merge.required ++ required } rest
  | .composite notes .allOf members _ :: rest => do
    let inner ← mergeOf scope name { description := notes.description } members
    mergeOf scope name (merge.add (inner.toObject name none)) rest
  | node :: _ => throw (.memberNotObject node.path)

end

/-! ## Definitions -/

/-- The meaning of a named schema. A union takes the name, and its nullability is left to the
references to it. -/
def definitionOf (scope : Scope) (name : String) (node : Node) : Resolve Definition := do
  if isModel node then
    match node with
    | .object notes properties _ additional _ =>
      let fields ← fieldsOf scope name properties
      warnAdditional notes.path properties additional
      return .object ⟨name, fields, [], familyDiscriminator scope.graph name, notes.description⟩
    | .composite notes .allOf members _ =>
      let merge ← mergeOf scope name { description := notes.description } members
      return .object (merge.toObject name (familyDiscriminator scope.graph name))
    | .composite notes mode members discriminator =>
      let (variants, _) ← variantsOf scope name "" 1 members
      return .type (← unionOf notes mode discriminator (some name) variants)
    | other => return .type (← typeOf scope name "" other)
  else
    match node with
    | .enum notes values kind =>
      if values.isEmpty then throw (.emptyEnum name notes.path)
      return .type ((WireType.enum (some name) values kind).orNullIf notes.nullable)
    | other => return .type (← typeOf scope name "" other)

/-- The meaning of a name while others are being resolved; what is known is not computed
again. -/
def definition (graph : Graph) : Nat → List String → String → Resolve Definition
  | 0, _, name => throw (.circularReference name "")
  | depth + 1, active, name => do
    match (← get).known.lookup name, graph.get? name with
    | some known, _ => return known
    | none, none => throw (.unknownReference name "")
    | none, some node =>
      let scope : Scope :=
        { graph := graph, active := name :: active, meaning := definition graph depth (name :: active) }
      let result ← definitionOf scope name node
      modify fun progress => { progress with known := (name, result) :: progress.known }
      return result

/-- The meanings of all named schemas in declaration order, and after them the models that
had no name. -/
def resolveAll (graph : Graph) : Resolve (List (String × Definition)) := do
  let named ← graph.definitions.mapM fun (name, _) => do
    return (name, ← definition graph graph.definitions.length [] name)
  return named ++ (← get).hoisted

/-- The types of a document's schemas, with warnings. -/
def resolve (graph : Graph) : Logged Fault (List (String × Definition)) := fun log =>
  let start : Progress := { taken := graph.definitions.map (·.1), warnings := log }
  let (result, progress) := (resolveAll graph).run.run start
  (result, progress.warnings)

end WireModel.Types
