import WireModel.Plan.Basic
import WireModel.Table.Basic
import WireModel.Text.Printable
import WireModel.Warning

/-!
# Contracts

The contract of a model holds the plans of its fields, or of its alternatives. Contracts are
derived from a table alone. An alternative that never gets a value because an earlier one takes
it is worth a warning.
-/

namespace WireModel

open Types (WireType)
open Schema (Discriminator)

/-- How a field is read from and written to the wire form. -/
structure FieldContract where
  attributeName : String
  wireName : String
  plan : Plan
  required : Bool
  nullable : Bool
  default : Option Value

/-- The contract of a model with fields. A discriminator's entry for the model itself leads to
these fields. -/
structure RecordContract where
  name : String
  fields : List FieldContract
  required : List String
  discriminator : Option Discriminator

/-- The contract of a model of alternatives. -/
structure UnionContract where
  name : String
  body : Plan

/-- The contract of a model. -/
inductive Contract where
  | record (r : RecordContract)
  | union (u : UnionContract)

def Contract.name : Contract → String
  | .record r => r.name
  | .union u => u.name

/-- The contracts of all models, in the order of their table. -/
abbrev Contracts := List Contract

/-- The contract of a name. -/
def Contracts.get? (contracts : Contracts) (name : String) : Option Contract :=
  contracts.find? (·.name == name)

namespace Contract

/-- A name that no model of the table has. -/
inductive Fault where
  | unknownModel (name : String)
  deriving DecidableEq

def Fault.message : Fault → String
  | .unknownModel name => Text.quoted name

/-! ## Predicates -/

mutual

/-- The predicate that selects a type among others; `ofModel` gives that of a model. -/
def predicateOf (ofModel : String → Except Fault Predicate) : WireType → Except Fault Predicate
  | .optional inner | .nullable inner => predicateOf ofModel inner
  | .primitive kind _ => .ok (.primitive kind)
  | .enum _ values _ => .ok (.enumMember values)
  | .sequence _ => .ok .sequence
  | .mapping _ => .ok .mapping
  | .model name => ofModel name
  | .union _ _ _ variants => (predicatesOf ofModel variants).map .anyOf

def predicatesOf (ofModel : String → Except Fault Predicate) :
    List WireType → Except Fault (List Predicate)
  | [] => .ok []
  | t :: rest => do
    let p ← predicateOf ofModel t
    let ps ← predicatesOf ofModel rest
    return p :: ps

end

/-- The predicate of a model: that of a union holds if one of its variants' does. A union that
is met again on the way adds nothing; unions on the way are different, so the number of models
bounds its length. -/
def modelPredicate (table : Table) : Nat → List String → String → Except Fault Predicate
  | 0, _, _ => .ok (.anyOf [])
  | depth + 1, seen, name =>
    match table.get? name with
    | none => .error (.unknownModel name)
    | some (.record r) => .ok (.record r.name r.requiredNames)
    | some (.union u) =>
      if seen.contains name then .ok (.anyOf [])
      else (predicatesOf (modelPredicate table depth (name :: seen)) u.variants).map .anyOf

/-- The predicate that selects a type among others. -/
def predicateFor (table : Table) (t : WireType) : Except Fault Predicate :=
  predicateOf (modelPredicate table (table.models.length + 1) []) t

/-! ## Plans -/

/-- The pairs of alternatives of which the earlier one takes every value of the later one,
counted from one. -/
def overlaps (predicates : List Predicate) : List (Nat × Nat) :=
  predicates.zipIdx.flatMap fun (earlier, i) =>
    (predicates.zipIdx.drop (i + 1)).filterMap fun (later, j) =>
      if earlier.shadows later then some (i + 1, j + 1) else none

/-- Warns about alternatives that never get a value. -/
def warnOverlaps (context : String) (predicates : List Predicate) : Logged Fault Unit :=
  (overlaps predicates).forM fun (i, j) => Logged.warn (.overlap context i j)

/-- A result without warnings. -/
def quietly {α : Type} : Except Fault α → Logged Fault α
  | .ok a => pure a
  | .error fault => throw fault

mutual

/-- The plan of a type; `context` names its place. -/
def planOf (table : Table) (context : String) : WireType → Logged Fault Plan
  | .primitive kind _ => return .pass kind
  | .enum name values _ => return .checkEnum values name
  | .nullable inner => return .nullable (← planOf table context inner)
  | .optional inner => planOf table context inner
  | .sequence element => return .eachElement (← planOf table (context ++ "[]") element)
  | .mapping value => return .eachValue (← planOf table (context ++ "\x7b\x7d") value)
  | .model name => return .call name
  | .union _ _ (some d) _ => return .dispatch d.property d.mapping
  | .union name _ none variants => do
    let context := name.getD context
    let options ← optionsOf table context variants
    warnOverlaps context (options.map (·.1))
    return .firstMatch options context

/-- The options of a union's variants. -/
def optionsOf (table : Table) (context : String) :
    List WireType → Logged Fault (List (Predicate × Plan))
  | [] => return []
  | t :: rest => do
    let p ← quietly (predicateFor table t)
    let plan ← planOf table context t
    let options ← optionsOf table context rest
    return (p, plan) :: options

end

/-! ## Contracts -/

/-- The contract of a field of a model. -/
def ofField (table : Table) (model : String) (f : Field) : Logged Fault FieldContract := do
  let plan ← planOf table (model ++ "." ++ f.wireName) f.type
  return ⟨f.attributeName, f.wireName, plan, f.required, f.nullable, f.default⟩

/-- The contract of a model. -/
def ofModel (table : Table) : Model → Logged Fault Contract
  | .record r => do
    let fields ← r.fields.mapM (ofField table r.name)
    return .record ⟨r.name, fields, r.requiredNames, r.discriminator⟩
  | .union u => do
    let body ← planOf table u.name (.union (some u.name) u.mode u.discriminator u.variants)
    return .union ⟨u.name, body⟩

/-- The contracts of a table. -/
def derive (table : Table) : Logged Fault Contracts := table.models.mapM (ofModel table)

end Contract
end WireModel
