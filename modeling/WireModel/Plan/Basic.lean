import WireModel.Schema.Node
import WireModel.Value.Equality

/-!
# Plans

A plan says how one value is read from the wire form and written back to it. Plans refer to
models by name only, so the plan of a model that contains itself is finite. A predicate tells
at a glance whether a value belongs to an alternative of a union.
-/

namespace WireModel

open Schema (Kind)

/-- A shallow check of a value. -/
inductive Predicate where
  /-- In the wire form a mapping with the required keys, otherwise an instance of the model. -/
  | record (model : String) (required : List String)
  | primitive (kind : Kind)
  | sequence
  | mapping
  | enumMember (values : List Value)
  | anyOf (predicates : List Predicate)
  deriving Inhabited

/-- How a value is decoded and encoded. -/
inductive Plan where
  /-- The value stays as it is. -/
  | pass (kind : Kind)
  | checkEnum (values : List Value) (name : Option String)
  /-- Null stays as it is. -/
  | nullable (inner : Plan)
  | eachElement (element : Plan)
  | eachValue (value : Plan)
  /-- The plan of a model. -/
  | call (model : String)
  /-- The value of a property selects the model. -/
  | dispatch (property : String) (cases : List (String × String))
  /-- The first option whose predicate holds. -/
  | firstMatch (options : List (Predicate × Plan)) (description : String)
  deriving Inhabited

namespace Predicate

mutual

/-- Whether two predicates are the same. The values of enumerations are compared as parts of
containers. -/
def same : Predicate → Predicate → Bool
  | .record m r, .record n s => m == n && r == s
  | .primitive k, .primitive l => k == l
  | .sequence, .sequence | .mapping, .mapping => true
  | .enumMember vs, .enumMember ws => Value.alikeList vs ws
  | .anyOf ps, .anyOf qs => sameAll ps qs
  | _, _ => false

def sameAll : List Predicate → List Predicate → Bool
  | [], [] => true
  | p :: ps, q :: qs => same p q && sameAll ps qs
  | _, _ => false

end

/-- Whether an earlier alternative of a union takes every value of a later one. -/
def shadows (earlier later : Predicate) : Bool :=
  if earlier.same later then true
  else
    match earlier, later with
    | .primitive .any, _ => true
    | .primitive .number, .primitive .integer => true
    | .primitive kind, .enumMember values =>
      !values.isEmpty && values.all fun v => Kind.of v == kind && Kind.of v != .null
    | .record _ required, .record _ others => required.all others.contains
    | .mapping, .record _ _ => true
    | _, _ => false

/-! ## Laws -/

theorem same_sequence_iff {p : Predicate} : same .sequence p = true ↔ p = .sequence := by
  cases p <;> simp [same]

theorem shadows_any (p : Predicate) : shadows (.primitive .any) p = true := by
  unfold shadows
  split <;> rfl

end Predicate
end WireModel
