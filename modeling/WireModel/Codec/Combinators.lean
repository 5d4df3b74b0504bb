import WireModel.Codec.Fault
import WireModel.Schema.Node
import WireModel.Value.Equality

/-!
# Combinators

Codecs turn one value into another, in either direction; these build larger ones from smaller
ones. An element of a list or a mapping may be null only if its codec takes null.
-/

namespace WireModel

/-- A function on values that knows its place and whether it takes null. -/
structure Codec where
  acceptsNull : Bool := false
  run : Value → Codec.Path → Codec.Outcome Value

namespace Codec

/-! ## Checks -/

/-- Whether a value is a mapping with all of some keys. -/
def hasRequired (names : List String) : Value → Bool
  | .map entries => names.all fun name => Value.hasKey name entries
  | _ => false

/-- Whether a value is of a kind; a Boolean is no number. -/
def isKind : Schema.Kind → Value → Bool
  | .any, _ => true
  | .string, .str _ => true
  | .integer, .int _ => true
  | .number, .int _ | .number, .float _ => true
  | .boolean, .bool _ => true
  | .null, .null => true
  | _, _ => false

/-- Whether a value is an instance of a model. -/
def isInstanceOf (model : String) : Value → Bool
  | .record m _ => m == model
  | _ => false

/-- The entries of a value that has to be a mapping for a model. -/
def requireMapping (model : String) (v : Value) (path : Path) : Outcome (List (Value × Value)) :=
  match v with
  | .map entries => .ok entries
  | _ => .fail path (.notObjectFor model v.kindName)

/-! ## Values -/

/-- Leaves every value as it is. -/
def identity : Codec := ⟨false, fun v _ => .ok v⟩

/-- Takes the values of an enumeration. -/
def enumOf (values : List Value) : Codec where
  run v path :=
    if v.member values then .ok v else .failAbout (v :: values) path (.unknownMember v values)

/-- Lets null through. -/
def nullable (c : Codec) : Codec where
  acceptsNull := true
  run v path := if v.isNull then .ok .null else c.run v path

/-- Runs a codec on an element. -/
def element (c : Codec) (path : Path) (v : Value) : Outcome Value :=
  if v.isNull && !c.acceptsNull then .fail path .nullElement else c.run v path

/-- Runs a codec on each element from an index on. -/
def elements (c : Codec) (path : Path) : Nat → List Value → Outcome (List Value)
  | _, [] => .ok []
  | i, v :: rest => do
    let w ← c.element (path.push (.index i)) v
    let ws ← elements c path (i + 1) rest
    return w :: ws

/-- Runs a codec on each value of a mapping. The place of a value shows its key. -/
def entries (c : Codec) (path : Path) : List (Value × Value) → Outcome (List (Value × Value))
  | [] => .ok []
  | (k, v) :: rest => do
    unless k.isTellable do .fail path .overlong
    let w ← c.element (path.push (.key k)) v
    let ws ← entries c path rest
    return (k, w) :: ws

/-- Takes lists and tuples element by element. -/
def listOf (c : Codec) : Codec where
  run v path :=
    match v.elements? with
    | some items => (c.elements path 0 items).map .list
    | none => .fail path (.notArray v.kindName)

/-- Takes mappings value by value. -/
def dictOf (c : Codec) : Codec where
  run v path :=
    match v.entries? with
    | some members => (c.entries path members).map .map
    | none => .fail path (.notObject v.kindName)

/-! ## Alternatives -/

/-- The codec of the first option whose check holds. -/
def firstMatch (options : List ((Value → Bool) × Codec)) (description : String) : Codec where
  run v path :=
    match options.find? fun option => option.1 v with
    | some option => option.2.run v path
    | none => .fail path (.noVariant description)

/-- What the value of a property selects; of several cases with one tag the last counts. -/
def selectVariant {α : Type} (members : List (Value × Value)) (property : String)
    (cases : List (String × α)) (path : Path) : Outcome α :=
  let value := (Value.lookup property members).filter fun v => !v.isUnset
  match (value.bind Value.asStr?).bind fun tag => cases.reverse.lookup tag with
  | some selected => .ok selected
  | none => .failAbout value.toList path (.unknownTag property (value.getD .null))

/-- The codec that the value of a property selects. -/
def dispatchOn (property : String) (cases : List (String × Codec)) : Codec where
  run v path := do
    let members ← requireMapping "discriminated union" v path
    let c ← selectVariant members property cases path
    c.run v path

/-! ## Fields -/

/-- What the codec of a field has to know. -/
structure FieldRule where
  wireName : String
  model : String
  required : Bool
  nullable : Bool

/-- Reads a field of a mapping; a field that is absent is unset. -/
def decodeField (rule : FieldRule) (c : Codec) (members : List (Value × Value)) (path : Path) :
    Outcome Value :=
  let place := path.push (.field rule.wireName)
  match Value.lookup rule.wireName members with
  | none =>
    if rule.required then .fail path (.missingField rule.model rule.wireName) else .ok .unset
  | some v =>
    if v.isNull then
      if rule.nullable then .ok .null else .fail place (.nullField rule.model rule.wireName)
    else c.run v place

/-- Writes a field into a mapping; a field that is unset is left out. -/
def encodeField (rule : FieldRule) (c : Codec) (v : Value) (path : Path)
    (members : List (Value × Value)) : Outcome (List (Value × Value)) :=
  let place := path.push (.field rule.wireName)
  if v.isUnset then
    if rule.required then .fail path (.missingField rule.model rule.wireName) else .ok members
  else if v.isNull then
    if rule.nullable then .ok (Value.setKey rule.wireName .null members)
    else .fail place (.nullField rule.model rule.wireName)
  else (c.run v place).map fun w => Value.setKey rule.wireName w members

/-! ## Laws -/

theorem identity_run (v : Value) (path : Path) : identity.run v path = .ok v := rfl

theorem enumOf_run_ok_iff {values : List Value} {v w : Value} {path : Path} :
    (enumOf values).run v path = .ok w ↔ v.member values = true ∧ w = v := by
  simp only [enumOf]
  split
  · rename_i h
    constructor
    · intro e; cases e; exact ⟨h, rfl⟩
    · rintro ⟨_, rfl⟩; rfl
  · rename_i h
    constructor
    · intro e; cases e
    · rintro ⟨h', _⟩; exact absurd h' h

theorem elements_length {c : Codec} {path : Path} {i : Nat} {vs ws : List Value}
    (h : c.elements path i vs = .ok ws) : ws.length = vs.length := by
  induction vs generalizing i ws with
  | nil => cases h; rfl
  | cons v rest ih =>
      simp only [elements, bind, Except.bind] at h
      split at h
      · cases h
      · split at h
        · cases h
        · rename_i _ ws' hws
          cases h
          simp [ih hws]

end Codec
end WireModel
