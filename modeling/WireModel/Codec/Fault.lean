import WireModel.Value.Display

/-!
# Faults of values

Why a value cannot be decoded or encoded, and where. A path leads from a named root into a value,
through fields, elements and the values of mappings.
-/

namespace WireModel.Codec

/-! ## Places in values -/

/-- One step into a value. -/
inductive Step where
  | field (wireName : String)
  | index (i : Nat)
  | key (k : Value)

def Step.render : Step → String
  | .field wireName => "." ++ wireName
  | .index i => "[" ++ Decimal.ofNat i ++ "]"
  | .key k => "[" ++ k.display ++ "]"

/-- A root and the steps from it, the last one first. -/
structure Path where
  root : String
  reversed : List Step := []

namespace Path

/-- The path one step further. -/
def push (path : Path) (step : Step) : Path := { path with reversed := step :: path.reversed }

/-- The steps from the root on. -/
def steps (path : Path) : List Step := path.reversed.reverse

def render (path : Path) : String := path.root ++ String.join (path.steps.map Step.render)

@[simp] theorem steps_push (path : Path) (step : Step) :
    (path.push step).steps = path.steps ++ [step] := by
  simp [push, steps]

theorem render_root (root : String) : (Path.mk root []).render = root := by
  simp [render, steps]

end Path

/-! ## Faults -/

/-- What is wrong with a value. The kinds are those of the values found. -/
inductive Cause where
  | missingField (model field : String)
  | nullField (model field : String)
  | nullElement
  | unknownTag (property : String) (value : Value)
  | noVariant (description : String)
  | notVariant (kind : String)
  | unknownMember (value : Value) (allowed : List Value)
  | notArray (kind : String)
  | notObject (kind : String)
  | notObjectFor (model kind : String)
  | notInstance (model kind : String)
  | unknownModel (name : String)
  /-- The models of a chain refer to each other without end. -/
  | endless
  /-- A value to be shown has an integer that is too long. -/
  | overlong

def Cause.message : Cause → String
  | .missingField model field => "missing required field '" ++ field ++ "' of " ++ model
  | .nullField model field =>
    if field.isEmpty then "null is not allowed here"
    else "field '" ++ field ++ "' of " ++ model ++ " is not nullable"
  | .nullElement => "null is not allowed here"
  | .unknownTag property value =>
    "unknown value " ++ value.display ++ " for discriminator '" ++ property ++ "'"
  | .noVariant description => "value does not match any variant of " ++ description
  | .notVariant kind => kind ++ " is not a variant of this union"
  | .unknownMember value allowed =>
    value.display ++ " is not one of " ++ (Value.list allowed).display
  | .notArray kind => "expected an array, got " ++ kind
  | .notObject kind => "expected an object, got " ++ kind
  | .notObjectFor model kind => "expected an object for " ++ model ++ ", got " ++ kind
  | .notInstance model kind => "expected an instance of " ++ model ++ ", got " ++ kind
  | .unknownModel name => Text.quoted name
  | .endless => "maximum recursion depth exceeded"
  | .overlong => Decimal.Overlong.written.message

/-- A cause and its place. -/
structure Fault where
  cause : Cause
  path : Path

def Fault.message (fault : Fault) : String :=
  match fault.cause with
  | .unknownModel _ | .endless | .overlong => fault.cause.message
  | cause =>
    let place := fault.path.render
    if place.isEmpty then cause.message else place ++ ": " ++ cause.message

/-- A result at a place. -/
abbrev Outcome := Except Fault

def Outcome.fail {α : Type} (path : Path) (cause : Cause) : Outcome α := .error ⟨cause, path⟩

/-- Fails with a cause that shows values. -/
def Outcome.failAbout {α : Type} (shown : List Value) (path : Path) (cause : Cause) : Outcome α :=
  .fail path (if Value.areTellable shown then cause else .overlong)

end WireModel.Codec
