import WireModel.Codec.Combinators
import WireModel.Plan.Contract

/-!
# Codecs of models

`decode` reads the wire form of a model into an instance, and `encode` writes it back. A plan
is a codec once the codecs of the models in it are given; the recursion through models is
bounded. On its way into a value a codec meets a model without going deeper only along
unions, and it would go round in circles if it met one twice.
-/

namespace WireModel

/-- What a codec does with a model: its name, whether its discriminator is ignored, a value and
its place. -/
abbrev Codec.ModelCodec := String → Bool → Value → Codec.Path → Codec.Outcome Value

namespace Predicate

mutual

/-- Whether a value has the wire form that a predicate asks for. -/
def holdsOfWire : Predicate → Value → Bool
  | .record _ required, v => Codec.hasRequired required v
  | .primitive kind, v => Codec.isKind kind v
  | .sequence, v => v.isSequence
  | .mapping, v => v.isMap
  | .enumMember values, v => v.member values
  | .anyOf predicates, v => anyHoldsOfWire predicates v

def anyHoldsOfWire : List Predicate → Value → Bool
  | [], _ => false
  | p :: rest, v => p.holdsOfWire v || anyHoldsOfWire rest v

end

mutual

/-- Whether a value is what decoding makes of the wire form that a predicate asks for. -/
def holdsOfDecoded : Predicate → Value → Bool
  | .record model _, v => Codec.isInstanceOf model v
  | .primitive kind, v => Codec.isKind kind v
  | .sequence, v => v.isSequence
  | .mapping, v => v.isMap
  | .enumMember values, v => v.member values
  | .anyOf predicates, v => anyHoldsOfDecoded predicates v

def anyHoldsOfDecoded : List Predicate → Value → Bool
  | [], _ => false
  | p :: rest, v => p.holdsOfDecoded v || anyHoldsOfDecoded rest v

end
end Predicate

namespace Plan

open Codec (ModelCodec)

/-- The codec of a model without regard to the place where it is named. -/
def modelCodec (models : ModelCodec) (name : String) : Codec := ⟨false, models name false⟩

mutual

/-- The decoder of a plan. -/
def decoder (models : ModelCodec) : Plan → Codec
  | .pass _ => .identity
  | .checkEnum values _ => .enumOf values
  | .nullable inner => .nullable (decoder models inner)
  | .eachElement element => .listOf (decoder models element)
  | .eachValue value => .dictOf (decoder models value)
  | .call model => modelCodec models model
  | .dispatch property cases =>
    .dispatchOn property (cases.map fun (tag, model) => (tag, modelCodec models model))
  | .firstMatch options description => .firstMatch (decoders models options) description

def decoders (models : ModelCodec) : List (Predicate × Plan) → List ((Value → Bool) × Codec)
  | [] => []
  | (p, plan) :: rest => (p.holdsOfWire, decoder models plan) :: decoders models rest

end

/-- The encoder of a discriminated union: the model of the instance has to be one of its
cases. -/
def dispatchEncoder (models : ModelCodec) (cases : List (String × String)) : Codec where
  run v path :=
    match v with
    | .record model _ =>
      if cases.any (·.2 == model) then models model true v path
      else .fail path (.notVariant v.kindName)
    | _ => .fail path (.notVariant v.kindName)

mutual

/-- The encoder of a plan. -/
def encoder (models : ModelCodec) : Plan → Codec
  | .pass _ => .identity
  | .checkEnum values _ => .enumOf values
  | .nullable inner => .nullable (encoder models inner)
  | .eachElement element => .listOf (encoder models element)
  | .eachValue value => .dictOf (encoder models value)
  | .call model => modelCodec models model
  | .dispatch _ cases => dispatchEncoder models cases
  | .firstMatch options description => .firstMatch (encoders models options) description

def encoders (models : ModelCodec) : List (Predicate × Plan) → List ((Value → Bool) × Codec)
  | [] => []
  | (p, plan) :: rest => (p.holdsOfDecoded, encoder models plan) :: encoders models rest

end
end Plan

namespace Codec

/-- What the codec of a field of a model has to know. -/
def ruleOf (model : String) (f : FieldContract) : FieldRule :=
  ⟨f.wireName, model, f.required, f.nullable⟩

/-! ## Decoding -/

/-- Decodes the fields of a record. -/
def decodeFields (models : ModelCodec) (r : RecordContract) (members : List (Value × Value))
    (path : Path) : Outcome Value := do
  let fields ← r.fields.mapM fun f => do
    let v ← decodeField (ruleOf r.name f) (f.plan.decoder models) members path
    return (f.attributeName, v)
  return .record r.name fields

/-- Decodes a model, through at most `fuel` models. -/
def decodeModel (contracts : Contracts) : Nat → ModelCodec
  | 0, _, _, _, path => .fail path .endless
  | fuel + 1, name, ignoreDiscriminator, v, path => do
    match contracts.get? name with
    | none => .fail path (.unknownModel name)
    | some (.union u) => (u.body.decoder (decodeModel contracts fuel)).run v path
    | some (.record r) =>
      let members ← requireMapping name v path
      let dispatch := r.discriminator.filter fun d =>
        !ignoreDiscriminator && Value.hasKey d.property members
      match dispatch with
      | none => decodeFields (decodeModel contracts fuel) r members path
      | some d =>
        let target ← selectVariant members d.property d.mapping path
        if target == name then decodeFields (decodeModel contracts fuel) r members path
        else decodeModel contracts fuel target true v path

/-- How many models a codec meets on its way into a value unless it goes round in circles: at
each level every model with and without its discriminator. -/
def modelBound (contracts : Contracts) (v : Value) : Nat :=
  (v.depth + 1) * (2 * contracts.length + 2)

/-- Decodes the wire form of a model. Null and absence stay as they are. -/
def decode (contracts : Contracts) (name : String) (v : Value)
    (ignoreDiscriminator : Bool := false) : Outcome Value :=
  if v.isNull || v.isUnset then .ok v
  else decodeModel contracts (modelBound contracts v) name ignoreDiscriminator v ⟨name, []⟩

/-! ## Encoding -/

/-- Encodes the fields of an instance. -/
def encodeFields (models : ModelCodec) (r : RecordContract) (fields : List (String × Value))
    (path : Path) : Outcome Value := do
  let members ← r.fields.foldlM (fun members f =>
    let v := (fields.lookup f.attributeName).getD .unset
    encodeField (ruleOf r.name f) (f.plan.encoder models) v path members) []
  return .map members

/-- Encodes an instance of a model, through at most `fuel` models. An instance of another model
is taken if the discriminator leads there. -/
def encodeModel (contracts : Contracts) : Nat → ModelCodec
  | 0, _, _, _, path => .fail path .endless
  | fuel + 1, name, ignoreDiscriminator, v, path =>
    match contracts.get? name with
    | none => .fail path (.unknownModel name)
    | some (.union u) => (u.body.encoder (encodeModel contracts fuel)).run v path
    | some (.record r) =>
      match v with
      | .record model fields =>
        if model == name then encodeFields (encodeModel contracts fuel) r fields path
        else if (Types.WireType.targets r.discriminator).contains model && !ignoreDiscriminator then
          encodeModel contracts fuel model true v path
        else .fail path (.notInstance name v.kindName)
      | _ => .fail path (.notInstance name v.kindName)

/-- Encodes an instance of a model. Null and absence stay as they are. -/
def encode (contracts : Contracts) (name : String) (v : Value)
    (ignoreDiscriminator : Bool := false) : Outcome Value :=
  if v.isNull || v.isUnset then .ok v
  else encodeModel contracts (modelBound contracts v) name ignoreDiscriminator v ⟨name, []⟩

/-! ## Instances -/

/-- Whether a value has the shape of a model at a glance; nothing for an unknown model. -/
def isInstance? (contracts : Contracts) (name : String) (v : Value) : Option Bool :=
  (contracts.get? name).map fun
    | .record r => hasRequired r.required v
    | .union u =>
      match u.body with
      | .dispatch property cases =>
        match v.entries? with
        | none => false
        | some members =>
          match Value.lookup property members with
          | some tag => cases.any fun c => tag.isText c.1
          | none => false
      | .firstMatch options _ => options.any fun option => option.1.holdsOfWire v
      | _ => false

/-- The class of a model with fields. -/
def className? (contracts : Contracts) (name : String) : Option String :=
  match contracts.get? name with
  | some (.record _) => some (Naming.className name)
  | _ => none

/-- An instance of a model with fields: a field that is not given has its default, or is
unset. -/
def newInstance? (contracts : Contracts) (name : String) (given : List (String × Value)) :
    Option Value :=
  match contracts.get? name with
  | some (.record r) =>
    some (.record name (r.fields.map fun f =>
      (f.attributeName,
        (given.lookup f.attributeName).getD (f.default.getD .unset))))
  | _ => none

theorem decode_null (contracts : Contracts) (name : String) :
    decode contracts name .null = .ok .null := rfl

end Codec
end WireModel
