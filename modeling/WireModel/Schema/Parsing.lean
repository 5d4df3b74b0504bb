import WireModel.Schema.Reference

/-!
# Schemas from document values

One layer of a schema is read by functions that take the reader of the parts as an argument;
`parseNode` closes the recursion. A document is only as deep as it is nested, so its depth
bounds the number of layers.
-/

namespace WireModel.Schema

/-- Reads the value at a place of the document. -/
abbrev NodeReader := Value → String → Reading Node

/-- The members of a schema document's mapping. -/
abbrev Members := List (Value × Value)

/-! ## Annotations -/

/-- The text under a key, if it is one. -/
def textOf (key : String) (members : Members) : Option String :=
  (Value.lookup key members).bind Value.asStr?

/-- Whether the value under a key is `true`. -/
def isTrue (key : String) (members : Members) : Bool :=
  match Value.lookup key members with
  | some (.bool true) => true
  | _ => false

/-- What every form of schema may carry. -/
def notesOf (members : Members) (path : String) : Notes :=
  ⟨path, textOf "description" members, isTrue "nullable" members || isTrue "x-nullable" members,
    Value.lookup "default" members⟩

/-- The value under a key, a value that counts as nothing left out. -/
def truthy (key : String) (members : Members) : Option Value :=
  (Value.lookup key members).filter Value.isTruthy

/-! ## Discriminators -/

/-- Reads an entry of a discriminator's mapping: a target is a reference or a name. -/
def readTarget (root : Option String) (path : String) (entry : Value × Value) :
    Reading (String × String) := do
  match entry.2.asStr? with
  | none => .failAbout entry.1 path (.mappingTarget entry.1)
  | some target =>
    if target.isEmpty then .failAbout entry.1 path (.mappingTarget entry.1)
    else
      let name ←
        if target.toList.head? == some '#' then (·.2) <$> readReference root entry.2 path
        else pure target
      Reading.requireTellable entry.1
      return (entry.1.keyText, name)

/-- Reads a discriminator: the name of a property, or a mapping that names it. -/
def readDiscriminator (root : Option String) (value : Value) (path : String) :
    Reading Discriminator := do
  let place := path ++ "/discriminator"
  match value with
  | .map members =>
    match textOf "propertyName" members with
    | none => .fail place .discriminatorProperty
    | some property =>
      if property.isEmpty then .fail place .discriminatorProperty
      else
        let mappingPlace := place ++ "/mapping"
        match truthy "mapping" members with
        | none => return ⟨property, []⟩
        | some (.map entries) => return ⟨property, ← entries.mapM (readTarget root mappingPlace)⟩
        | some _ => .fail mappingPlace .mappingNotObject
  | .str property =>
    if property.isEmpty then .fail place .discriminatorNotObject else return ⟨property, []⟩
  | _ => .fail place .discriminatorNotObject

/-- The discriminator of a schema, if it declares one. -/
def discriminatorOf (root : Option String) (members : Members) (path : String) :
    Reading (Option Discriminator) :=
  match Value.lookup "discriminator" members with
  | none => pure none
  | some value => some <$> readDiscriminator root value path

/-! ## Objects and arrays -/

/-- The texts of a list, if it holds nothing else. -/
def textsOf? : Value → Option (List String)
  | .list items => items.mapM Value.asStr?
  | _ => none

/-- Reads the property under a key. -/
def readProperty (sub : NodeReader) (path : String) (required : List String)
    (entry : Value × Value) : Reading Property := do
  Reading.requireTellable entry.1
  let name := entry.1.keyText
  let node ← sub entry.2 (path ++ "/properties/" ++ Pointer.escape name)
  return ⟨name, node, required.any fun r => entry.1.isText r⟩

/-- Reads what an object schema says about other keys. -/
def readAdditional (sub : NodeReader) (members : Members) (path : String) :
    Reading Additional := do
  match Value.lookup "additionalProperties" members with
  | none => return .undeclared
  | some (.bool allowed) => return .flag allowed
  | some value => return .schema (← sub value (path ++ "/additionalProperties"))

/-- Reads an object schema. -/
def readObject (root : Option String) (sub : NodeReader) (members : Members) (path : String)
    (notes : Notes) : Reading Node := do
  let properties ←
    match truthy "properties" members with
    | none => pure []
    | some (.map entries) => pure entries
    | some _ => .fail (path ++ "/properties") .propertiesNotObject
  let required ←
    match truthy "required" members with
    | none => pure []
    | some value =>
      match textsOf? value with
      | some names => pure names
      | none => .fail (path ++ "/required") .requiredNotTexts
  let properties ← properties.mapM (readProperty sub path required)
  let additional ← readAdditional sub members path
  let discriminator ← discriminatorOf root members path
  return .object notes properties required additional discriminator

/-- Reads schemas at the places `path/0`, `path/1` and so on. -/
def readMembers (sub : NodeReader) (path : String) (values : List Value) : Reading (List Node) :=
  values.zipIdx.mapM fun (value, i) => sub value (path ++ "/" ++ Decimal.ofNat i)

/-- Reads an array schema. A list of item schemas stands for the union of them. -/
def readArray (sub : NodeReader) (members : Members) (path : String) (notes : Notes) :
    Reading Node := do
  let place := path ++ "/items"
  match Value.lookup "items" members with
  | none | some .null => return .array notes none
  | some (.list []) => .fail place .emptyItems
  | some (.list items) =>
    let variants ← readMembers sub place items
    return .array notes (some (.composite (.at place) .anyOf variants none))
  | some value => return .array notes (some (← sub value place))

/-! ## Enumerations and types -/

/-- The kind of an enumeration: the declared one if it is the kind of a scalar, otherwise that
of the first value. -/
def enumKind (declared : Option Value) (values : List Value) : Kind :=
  let named :=
    match declared with
    | some (.list types) => types.find? fun t => !Value.isText "null" t
    | other => other
  match (named.bind Value.asStr?).bind Kind.ofName?, values with
  | some kind, _ => kind
  | none, v :: _ => Kind.of v
  | none, [] => .string

/-- Reads an enumeration; null among its values says that null is allowed. -/
def readEnum (value : Value) (members : Members) (path : String) (notes : Notes) :
    Reading Node :=
  match value with
  | .list values =>
    let kept := values.filter fun v => !v.isNull
    let hasNull := kept.length < values.length
    let notes := if hasNull then { notes with nullable := true } else notes
    if hasNull && kept.isEmpty then pure (.primitive notes .null none)
    else pure (.enum notes kept (enumKind (Value.lookup "type" members) kept))
  | _ => .fail (path ++ "/enum") .enumNotArray

/-- Reads a schema of one type. -/
def readTyped (root : Option String) (sub : NodeReader) (type : String) (members : Members)
    (path : String) (notes : Notes) : Reading Node :=
  if type == "array" then readArray sub members path notes
  else if type == "object" then readObject root sub members path notes
  else
    match Kind.ofName? type with
    | some kind => pure (.primitive notes kind (textOf "format" members))
    | none => .fail (path ++ "/type") (.unknownType (.str type))

/-- Reads the variant of a list of types; of the annotations of the whole it keeps only the
one that no union has a use for. -/
def readVariant (root : Option String) (sub : NodeReader) (members : Members) (path : String)
    (type : String) (index : Nat) : Reading Node :=
  let place := path ++ "/type/" ++ Decimal.ofNat index
  readTyped root sub type members place ⟨place, none, isTrue "x-nullable" members, none⟩

/-- Reads a schema with a type or a list of types. -/
def readType (root : Option String) (sub : NodeReader) (value : Value) (members : Members)
    (path : String) (notes : Notes) : Reading Node := do
  match value with
  | .list types =>
    match types.mapM Value.asStr? with
    | none | some [] => .fail (path ++ "/type") .typeNotText
    | some names =>
      let kept := names.filter (· != "null")
      let notes := if kept.length < names.length then { notes with nullable := true } else notes
      match kept with
      | [] => return .primitive notes .null none
      | [type] => readTyped root sub type members path notes
      | _ =>
        let variants ← kept.zipIdx.mapM fun (type, i) =>
          readVariant root sub members path type i
        return .composite notes .oneOf variants none
  | .str type => readTyped root sub type members path notes
  | other => .failAbout other (path ++ "/type") (.unknownType other)

/-! ## Combinations -/

/-- The members of a schema that declare properties next to a combination. -/
def siblings (members : Members) : Members :=
  members.filter fun (k, _) =>
    k.isText "properties" || k.isText "required" || k.isText "additionalProperties"

/-- Reads a combination. Properties next to `allOf` are its last member. -/
def readComposite (root : Option String) (sub : NodeReader) (mode : Combination)
    (others : List Combination) (members : Members) (path : String) (notes : Notes) :
    Reading Node := do
  unless others.isEmpty do
    Logged.warn (.ignoredCombinations path mode.keyword (others.map Combination.keyword))
  let place := path ++ "/" ++ mode.keyword
  let values ←
    match Value.lookup mode.keyword members with
    | some (.list (v :: rest)) => pure (v :: rest)
    | _ => .fail place (.noMembers mode)
  let variants ← readMembers sub place values
  let beside := siblings members
  let variants ←
    if beside.isEmpty then pure variants
    else if mode = .allOf then do
      let last ← readObject root sub beside path (.at path)
      pure (variants ++ [last])
    else do
      Logged.warn (.ignoredProperties path mode.keyword)
      pure variants
  let discriminator ← discriminatorOf root members path
  return .composite notes mode variants discriminator

/-! ## Schemas -/

/-- The combinations that a schema uses, in the order of precedence. -/
def combinationsOf (members : Members) : List Combination :=
  Combination.all.filter fun c => Value.hasKey c.keyword members

/-- Reads a schema from its mapping; the first keyword that is there decides its form. -/
def readSchema (root : Option String) (sub : NodeReader) (members : Members) (path : String) :
    Reading Node := do
  let notes := notesOf members path
  if let some reference := Value.lookup "$ref" members then
    let (pointer, target) ← readReference root reference path
    return .reference notes pointer target
  if let some constant := Value.lookup "const" members then
    if constant.isNull then return .primitive { notes with nullable := true } .null none
    else return .enum notes [constant] (Kind.of constant)
  if let mode :: others := combinationsOf members then
    readComposite root sub mode others members path notes
  else if let some values := Value.lookup "enum" members then
    readEnum values members path notes
  else if let some type := Value.lookup "type" members then
    readType root sub type members path notes
  else if Value.hasKey "properties" members || Value.hasKey "additionalProperties" members then
    readObject root sub members path notes
  else if Value.hasKey "items" members then
    readArray sub members path notes
  else return .primitive notes .any none

/-- Reads one layer of a schema. A mapping within itself says nothing more. -/
def readLayer (root : Option String) (sub : NodeReader) : NodeReader
  | .bool true, path | .knot true, path => pure (.primitive (.at path) .any none)
  | .map members, path => readSchema root sub members path
  | _, path => .fail path .notObject

/-- Reads a schema of at most the given depth. -/
def parseNode (root : Option String) : Nat → NodeReader
  | 0 => readLayer root fun _ path => .fail path .notObject
  | depth + 1 => readLayer root (parseNode root depth)

/-- Reads the schema at a place of the document. -/
def parse (root : Option String) (value : Value) (path : String) : Reading Node :=
  parseNode root value.depth value path

theorem parse_true (root : Option String) (path : String) :
    parse root (.bool true) path = pure (.primitive (.at path) .any none) := rfl

end WireModel.Schema
