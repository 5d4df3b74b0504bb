import WireModel.Types.Basic

/-!
# Types as documents

The description of a type for readers outside of this library.
-/

namespace WireModel.Types

open Schema

/-- A mapping of texts in which a later entry takes the place of an earlier one with its
key. -/
def textMapping (entries : List (String × String)) : Value :=
  .ofFields (entries.foldl put [])
where
  put (found : List (String × Value)) (entry : String × String) : List (String × Value) :=
    if found.any (·.1 == entry.1) then
      found.map fun (k, v) => if k == entry.1 then (k, .str entry.2) else (k, v)
    else found ++ [(entry.1, .str entry.2)]

/-- A discriminator as a document. -/
def exportDiscriminator (d : Discriminator) : Value :=
  .ofFields [("property_name", .str d.property), ("mapping", textMapping d.mapping)]

/-- A member of a document that is there only if there is something to say. -/
def optionalText (key : String) (text : Option String) : List (String × Value) :=
  match text with
  | some s => if s.isEmpty then [] else [(key, .str s)]
  | none => []

mutual

/-- A type as a document. -/
def WireType.toDocument : WireType → Value
  | .primitive kind format =>
    .ofFields ([("kind", .str "primitive"), ("type", .str kind.name)] ++ optionalText "format" format)
  | .optional inner => .ofFields [("kind", .str "optional"), ("inner", inner.toDocument)]
  | .nullable inner => .ofFields [("kind", .str "nullable"), ("inner", inner.toDocument)]
  | .sequence element => .ofFields [("kind", .str "sequence"), ("element", element.toDocument)]
  | .mapping value =>
    .ofFields [("kind", .str "mapping"),
      ("key", .ofFields [("kind", .str "primitive"), ("type", .str "string")]),
      ("value", value.toDocument)]
  | .enum name values kind =>
    .ofFields [("kind", .str "enum"), ("name", .ofOption .str name),
      ("value_kind", .str kind.name), ("values", .list values)]
  | .model name => .ofFields [("kind", .str "model"), ("name", .str name)]
  | .union name mode discriminator variants =>
    .ofFields ([("kind", .str "composite"), ("mode", .str mode.keyword),
      ("variants", .list (toDocuments variants))] ++ optionalText "name" name ++
      (match discriminator with
        | some d => [("discriminator", exportDiscriminator d)]
        | none => []))

/-- Types as documents. -/
def toDocuments : List WireType → List Value
  | [] => []
  | t :: rest => t.toDocument :: toDocuments rest

end

theorem toDocuments_eq_map (types : List WireType) :
    toDocuments types = types.map WireType.toDocument := by
  induction types with
  | nil => rfl
  | cons t rest ih => simp [toDocuments, ih]

end WireModel.Types
