import WireModel.Emit.Literal
import WireModel.Plan.Contract
import WireModel.Table.Basic
import WireModel.Text.Blank
import WireModel.Types.Export

/-!
# Reports

The table of models and its contracts as one JSON document, for emitters outside of this
library. Models, fields, plans and predicates are documents in it.
-/

namespace WireModel

/-! ## Models as documents -/

section

open Types (exportDiscriminator optionalText toDocuments)

/-- A field as a document. -/
def Field.toDocument (f : Field) : Value :=
  .ofFields ([("name", .str f.attributeName), ("wire_name", .str f.wireName),
    ("type", f.type.toDocument), ("required", .bool f.required), ("nullable", .bool f.nullable)] ++
    (match f.default with
      | some v => [("default", v)]
      | none => []))

/-- The discriminator of a model as a member of its document. -/
def discriminatorMember : Option Schema.Discriminator → List (String × Value)
  | some d => [("discriminator", exportDiscriminator d)]
  | none => []

/-- A model as a document. -/
def Model.toDocument : Model → Value
  | .record r =>
    .ofFields ([("name", .str r.name), ("kind", .str "object")] ++
      optionalText "description" r.description ++
      [("fields", .list (r.fields.map Field.toDocument))] ++
      (if r.parents.isEmpty then [] else [("parents", .ofTexts r.parents)]) ++
      discriminatorMember r.discriminator)
  | .union u =>
    .ofFields ([("name", .str u.name), ("kind", .str "composite"), ("mode", .str u.mode.keyword),
      ("variants", .list (toDocuments u.variants))] ++ discriminatorMember u.discriminator)

/-- A named enumeration as a type. -/
def NamedEnum.type (e : NamedEnum) : Types.WireType := .enum (some e.name) e.values e.kind

end

/-! ## Contracts as documents -/

mutual

/-- A predicate as a document. -/
def Predicate.toDocument : Predicate → Value
  | .record model required =>
    .ofFields [("predicate", .str "is_instance_of"), ("model", .str model),
      ("required", .ofTexts required)]
  | .primitive kind => .ofFields [("predicate", .str "is_primitive"), ("type", .str kind.name)]
  | .sequence => .ofFields [("predicate", .str "is_sequence")]
  | .mapping => .ofFields [("predicate", .str "is_mapping")]
  | .enumMember values =>
    .ofFields [("predicate", .str "is_enum_member"), ("values", .list values)]
  | .anyOf predicates =>
    .ofFields [("predicate", .str "matches_any"),
      ("predicates", .list (Predicate.toDocuments predicates))]

def Predicate.toDocuments : List Predicate → List Value
  | [] => []
  | p :: rest => p.toDocument :: Predicate.toDocuments rest

end

mutual

/-- A plan as a document. -/
def Plan.toDocument : Plan → Value
  | .pass kind => .ofFields [("plan", .str "pass_through"), ("type", .str kind.name)]
  | .checkEnum values name =>
    .ofFields ([("plan", .str "check_enum"), ("values", .list values)] ++
      (match name with
        | some n => if n.isEmpty then [] else [("name", .str n)]
        | none => []))
  | .nullable inner => .ofFields [("plan", .str "nullable"), ("inner", inner.toDocument)]
  | .eachElement element =>
    .ofFields [("plan", .str "each_element"), ("element", element.toDocument)]
  | .eachValue value => .ofFields [("plan", .str "each_value"), ("value", value.toDocument)]
  | .call model => .ofFields [("plan", .str "call_model"), ("model", .str model)]
  | .dispatch property cases =>
    .ofFields [("plan", .str "dispatch"), ("property_name", .str property),
      ("cases", .list (cases.map fun (value, model) =>
        .ofFields [("value", .str value), ("model", .str model)]))]
  | .firstMatch options _ =>
    .ofFields [("plan", .str "first_match"), ("options", .list (Plan.optionDocuments options))]

def Plan.optionDocuments : List (Predicate × Plan) → List Value
  | [] => []
  | (p, plan) :: rest =>
    .ofFields [("when", p.toDocument), ("then", plan.toDocument)] :: Plan.optionDocuments rest

end

/-- The contract of a field as a document. -/
def FieldContract.toDocument (f : FieldContract) : Value :=
  .ofFields [("name", .str f.attributeName), ("wire_name", .str f.wireName),
    ("plan", f.plan.toDocument), ("on_absent", .str (if f.required then "error" else "undefined")),
    ("on_null", .str (if f.nullable then "null" else "error"))]

/-- A contract as a document. -/
def Contract.toDocument : Contract → Value
  | .record r =>
    .ofFields ([("name", .str r.name), ("kind", .str "object"), ("required", .ofTexts r.required),
      ("fields", .list (r.fields.map FieldContract.toDocument))] ++
      (match r.discriminator with
        | some d => [("discriminator", (Plan.dispatch d.property d.mapping).toDocument)]
        | none => []))
  | .union u =>
    .ofFields [("name", .str u.name), ("kind", .str "composite"), ("body", u.body.toDocument)]

/-- Contracts as a document, each under its name. -/
def Contracts.toDocument (contracts : Contracts) : Value :=
  .ofFields (contracts.map fun c => (c.name, c.toDocument))

/-! ## The report -/

namespace Emit

/-- The report of a table as a document. -/
def report (comment : String) (table : Table) (contracts : Contracts) : Value :=
  .ofFields [("generated_by", .ofTexts ((Text.lines comment.toList).map String.ofList)),
    ("enums", .ofFields (table.enums.map fun e => (e.name, e.type.toDocument))),
    ("models", .list (table.models.map Model.toDocument)),
    ("contracts", contracts.toDocument)]

/-- The text of the report. -/
def reportText (comment : String) (table : Table) (contracts : Contracts) :
    Except Fault String :=
  match Json.writeIndented (report comment table contracts) with
  | .ok text => .ok (text ++ "\n")
  | .error refusal => .error (.notJson refusal)

end Emit
end WireModel
