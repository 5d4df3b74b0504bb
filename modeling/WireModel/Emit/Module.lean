import WireModel.Emit.Annotation
import WireModel.Emit.Expression
import WireModel.Options
import WireModel.Text.Blank

/-!
# Generated modules

The text of a module: a header with the imports and the named enumerations, a block for each
model with fields, a block for each union, and the list of exported names. A block is a list of
lines; blocks are separated by two empty lines.
-/

namespace WireModel.Emit

/-! ## Pieces of text -/

/-- The lines of a text, the blanks around it left out. -/
def commentLines (description : Option String) : List String :=
  match description with
  | some s => (Text.lines (Text.trim s.toList)).map String.ofList
  | none => []

/-- A character inside a docstring; a line break is followed by the indentation of the
docstring. -/
def docstringChar (c : Char) : List Char :=
  if c == '\\' then ['\\', '\\']
  else if c == '"' then ['\\', '"']
  else if c == '\n' then ['\n', ' ', ' ', ' ', ' ']
  else [c]

/-- The text between the quotes of a docstring. -/
def docstring (description : Option String) : String :=
  match description with
  | some s => String.ofList ((Text.trim s.toList).flatMap docstringChar)
  | none => ""

/-- A flag in a module. -/
def flag (b : Bool) : String := (Value.bool b).display

/-! ## Records -/

/-- What the block of a model says about a field. -/
structure FieldText where
  attributeName : String
  wireName : String
  declaration : String
  comments : List String
  decoder : Expr
  encoder : Expr
  required : Bool
  nullable : Bool

/-- The value that a field has if nothing is given for it. A list or a mapping is made anew for
each instance. -/
def defaultText (v : Value) : Except Fault String := do
  let text ← literal v
  match v with
  | .list _ | .map _ => return "field(default_factory=lambda: " ++ text ++ ")"
  | _ => return text

/-- Whether a default is made anew for each instance. -/
def needsFactory : Option Value → Bool
  | some (.list _) | some (.map _) => true
  | _ => false

/-- The declaration of a field. -/
def declaration (names : Names) (late : Bool) (f : Field) (c : FieldContract) :
    Except Fault String := do
  let base ← annotate names f.type
  let base := if c.nullable then orNull base else base
  let base := if c.required then base else base ++ " | Unset"
  let head := c.attributeName ++ ": " ++ placed late base
  match c.default with
  | some v => return head ++ " = " ++ (← defaultText v)
  | none => return if c.required then head else head ++ " = UNSET"

/-- What the block of a model says about one of its fields. -/
def fieldText (names : Names) (late : Bool) (r : RecordModel) (c : FieldContract) :
    Except Fault FieldText := do
  match r.fields.find? (·.wireName == c.wireName) with
  | none => throw (.unknownName c.wireName)
  | some f =>
    return ⟨c.attributeName, Json.quote c.wireName, ← declaration names late f c,
      commentLines f.description, ← planExpr names .decode c.plan, ← planExpr names .encode c.plan,
      c.required, c.nullable⟩

/-- Fields that have to be given come first. -/
def declarationOrder (fields : List FieldContract) : List FieldContract :=
  let given (c : FieldContract) : Bool := c.required && c.default.isNone
  fields.filter given ++ fields.filter fun c => !given c

/-- How the functions of a model choose another one. -/
structure DispatchText where
  property : String
  decodeCases : String
  encodeCases : String

/-- The other models that the discriminator of a model leads to. -/
def otherTargets (name : String) (d : Schema.Discriminator) : List String :=
  ((d.mapping.map (·.2)).eraseDups).filter (· != name)

/-- How the functions of a model choose another one by its discriminator. -/
def dispatchText (names : Names) (name : String) (d : Schema.Discriminator) :
    Except Fault DispatchText := do
  let decodeCases ← d.mapping.mapM fun (tag, target) => do
    let choice ← if target == name then pure "None" else modelFunction names .decode target
    return Json.quote tag ++ ": " ++ choice
  let encodeCases ← (otherTargets name d).mapM fun target => do
    return (← names.classOf target) ++ ": " ++ (← modelFunction names .encode target)
  return ⟨Json.quote d.property, "\x7b" ++ commaSeparated decodeCases ++ "\x7d",
    "\x7b" ++ commaSeparated encodeCases ++ "\x7d"⟩

/-- The lines that declare the fields of a class. -/
def declarationLines (f : FieldText) : List String :=
  (f.comments.map fun comment => "    # " ++ comment) ++ ["    " ++ f.declaration]

/-- The lines that decode a field. -/
def decodeLines (model : String) (f : FieldText) : Except Fault (List String) := do
  return ["        " ++ f.attributeName ++ "=decode_field(", "            data,",
    "            " ++ f.wireName ++ ",", "            " ++ (← f.decoder.render) ++ ",",
    "            model=" ++ model ++ ",", "            required=" ++ flag f.required ++ ",",
    "            nullable=" ++ flag f.nullable ++ ",", "            path=path,", "        ),"]

/-- The lines that encode a field. -/
def encodeLines (model : String) (f : FieldText) : Except Fault (List String) := do
  return ["    encode_field(", "        result,", "        " ++ f.wireName ++ ",",
    "        value." ++ f.attributeName ++ ",", "        " ++ (← f.encoder.render) ++ ",",
    "        model=" ++ model ++ ",", "        required=" ++ flag f.required ++ ",",
    "        nullable=" ++ flag f.nullable ++ ",", "        path=path,", "    )"]

/-- The parameters of a decoder or an encoder. -/
def signature (function parameter hint model result : String) : String :=
  "def " ++ function ++ "(" ++ parameter ++ ": " ++ hint ++
    ", ignore_discriminator: bool = False, path: str = " ++ model ++ ") -> " ++ result ++ ":"

/-- A block of a module: its lines, the names that it exports, and those that it takes from the
support library. -/
structure Block where
  lines : List String
  exports : List String
  imports : List String

/-- The names from the support library that every model with fields needs. -/
def recordImports : List String :=
  ["require_mapping", "decode_field", "encode_field", "has_required", "TypeMismatchError"]

/-- The block of a model with fields. -/
def recordBlock (names : Names) (late : Bool) (r : RecordModel) (c : RecordContract) :
    Except Fault Block := do
  let className ← names.classOf r.name
  let base ← names.baseOf r.name
  let model := Json.quote r.name
  let fields ← (declarationOrder c.fields).mapM (fieldText names late r)
  let dispatch ← c.discriminator.mapM (dispatchText names r.name)
  let others ← ((c.discriminator.map (otherTargets r.name)).getD []).mapM names.classOf
  let result := placed late (String.intercalate " | " (className :: others ++ ["None"]))
  let doc := docstring r.description
  let decodes ← fields.mapM (decodeLines model)
  let encodes ← fields.mapM (encodeLines model)
  let lines :=
    ["@dataclass", "class " ++ className ++ ":"] ++
    (if doc.isEmpty then [] else ["    \"\"\"" ++ doc ++ "\"\"\"", ""]) ++
    fields.flatMap declarationLines ++
    (if fields.isEmpty && doc.isEmpty then ["    pass"] else []) ++
    ["", "", "def " ++ checkName base ++ "(value: Any) -> bool:",
      "    return has_required(value, " ++ tupleText (c.required.map Json.quote) ++ ")", "", "",
      signature (decoderName base) "data" "Any" model result,
      "    if data is None or data is UNSET:", "        return data",
      "    data = require_mapping(data, " ++ model ++ ", path)"] ++
    (match dispatch with
      | none => []
      | some d =>
        ["    if not ignore_discriminator and " ++ d.property ++ " in data:",
          "        variant = select_variant(data, " ++ d.property ++ ", " ++ d.decodeCases ++
            ", path)",
          "        if variant is not None:",
          "            return variant(data, ignore_discriminator=True, path=path)"]) ++
    ["    return " ++ className ++ "("] ++ decodes.flatten ++ ["    )", "", "",
      signature (encoderName base) "value" result model "dict[str, Any] | None",
      "    if value is None or value is UNSET:", "        return value"] ++
    (match dispatch with
      | none => []
      | some d =>
        ["    if not ignore_discriminator:",
          "        encoder = " ++ d.encodeCases ++ ".get(type(value))",
          "        if encoder is not None:",
          "            return encoder(value, ignore_discriminator=True, path=path)"]) ++
    ["    if not isinstance(value, " ++ className ++ "):",
      "        raise TypeMismatchError(f\"expected an instance of " ++ className ++
        ", got \x7btype(value).__name__\x7d\", path)",
      "    result: dict[str, Any] = \x7b\x7d"] ++
    encodes.flatten ++ ["    return result"]
  let imports := recordImports ++ (if c.discriminator.isSome then ["select_variant"] else []) ++
    fields.flatMap fun f =>
      (if f.required then [] else ["Unset"]) ++ f.decoder.imports ++ f.encoder.imports
  return ⟨lines, className :: functionNames base, imports⟩

/-! ## Unions -/

/-- The expression that tells whether a value belongs to a union, and the names that it takes
from the support library. -/
def unionCheck (names : Names) (body : Plan) : Except Fault (String × List String) :=
  match body with
  | .dispatch property cases =>
    .ok ("is_mapping(value) and value.get(" ++ Json.quote property ++ ", UNSET) in " ++
      tupleText (cases.map fun (tag, _) => Json.quote tag), ["is_mapping"])
  | .firstMatch options _ => do
    let parts ← predicateExprs names .decode (options.map (·.1))
    let check := Expr.call "any_of" [.list parts]
    return ((← check.render) ++ "(value)", check.imports)
  | _ => .error (.unknownName "options")

/-- The block of a union. -/
def unionBlock (names : Names) (late : Bool) (u : UnionModel) (c : UnionContract) :
    Except Fault Block := do
  let title ← names.classOf u.name
  let base ← names.baseOf u.name
  let model := Json.quote u.name
  let (check, checkImports) ← unionCheck names c.body
  let variants ← annotate names (.union none u.mode none u.variants)
  let decoder ← planExpr names .decode c.body
  let encoder ← planExpr names .encode c.body
  let value := placed late (title ++ " | None")
  let lines :=
    [title ++ ": TypeAlias = " ++ Json.quote variants, "", "",
      "def " ++ checkName base ++ "(value: Any) -> bool:", "    return " ++ check, "", "",
      signature (decoderName base) "data" "Any" model value,
      "    if data is None or data is UNSET:", "        return data",
      "    return " ++ (← decoder.render) ++ "(data, path=path)", "", "",
      signature (encoderName base) "value" value model "Any",
      "    if value is None or value is UNSET:", "        return value",
      "    return " ++ (← encoder.render) ++ "(value, path=path)"]
  return ⟨lines, title :: functionNames base, checkImports ++ decoder.imports ++ encoder.imports⟩

/-! ## The module -/

/-- Names in the order of an import: those in capitals first, then without regard to case. -/
def importOrder (names : List String) : List String :=
  let capitals (s : String) : Bool := s.toList.any Char.isUpper && !s.toList.any Char.isLower
  let lower (s : String) : String := String.ofList (s.toList.map Char.toLower)
  names.eraseDups.mergeSort fun a b =>
    if capitals a == capitals b then lower a ≤ lower b else capitals a

/-- The alias of a named enumeration. -/
def enumAlias (names : Names) (e : NamedEnum) : Except Fault (String × String) := do
  return (← names.classOf e.name, ← annotateValues e.values)

/-- Whether some annotation of the module lists the values of an enumeration. -/
def usesLiteral (names : Names) (table : Table) : Bool :=
  !table.enums.isEmpty || table.models.any fun m =>
    m.fields.any (fun f => listsValues names f.type) || anyListsValues names m.variants

/-- The imports from the module of annotations, in order. -/
def typingImports (names : Names) (table : Table) : List String :=
  ["Any"] ++ (if usesLiteral names table then ["Literal"] else []) ++
    (if !table.enums.isEmpty || table.models.any (!·.isRecord) then ["TypeAlias"] else [])

/-- The imports that classes need, in order. -/
def dataclassImports (table : Table) : List String :=
  if table.models.any Model.isRecord then
    "dataclass" ::
      (if table.models.any fun m => m.fields.any fun f => needsFactory f.default then ["field"]
      else [])
  else []

/-- The header of a module. -/
def header (comment : List String) (late : Bool) (dataclass typing support : List String)
    (aliases : List (String × String)) : List String :=
  (comment.map fun line => "# " ++ line) ++
    (if late then ["from __future__ import annotations", ""] else []) ++
    (if dataclass.isEmpty then [] else ["from dataclasses import " ++ commaSeparated dataclass]) ++
    ["from typing import " ++ commaSeparated typing, "",
      "from openapi_model_gen.runtime import ("] ++
    (support.map fun name => "    " ++ name ++ ",") ++ [")"] ++
    aliases.flatMap fun (name, values) => ["", name ++ ": TypeAlias = " ++ values]

/-- The list of exported names. -/
def exportList (exports : List String) : List String :=
  ["__all__ = ["] ++ (exports.map fun name => "    \"" ++ name ++ "\",") ++ ["]"]

/-- The lines of a block as text. -/
def blockText (lines : List String) : String := String.intercalate "\n" lines

/-- The contract of a model with fields. -/
def recordContract (contracts : Contracts) (name : String) : Except Fault RecordContract :=
  match contracts.get? name with
  | some (.record c) => .ok c
  | _ => .error (.unknownName name)

/-- The contract of a union. -/
def unionContract (contracts : Contracts) (name : String) : Except Fault UnionContract :=
  match contracts.get? name with
  | some (.union c) => .ok c
  | _ => .error (.unknownName name)

/-- The text of the module of a table. -/
def moduleText (late : Bool) (comment : String) (table : Table) (contracts : Contracts) :
    Except Fault String := do
  let names := Names.ofTable table
  let aliases ← table.enums.mapM (enumAlias names)
  let records ← table.models.filterMapM fun
    | .record r => do return some (← recordBlock names late r (← recordContract contracts r.name))
    | .union _ => pure none
  let unions ← table.models.filterMapM fun
    | .record _ => pure none
    | .union u => do return some (← unionBlock names late u (← unionContract contracts u.name))
  let blocks := records ++ unions
  let support := importOrder ("UNSET" :: blocks.flatMap (·.imports))
  let first := header ((Text.lines comment.toList).map String.ofList) late
    (dataclassImports table) (typingImports names table) support aliases
  let exports := aliases.map (·.1) ++ blocks.flatMap (·.exports)
  return String.intercalate "\n\n\n"
    (([first] ++ blocks.map (·.lines) ++ [exportList exports]).map blockText) ++ "\n"

end WireModel.Emit
