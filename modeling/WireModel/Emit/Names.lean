import WireModel.Emit.Literal
import WireModel.Table.Basic

/-!
# The names of a generated module

Every model and every named enumeration gets a class, and every model three functions. No two
of them have one name, and none has a name that the module imports.
-/

namespace WireModel.Emit

/-- The names that the module may import from its support library. -/
def supportNames : List String :=
  ["UNSET", "Unset", "Codec", "Predicate", "DecodeError", "MissingRequiredFieldError",
   "NoMatchingVariantError", "TypeMismatchError", "UnexpectedNullError",
   "UnknownDiscriminatorValueError", "UnknownEnumValueError", "identity", "enum_of", "nullable",
   "list_of", "dict_of", "first_match", "select_variant", "dispatch_on", "any_of", "has_required",
   "is_primitive", "is_sequence", "is_mapping", "is_enum_member", "is_model", "require_mapping",
   "decode_field", "encode_field"]

/-- All names that the module may import. -/
def reservedNames : List String :=
  supportNames ++ ["Any", "Literal", "TypeAlias", "dataclass", "field", "annotations"]

/-- The functions of a model: the check, the decoder and the encoder. -/
def checkName (base : String) : String := "is_" ++ base

def decoderName (base : String) : String := base ++ "_from_dict"

def encoderName (base : String) : String := base ++ "_to_dict"

def functionNames (base : String) : List String :=
  [checkName base, decoderName base, encoderName base]

/-- Names with what they stand for, and all names in use. -/
structure Names where
  /-- The class of each model and enumeration. -/
  classes : List (String × String) := []
  /-- What the functions of each model are named after. -/
  bases : List (String × String) := []
  taken : List String := reservedNames

namespace Names

/-- Gives a model or an enumeration its class. -/
def addClass (names : Names) (name : String) : Names :=
  let c := Naming.uniqueName (Naming.className name) names.taken
  { names with classes := names.classes ++ [(name, c)], taken := c :: names.taken }

/-- Whether a name for functions is new. -/
def isFree (taken : List String) (base : String) : Bool :=
  !(functionNames base).any taken.contains

/-- The first of `base`, numbered from `index` on, that is free. -/
def numbered (taken : List String) (base : String) : Nat → Nat → String
  | 0, index => base ++ Decimal.ofNat index
  | fuel + 1, index =>
    let candidate := base ++ Decimal.ofNat index
    if isFree taken candidate then candidate else numbered taken base fuel (index + 1)

/-- The base itself, or with the first number from two on that makes it free; a name that is
taken rules out at most three of them. -/
def freeBase (taken : List String) (base : String) : String :=
  if isFree taken base then base else numbered taken base (3 * taken.length) 2

/-- A text without the underscores at its end. -/
def dropUnderscores (s : String) : String :=
  String.ofList (s.toList.reverse.dropWhile (· == '_')).reverse

/-- Gives a model its functions. -/
def addFunctions (names : Names) (name : String) : Names :=
  let c := (names.classes.lookup name).getD name
  let base := dropUnderscores (Naming.attributeName c)
  let base := freeBase names.taken (if base.isEmpty then "model" else base)
  { names with bases := names.bases ++ [(name, base)], taken := functionNames base ++ names.taken }

/-- The names of a table: classes of enumerations, classes of models, functions. -/
def ofTable (table : Table) : Names :=
  let names := (table.enums.map (·.name) ++ table.names).foldl addClass {}
  table.names.foldl addFunctions names

/-- The class of a model or an enumeration. -/
def classOf (names : Names) (name : String) : Except Fault String :=
  match names.classes.lookup name with
  | some c => .ok c
  | none => .error (.unknownName name)

/-- What the functions of a model are named after. -/
def baseOf (names : Names) (name : String) : Except Fault String :=
  match names.bases.lookup name with
  | some base => .ok base
  | none => .error (.unknownName name)

theorem isFree_iff {taken : List String} {base : String} :
    isFree taken base = true ↔ ∀ n ∈ functionNames base, n ∉ taken := by
  simp [isFree]

end Names
end WireModel.Emit
