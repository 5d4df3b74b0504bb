import WireModel.Json.Reader
import WireModel.Schema.Node
import WireModel.Text.Utf8
import WireModel.Value.Display
import WireModel.Warning

/-!
# Faults of schema documents

Why a document is no schema document, and where the reason lies in it.
-/

namespace WireModel.Schema

-- powers are those of the core library, whatever else is in scope
attribute [local instance (high)] instPowNat

/-- What is wrong with a document. -/
inductive Cause where
  | unreadable (reason : String)
  /-- The path of the document has a NUL character. -/
  | nullCharacter
  | notUtf8 (malformed : Text.Utf8.Malformed)
  | invalidJson (cause : Json.Cause)
  | invalidYaml
  | overlong (number : Decimal.Overlong)
  /-- A number in a base without any digit of it. -/
  | noDigits (base : Nat)
  /-- A character of a code that no character has. -/
  | noCharacter (code : Nat)
  /-- A number with a place whose weight is beyond the doubles. -/
  | tooManyPlaces
  | documentNotObject
  | containerNotObject
  | schemaName (key : Value)
  | rootCollision (name : String)
  | notObject
  | referenceNotText
  | externalReference (reference : String)
  | rootNotModel
  | notPointer (reference : String)
  | notNamedSchema (reference : String)
  | noMembers (combination : Combination)
  | discriminatorNotObject
  | discriminatorProperty
  | mappingNotObject
  | mappingTarget (key : Value)
  | enumNotArray
  | typeNotText
  | unknownType (type : Value)
  | emptyItems
  | propertiesNotObject
  | requiredNotTexts

def Cause.message : Cause → String
  | .unreadable reason => "cannot read schema file: " ++ reason
  | .nullCharacter => "embedded null byte"
  | .notUtf8 malformed => "document is not valid UTF-8: " ++ malformed.message
  | .invalidJson cause => "invalid JSON: " ++ cause.message
  | .invalidYaml => "invalid YAML:"
  | .overlong number => number.message
  | .noDigits base => "invalid literal for int() with base " ++ Decimal.ofNat base ++ ": ''"
  | .noCharacter code =>
    if code < 2 ^ (31 : Nat) then "chr() arg not in range(0x110000)"
    else "Python int too large to convert to C int"
  | .tooManyPlaces => "int too large to convert to float"
  | .documentNotObject => "schema document must be an object"
  | .containerNotObject => "named schemas must be an object"
  | .schemaName key => "schema name " ++ key.display ++ " must be a non-empty string"
  | .rootCollision name => "root schema name '" ++ name ++ "' collides with a named schema"
  | .notObject => "schema must be an object"
  | .referenceNotText => "$ref must be a non-empty string"
  | .externalReference reference => "external reference '" ++ reference ++ "' is not supported"
  | .rootNotModel => "reference to the document root, which is not a model"
  | .notPointer reference => "reference '" ++ reference ++ "' is not a JSON pointer"
  | .notNamedSchema reference =>
    "reference '" ++ reference ++ "' does not point to a named schema"
  | .noMembers combination =>
    "'" ++ combination.keyword ++ "' must be a non-empty array of schemas"
  | .discriminatorNotObject => "discriminator must be an object"
  | .discriminatorProperty => "discriminator.propertyName must be a non-empty string"
  | .mappingNotObject => "discriminator mapping must be an object"
  | .mappingTarget key => "mapping target for " ++ key.display ++ " must be a string"
  | .enumNotArray => "enum must be an array"
  | .typeNotText => "type must be a string or a non-empty array of strings"
  | .unknownType type => "unknown type " ++ type.display
  | .emptyItems => "items must not be an empty array"
  | .propertiesNotObject => "properties must be an object"
  | .requiredNotTexts => "required must be an array of strings"

/-- A cause and its place: a pointer into the document, or the name of the document. -/
structure Fault where
  location : String
  cause : Cause

/-- Whether a cause is one of numbers and characters, which are told without a place. -/
def Cause.isUnplaced : Cause → Bool
  | .nullCharacter | .overlong _ | .noDigits _ | .noCharacter _ | .tooManyPlaces => true
  | _ => false

/-- Whether a cause is a number that is beyond the range it is needed in. -/
def Cause.isOverflow : Cause → Bool
  | .noCharacter code => 2 ^ (31 : Nat) ≤ code
  | .tooManyPlaces => true
  | _ => false

def Fault.message (fault : Fault) : String :=
  if fault.cause.isUnplaced then fault.cause.message
  else (if fault.location.isEmpty then "#" else fault.location) ++ ": " ++ fault.cause.message

/-- Reading a part of a document. -/
abbrev Reading := Logged Fault

/-- Stops with a fault. -/
def Reading.fail {α : Type} (location : String) (cause : Cause) : Reading α :=
  throw ⟨location, cause⟩

/-- Goes on only if a value can be shown. -/
def Reading.requireTellable (v : Value) : Reading Unit :=
  if v.isTellable then pure () else .fail "" (.overlong .written)

/-- Stops with a fault that shows a value. -/
def Reading.failAbout {α : Type} (v : Value) (location : String) (cause : Cause) : Reading α := do
  requireTellable v
  .fail location cause

end WireModel.Schema
