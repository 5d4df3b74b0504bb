import WireModel.Schema.Fault
import WireModel.Yaml.Reader

/-!
# Documents

A document comes as a value, as text, or as the octets of a UTF-8 text. Text without a stated
format is JSON if it reads as such, and YAML if it is malformed as JSON.
-/

namespace WireModel

/-- The formats of document text. -/
inductive Format where
  | json
  | yaml
  deriving DecidableEq

/-- A document as it is given. -/
inductive Document where
  | value (v : Value)
  | text (s : String)
  | octets (bytes : List UInt8)

namespace Document

open Schema

/-- The cause of a fault in YAML text. -/
def yamlCause : Yaml.Fault → Cause
  | .malformed => .invalidYaml
  | .noDigits base => .noDigits base
  | .overlong digits => .overlong (.read digits)
  | .noCharacter code => .noCharacter code
  | .tooManyPlaces => .tooManyPlaces

/-- Reads YAML text. -/
def readYaml (s source : String) : Except Fault Value :=
  (Yaml.read s).mapError fun fault => ⟨source, yamlCause fault⟩

/-- The name of a document with a line and a column. -/
def placeIn (source : String) (cs : List Char) (position : Nat) : String :=
  source ++ ":" ++ Decimal.ofNat (Json.lineAt cs position) ++ ":" ++
    Decimal.ofNat (Json.columnAt cs position)

/-- Reads text of a stated format, or of either. -/
def readText (s source : String) (format : Option Format) : Except Fault Value :=
  match format with
  | some .yaml => readYaml s source
  | some .json =>
    match Json.read s with
    | .ok v => .ok v
    | .error (.malformed cause position) =>
      .error ⟨placeIn source s.toList position, .invalidJson cause⟩
    | .error (.overlong digits) => .error ⟨source, .overlong (.read digits)⟩
  | none =>
    match Json.read s with
    | .ok v => .ok v
    | .error (.malformed ..) => readYaml s source
    | .error (.overlong digits) => .error ⟨source, .overlong (.read digits)⟩

/-- The text of octets. -/
def decode (bytes : List UInt8) (source : String) : Except Fault String :=
  match Text.Utf8.decode bytes with
  | .ok s => .ok s
  | .error malformed => .error ⟨source, .notUtf8 malformed⟩

/-- The value of a document. A value that is a text is read as text again. -/
def read (document : Document) (source : String) : Except Fault Value :=
  match document with
  | .value (.str s) | .text s => readText s source none
  | .value v => .ok v
  | .octets bytes => (decode bytes source).bind fun s => readText s source none

theorem readText_json_ok {s source : String} {v : Value}
    (h : readText s source (some .json) = .ok v) : readText s source none = .ok v := by
  unfold readText at h ⊢
  cases hr : Json.read s with
  | ok w => simp_all
  | error fault => cases fault <;> simp_all

end Document
end WireModel
