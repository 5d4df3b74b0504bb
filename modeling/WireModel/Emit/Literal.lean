import WireModel.Json.Writer
import WireModel.Value.Display

/-!
# Literals

Values as they are written in generated modules. Texts are in ASCII between double quotes, and
lists and tuples are written alike.
-/

namespace WireModel.Emit

/-- Why there is no text. -/
inductive Fault where
  /-- A value that has no literal. -/
  | unrenderable (v : Value)
  /-- A name that nothing in the module has. -/
  | unknownName (name : String)
  /-- A value that a report cannot hold. -/
  | notJson (refusal : Json.Refusal)
  /-- An integer is too long. -/
  | overlong

def Fault.message : Fault → String
  | .unrenderable v => "Cannot render " ++ v.display ++ " as a Python literal"
  | .unknownName name => Text.quoted name
  | .notJson refusal => refusal.message
  | .overlong => Decimal.Overlong.written.message

/-- Parts separated by a comma and a blank. -/
def commaSeparated (parts : List String) : String := String.intercalate ", " parts

/-- The refusal of a value that has no literal. -/
def refuse (v : Value) : Fault := if v.isTellable then .unrenderable v else .overlong

mutual

/-- The literal of a value. -/
def literal : Value → Except Fault String
  | .str s => .ok (Json.quote s)
  | .list items | .tuple items => do
    let parts ← literals items
    return "[" ++ commaSeparated parts ++ "]"
  | .map entries => do
    let parts ← entryLiterals entries
    return "\x7b" ++ commaSeparated parts ++ "\x7d"
  | .unset => .error (refuse .unset)
  | .record model fields => .error (refuse (.record model fields))
  | .knot mapping => .error (refuse (.knot mapping))
  | .int n => if Decimal.isWritable n then .ok (Decimal.ofInt n) else .error .overlong
  | v => .ok v.display

def literals : List Value → Except Fault (List String)
  | [] => .ok []
  | v :: rest => do
    let part ← literal v
    let parts ← literals rest
    return part :: parts

def entryLiterals : List (Value × Value) → Except Fault (List String)
  | [] => .ok []
  | (k, v) :: rest => do
    let key ← literal k
    let part ← literal v
    let parts ← entryLiterals rest
    return (key ++ ": " ++ part) :: parts

end

/-- The parts of a tuple; one part alone is followed by a comma. -/
def tupleText (parts : List String) : String :=
  match parts with
  | [part] => "(" ++ part ++ ",)"
  | _ => "(" ++ commaSeparated parts ++ ")"

/-- The literal of a tuple of values. -/
def tupleLiteral (values : List Value) : Except Fault String :=
  (literals values).map tupleText

theorem literal_str (s : String) : literal (.str s) = .ok (Json.quote s) := by
  simp [literal]

end WireModel.Emit
