import WireModel.Emit.Names
import WireModel.Text.Search

/-!
# Annotations

Types as they are written in generated modules. Alternatives that read the same are written
once, and null is added to what does not end in it.
-/

namespace WireModel.Emit

open Types (WireType)

/-- The name of a kind in annotations. -/
def annotateKind : Schema.Kind → String
  | .string => "str"
  | .integer => "int"
  | .number => "float"
  | .boolean => "bool"
  | .null => "None"
  | .any => "Any"

/-- Whether an annotation ends with null. -/
def endsInNull (text : String) : Bool :=
  Text.endsWith text.toList "None".toList

/-- Adds null to an annotation that does not end with it. -/
def orNull (text : String) : String :=
  if endsInNull text then text else text ++ " | None"

/-- The annotation of the values of an enumeration. -/
def annotateValues (values : List Value) : Except Fault String := do
  return "Literal[" ++ commaSeparated (← literals values) ++ "]"

/-- The class of an enumeration, if it has a name and the module defines it. -/
def enumClass (names : Names) (name : Option String) : Option String :=
  name.bind fun n => names.classes.lookup n

mutual

/-- The annotation of a type. -/
def annotate (names : Names) : WireType → Except Fault String
  | .primitive kind _ => .ok (annotateKind kind)
  | .enum name values _ =>
    match enumClass names name with
    | some c => .ok c
    | none => annotateValues values
  | .sequence element => do return "list[" ++ (← annotate names element) ++ "]"
  | .mapping value => do return "dict[str, " ++ (← annotate names value) ++ "]"
  | .model name => names.classOf name
  | .union _ _ _ variants => do
    let parts ← annotateAll names variants
    return String.intercalate " | " parts.eraseDups
  | .nullable inner => do return orNull (← annotate names inner)
  | .optional inner => annotate names inner

def annotateAll (names : Names) : List WireType → Except Fault (List String)
  | [] => .ok []
  | t :: rest => do
    let part ← annotate names t
    let parts ← annotateAll names rest
    return part :: parts

end

mutual

/-- Whether the annotation of a type lists the values of an enumeration. -/
def listsValues (names : Names) : WireType → Bool
  | .enum name _ _ => (enumClass names name).isNone
  | .sequence inner | .mapping inner | .nullable inner | .optional inner =>
    listsValues names inner
  | .union _ _ _ variants => anyListsValues names variants
  | .primitive .. | .model _ => false

def anyListsValues (names : Names) : List WireType → Bool
  | [] => false
  | t :: rest => listsValues names t || anyListsValues names rest

end

/-- An annotation in a module: as it stands if annotations are evaluated late, otherwise
quoted. -/
def placed (late : Bool) (text : String) : String := if late then text else Json.quote text

theorem endsInNull_orNull (text : String) : endsInNull (orNull text) = true := by
  unfold orNull
  split
  · assumption
  · simp [endsInNull, Text.endsWith]

end WireModel.Emit
