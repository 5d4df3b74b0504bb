import WireModel.Decimal.Limit
import WireModel.Text.Printable
import WireModel.Value.Basic

/-!
# How messages show values

Texts are quoted, containers are bracketed with their parts separated by a comma and a blank,
and a record shows its class and its fields. A value with an integer that is too long cannot be
shown; whoever is about to show one asks first.
-/

namespace WireModel.Value

/-- Parts separated by a comma and a blank. -/
def commaSeparated (parts : List String) : String := String.intercalate ", " parts

mutual

/-- A value as messages show it. -/
def display : Value → String
  | .null => "None"
  | .bool b => if b then "True" else "False"
  | .int n => Decimal.ofInt n
  | .float x => Decimal.Style.plain.ofBinary64 x
  | .str s => Text.quoted s
  | .list items => "[" ++ commaSeparated (displayList items) ++ "]"
  | .tuple [v] => "(" ++ display v ++ ",)"
  | .tuple items => "(" ++ commaSeparated (displayList items) ++ ")"
  | .map entries => "\x7b" ++ commaSeparated (displayEntries entries) ++ "\x7d"
  | .unset => "UNSET"
  | .record model fields =>
    Naming.className model ++ "(" ++ commaSeparated (displayFields fields) ++ ")"
  | .knot mapping => if mapping then "\x7b...\x7d" else "[...]"

def displayList : List Value → List String
  | [] => []
  | v :: rest => display v :: displayList rest

def displayEntries : List (Value × Value) → List String
  | [] => []
  | (k, v) :: rest => (display k ++ ": " ++ display v) :: displayEntries rest

def displayFields : List (String × Value) → List String
  | [] => []
  | (name, v) :: rest => (name ++ "=" ++ display v) :: displayFields rest

end

mutual

/-- Whether a value can be shown: all its integers have a decimal text. -/
def isTellable : Value → Bool
  | .int n => Decimal.isWritable n
  | .list items | .tuple items => areTellable items
  | .map entries => areTellableEntries entries
  | .record _ fields => areTellableFields fields
  | _ => true

def areTellable : List Value → Bool
  | [] => true
  | v :: rest => v.isTellable && areTellable rest

def areTellableEntries : List (Value × Value) → Bool
  | [] => true
  | (k, v) :: rest => k.isTellable && v.isTellable && areTellableEntries rest

def areTellableFields : List (String × Value) → Bool
  | [] => true
  | (_, v) :: rest => v.isTellable && areTellableFields rest

end

/-- A key as text: a text is itself, anything else is shown. -/
def keyText : Value → String
  | .str s => s
  | v => v.display

theorem displayList_length (items : List Value) : (displayList items).length = items.length := by
  induction items with
  | nil => rfl
  | cons v rest ih => simp [displayList, ih]

end WireModel.Value
