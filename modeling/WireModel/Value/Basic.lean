import WireModel.Decimal.Binary64
import WireModel.Naming

/-!
# Values

The dynamic values that documents, defaults, options and codecs share. A mapping is a list of
entries in order, and its keys are values too; a record is an instance of a model, its fields
in declaration order. `unset` stands for a field that is absent from the wire form, which is
different from an explicit `null`. A document may name a collection inside itself; a `knot` stands
at such a place.
-/

namespace WireModel

/-- A dynamic value. -/
inductive Value where
  | null
  | bool (b : Bool)
  | int (n : Int)
  | float (x : Decimal.Binary64)
  | str (s : String)
  | list (items : List Value)
  | tuple (items : List Value)
  | map (entries : List (Value × Value))
  | unset
  | record (model : String) (fields : List (String × Value))
  /-- A mapping, or a list, at a place within itself. -/
  | knot (mapping : Bool)
  deriving Inhabited

namespace Value

/-! ## Kinds -/

/-- The name of a value's kind in messages. -/
def kindName : Value → String
  | .null => "NoneType"
  | .bool _ => "bool"
  | .int _ => "int"
  | .float _ => "float"
  | .str _ => "str"
  | .list _ => "list"
  | .tuple _ => "tuple"
  | .map _ => "dict"
  | .unset => "Unset"
  | .record model _ => Naming.className model
  | .knot mapping => if mapping then "dict" else "list"

/-- Whether two values are of one kind; records are of one kind when their models are. -/
def sameKind : Value → Value → Bool
  | .null, .null | .bool _, .bool _ | .int _, .int _ | .float _, .float _ | .str _, .str _
  | .list _, .list _ | .tuple _, .tuple _ | .map _, .map _ | .unset, .unset => true
  | .record m _, .record n _ => m == n
  | .knot a, .knot b => a == b
  | _, _ => false

def isNull : Value → Bool
  | .null => true
  | _ => false

def isUnset : Value → Bool
  | .unset => true
  | _ => false

def isMap : Value → Bool
  | .map _ => true
  | _ => false

/-- Lists and tuples. -/
def isSequence : Value → Bool
  | .list _ | .tuple _ => true
  | _ => false

def asStr? : Value → Option String
  | .str s => some s
  | _ => none

/-- The elements of a list or a tuple. -/
def elements? : Value → Option (List Value)
  | .list items | .tuple items => some items
  | _ => none

def entries? : Value → Option (List (Value × Value))
  | .map entries => some entries
  | _ => none

/-- Values that count as nothing when an option is read: null, absence, false, zero and
everything empty. -/
def isTruthy : Value → Bool
  | .null | .unset => false
  | .bool b => b
  | .int n => n != 0
  | .float x => !x.isZero
  | .str s => !s.isEmpty
  | .list items | .tuple items => !items.isEmpty
  | .map entries => !entries.isEmpty
  | .record _ _ | .knot _ => true

/-! ## Mappings with text keys -/

/-- Whether a value is the given text. -/
def isText (s : String) : Value → Bool
  | .str t => t == s
  | _ => false

/-- The value under a text key. -/
def lookup (key : String) : List (Value × Value) → Option Value
  | [] => none
  | (k, v) :: rest => if k.isText key then some v else lookup key rest

/-- Whether a text is a key. -/
def hasKey (key : String) (entries : List (Value × Value)) : Bool := (lookup key entries).isSome

/-- Sets the value of a text key: in its place if it is there, otherwise at the end. -/
def setKey (key : String) (v : Value) : List (Value × Value) → List (Value × Value)
  | [] => [(.str key, v)]
  | (k, w) :: rest => if k.isText key then (k, v) :: rest else (k, w) :: setKey key v rest

/-- A mapping with text keys. -/
def ofFields (fields : List (String × Value)) : Value :=
  .map (fields.map fun (k, v) => (.str k, v))

/-- A list of texts. -/
def ofTexts (texts : List String) : Value := .list (texts.map .str)

/-- Null for nothing. -/
def ofOption (f : α → Value) : Option α → Value
  | none => .null
  | some a => f a

/-! ## Depth -/

mutual

/-- How deep lists, mappings and records are nested. -/
def depth : Value → Nat
  | .list items | .tuple items => depthList items + 1
  | .map entries => depthEntries entries + 1
  | .record _ fields => depthFields fields + 1
  | _ => 0

def depthList : List Value → Nat
  | [] => 0
  | v :: rest => max v.depth (depthList rest)

def depthEntries : List (Value × Value) → Nat
  | [] => 0
  | (k, v) :: rest => max (max k.depth v.depth) (depthEntries rest)

def depthFields : List (String × Value) → Nat
  | [] => 0
  | (_, v) :: rest => max v.depth (depthFields rest)

end

/-! ## Laws -/

theorem sameKind_self (v : Value) : v.sameKind v = true := by
  cases v <;> simp [sameKind]

theorem depth_le_of_mem {v : Value} {items : List Value} (h : v ∈ items) :
    v.depth ≤ depthList items := by
  induction items with
  | nil => cases h
  | cons w rest ih =>
      simp only [depthList]
      cases h with
      | head => exact Nat.le_max_left _ _
      | tail _ h => exact Nat.le_trans (ih h) (Nat.le_max_right _ _)

theorem depth_le_of_lookup {key : String} {v : Value} {entries : List (Value × Value)}
    (h : lookup key entries = some v) : v.depth ≤ depthEntries entries := by
  induction entries with
  | nil => cases h
  | cons entry rest ih =>
      obtain ⟨k, w⟩ := entry
      simp only [lookup] at h
      simp only [depthEntries]
      split at h
      · cases h; omega
      · have := ih h; omega

theorem lookup_isSome_iff {key : String} {entries : List (Value × Value)} :
    (lookup key entries).isSome ↔ ∃ entry ∈ entries, entry.1.isText key = true := by
  induction entries with
  | nil => simp [lookup]
  | cons entry rest ih =>
      obtain ⟨k, w⟩ := entry
      simp only [lookup]
      by_cases h : k.isText key = true <;> simp [h, ih]

theorem lookup_setKey (key : String) (v : Value) (entries : List (Value × Value)) :
    lookup key (setKey key v entries) = some v := by
  induction entries with
  | nil => simp [setKey, lookup, isText]
  | cons entry rest ih =>
      obtain ⟨k, w⟩ := entry
      simp only [setKey]
      split <;> simp_all [lookup]

end Value
end WireModel
