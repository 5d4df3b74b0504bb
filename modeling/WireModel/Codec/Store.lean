import WireModel.Value.Basic

/-!
# Stores of instances and lists

An instance or a list can change after it is made, and the change shows in every value that holds
it. A store keeps both as objects, and a value holds a reference in the place of each. Decoding and
encoding hand some parts of a value on as they are; `through` finds out which, so that these
parts stay the same objects.

A part is found by marking: a list takes the form of a tuple and an instance that of its
reference. Where a mark comes out again and the list or instance does so without it, the part was
handed on.
-/

namespace WireModel.Codec

/-- The instances and lists that values refer to. -/
structure Store where
  objects : Array Value := #[]
  /-- The attributes that instances got beyond the fields of their models. -/
  added : List ((Nat × String) × Value) := []

namespace Store

/-! ## References -/

/-- A reference to an object, in the form of an instance of a model without a name. -/
def reference (index : Nat) : Value := .record "" [("", .int index)]

/-- The index of the object that a value refers to. -/
def index? : Value → Option Nat
  | .record "" [(_, .int index)] => some index.toNat
  | _ => none

/-- The object that a value refers to, or the value itself. -/
def object (s : Store) (v : Value) : Value :=
  ((index? v).bind fun index => s.objects[index]?).getD v

/-- A value without references, to a depth. -/
def resolveTo (s : Store) : Nat → Value → Value
  | 0, _ => .null
  | depth + 1, v =>
    let part := s.resolveTo depth
    match s.object v with
    | .list items => .list (items.map part)
    | .tuple items => .tuple (items.map part)
    | .map entries => .map (entries.map fun (k, v) => (k, part v))
    | .record model fields => .record model (fields.map fun (k, v) => (k, part v))
    | v => v

/-- A depth that no value reaches as long as no object holds itself. -/
def depthOf (s : Store) (v : Value) : Nat :=
  s.objects.foldl (fun depth object => depth + object.depth + 1) (v.depth + 1)

/-- A value without references. -/
def resolve (s : Store) (v : Value) : Value := s.resolveTo (s.depthOf v) v

/-! ## Keeping values -/

/-- Adds an object. -/
def add (object : Value) : StateM Store Value :=
  modifyGet fun s => (reference s.objects.size, { s with objects := s.objects.push object })

mutual

/-- Makes objects of the instances and lists in a value. -/
def keep : Value → StateM Store Value
  | .list items => do add (.list (← keepItems items))
  | .tuple items => do return .tuple (← keepItems items)
  | .map entries => do return .map (← keepEntries entries)
  | .record model fields =>
    if model.isEmpty then return .record model fields
    else do add (.record model (← keepFields fields))
  | v => return v

def keepItems : List Value → StateM Store (List Value)
  | [] => return []
  | v :: rest => do
    let v ← keep v
    return v :: (← keepItems rest)

def keepEntries : List (Value × Value) → StateM Store (List (Value × Value))
  | [] => return []
  | (k, v) :: rest => do
    let v ← keep v
    return (k, v) :: (← keepEntries rest)

def keepFields : List (String × Value) → StateM Store (List (String × Value))
  | [] => return []
  | (k, v) :: rest => do
    let v ← keep v
    return (k, v) :: (← keepFields rest)

end

/-! ## Changing objects -/

/-- The value of an attribute of an instance. -/
def attribute? (s : Store) (v : Value) (name : String) : Option Value :=
  match s.object v with
  | .record _ fields =>
    (fields.lookup name).orElse fun _ => do s.added.lookup (← index? v, name)
  | _ => none

/-- Sets an attribute of an instance; nothing else has attributes that can be set. -/
def setAttribute? (s : Store) (v : Value) (name : String) (w : Value) : Option Store :=
  match index? v, s.object v with
  | some index, .record model fields =>
    let (w, s) := (keep w).run s
    if (fields.lookup name).isSome then
      let fields := fields.map fun (k, old) => (k, if k == name then w else old)
      some { s with objects := s.objects.setIfInBounds index (.record model fields) }
    else some { s with added := ((index, name), w) :: s.added }
  | _, _ => none

/-- Adds an item at the end of a list. -/
def push? (s : Store) (v item : Value) : Option Store :=
  match index? v, s.object v with
  | some index, .list items =>
    let (item, s) := (keep item).run s
    some { s with objects := s.objects.setIfInBounds index (.list (items ++ [item])) }
  | _, _ => none

/-! ## What is handed on -/

/-- Lists of which one element is marked and the others are whole. -/
def oneMarked {α : Type} (whole : α → α) (marks : α → List (Nat × α)) :
    List α → List (Nat × List α)
  | [] => []
  | a :: rest =>
    ((marks a).map fun (index, marked) => (index, marked :: rest.map whole)) ++
      (oneMarked whole marks rest).map fun (index, others) => (index, whole a :: others)

/-- Applies a function to a value under a key. -/
def underKey {κ : Type} (f : Value → Value) : κ × Value → κ × Value
  | (k, v) => (k, f v)

/-- The marked forms of a value under a key. -/
def marksUnderKey {κ : Type} (marks : Value → List (Nat × Value)) :
    κ × Value → List (Nat × (κ × Value))
  | (k, v) => (marks v).map fun (index, marked) => (index, (k, marked))

/-- The forms of a value without references in which one object is marked, each with the index
of that object; outer objects first, to a depth. -/
def marksTo (s : Store) : Nat → Value → List (Nat × Value)
  | 0, _ => []
  | depth + 1, v =>
    let whole := s.resolveTo depth
    let marks := s.marksTo depth
    let outer :=
      match index? v, s.resolveTo (depth + 1) v with
      | some index, .list items => [(index, .tuple items)]
      | some index, .record .. => [(index, reference index)]
      | _, _ => []
    let inner :=
      match s.object v with
      | .list items => (oneMarked whole marks items).map fun (i, items) => (i, .list items)
      | .tuple items => (oneMarked whole marks items).map fun (i, items) => (i, .tuple items)
      | .map entries =>
        (oneMarked (underKey whole) (marksUnderKey marks) entries).map
          fun (i, entries) => (i, .map entries)
      | .record model fields =>
        (oneMarked (underKey whole) (marksUnderKey marks) fields).map
          fun (i, fields) => (i, .record model fields)
      | _ => []
    outer ++ inner

mutual

/-- A result with references to an object in the places where the result from its marked form
has the mark. -/
def relinked (index : Nat) : Value → Value → Value
  | .list _, .tuple _ => reference index
  | .list items, .list others => .list (relinkedItems index items others)
  | .tuple items, .tuple others => .tuple (relinkedItems index items others)
  | .map entries, .map others => .map (relinkedEntries index entries others)
  | .record model fields, .record other others =>
    if model.isEmpty then .record model fields
    else if other.isEmpty then reference index
    else .record model (relinkedFields index fields others)
  | v, _ => v

def relinkedItems (index : Nat) : List Value → List Value → List Value
  | v :: rest, w :: others => relinked index v w :: relinkedItems index rest others
  | items, _ => items

def relinkedEntries (index : Nat) :
    List (Value × Value) → List (Value × Value) → List (Value × Value)
  | (k, v) :: rest, (_, w) :: others =>
    (k, relinked index v w) :: relinkedEntries index rest others
  | entries, _ => entries

def relinkedFields (index : Nat) :
    List (String × Value) → List (String × Value) → List (String × Value)
  | (k, v) :: rest, (_, w) :: others =>
    (k, relinked index v w) :: relinkedFields index rest others
  | fields, _ => fields

end

/-- Runs a conversion on a value of a store. What the conversion hands on as it is comes out as
the reference that went in. -/
def through {ε : Type} (s : Store) (convert : Value → Except ε Value) (v : Value) :
    Except ε Value :=
  (convert (s.resolve v)).map fun result =>
    (s.marksTo (s.depthOf v) v).foldl (fun result (index, marked) =>
      match convert marked with
      | .ok other => relinked index result other
      | .error _ => result) result

/-! ## Laws -/

@[simp] theorem index?_reference (index : Nat) : index? (reference index) = some index := by
  simp [index?, reference]

/-- What is added is found again under its reference. -/
theorem object_add (s : Store) (v : Value) :
    ((add v).run s).2.object ((add v).run s).1 = v := by
  simp [add, object, StateT.run, modifyGet, MonadStateOf.modifyGet, StateT.modifyGet, pure]

/-- A conversion fails in a store as it does without one. -/
theorem through_eq_error_iff {ε : Type} (s : Store) (convert : Value → Except ε Value) (v : Value)
    (e : ε) : s.through convert v = .error e ↔ convert (s.resolve v) = .error e := by
  unfold through
  cases convert (s.resolve v) <;> simp [Except.map]

end Store
end WireModel.Codec
