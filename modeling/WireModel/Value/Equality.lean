import WireModel.Value.Basic

/-!
# Equality of values

`same` compares values as numbers, texts and containers: an integer, a float and a Boolean are
the same when their numbers are, at any depth, and mappings are compared without regard to the
order of their entries. A not-a-number is the same as nothing. Parts of containers are compared
by `alike`, to which a not-a-number is like itself; two of them are told apart by their fractions.
`member` asks for one kind as well, but only of the outermost value.
-/

namespace WireModel.Value

/-- A number: Booleans count as zero and one. -/
inductive Number where
  | int (n : Int)
  | float (x : Decimal.Binary64)

/-- The number that a value is. -/
def number? : Value → Option Number
  | .bool b => some (.int (if b then 1 else 0))
  | .int n => some (.int n)
  | .float x => some (.float x)
  | _ => none

/-- Exact comparison of numbers. -/
def Number.same : Number → Number → Bool
  | .int m, .int n => m == n
  | .int m, .float x | .float x, .int m => x.isInt m
  | .float x, .float y => x.sameNumber y

/-- Comparison of values that are no containers. -/
def sameScalar : Value → Value → Bool
  | .null, .null | .unset, .unset => true
  | .str s, .str t => s == t
  | .knot a, .knot b => a == b
  | v, w =>
    match v.number?, w.number? with
    | some m, some n => m.same n
    | _, _ => false

mutual

/-- Whether two parts of containers are the same, or one and the same not-a-number. -/
def alike : Value → Value → Bool
  | .float x, .float y => x == y || x.sameNumber y
  | .list xs, .list ys | .tuple xs, .tuple ys => alikeList xs ys
  | .map xs, .map ys => xs.length == ys.length && alikeEntries xs ys
  | .record m xs, .record n ys => m == n && alikeFields xs ys
  | v, w => sameScalar v w

/-- Whether two lists have like values in one order. -/
def alikeList : List Value → List Value → Bool
  | [], [] => true
  | v :: vs, w :: ws => alike v w && alikeList vs ws
  | _, _ => false

/-- Whether each entry of the first mapping has a counterpart in the second. -/
def alikeEntries : List (Value × Value) → List (Value × Value) → Bool
  | [], _ => true
  | (k, v) :: rest, others =>
    (match others.find? fun entry => alike k entry.1 with
      | some entry => alike v entry.2
      | none => false) && alikeEntries rest others

/-- Whether two records have like values in one order. -/
def alikeFields : List (String × Value) → List (String × Value) → Bool
  | [], [] => true
  | (_, v) :: vs, (_, w) :: ws => alike v w && alikeFields vs ws
  | _, _ => false

end

/-- Whether two values are the same. -/
def same : Value → Value → Bool
  | .float x, .float y => x.sameNumber y
  | v, w => alike v w

/-- Whether a value is one of the given ones, kind included. -/
def member (candidates : List Value) (v : Value) : Bool :=
  candidates.any fun candidate => v.same candidate && v.sameKind candidate

/-! ## Mappings with any keys -/

/-- Sets the value of a key: in its place if it is there, otherwise at the end. -/
def insert (key v : Value) : List (Value × Value) → List (Value × Value)
  | [] => [(key, v)]
  | (k, w) :: rest => if k.alike key then (k, v) :: rest else (k, w) :: insert key v rest

/-- A mapping of entries that are set one after another. -/
def ofEntries (entries : List (Value × Value)) : Value :=
  .map (entries.foldl (fun set entry => insert entry.1 entry.2 set) [])

/-! ## Identity -/

mutual

/-- Whether two values agree in every detail: kinds, bits of floats and order of entries. -/
def identical : Value → Value → Bool
  | .null, .null | .unset, .unset => true
  | .bool a, .bool b => a == b
  | .int m, .int n => m == n
  | .float x, .float y => x == y
  | .str s, .str t => s == t
  | .knot a, .knot b => a == b
  | .list xs, .list ys | .tuple xs, .tuple ys => identicalList xs ys
  | .map xs, .map ys => identicalEntries xs ys
  | .record m xs, .record n ys => m == n && identicalFields xs ys
  | _, _ => false

def identicalList : List Value → List Value → Bool
  | [], [] => true
  | v :: vs, w :: ws => identical v w && identicalList vs ws
  | _, _ => false

def identicalEntries : List (Value × Value) → List (Value × Value) → Bool
  | [], [] => true
  | (k, v) :: vs, (l, w) :: ws => identical k l && identical v w && identicalEntries vs ws
  | _, _ => false

def identicalFields : List (String × Value) → List (String × Value) → Bool
  | [], [] => true
  | (a, v) :: vs, (b, w) :: ws => a == b && identical v w && identicalFields vs ws
  | _, _ => false

end

mutual

theorem eq_of_identical : ∀ {v w : Value}, identical v w = true → v = w
  | .null, w, h => by cases w <;> simp_all [identical]
  | .unset, w, h => by cases w <;> simp_all [identical]
  | .bool _, w, h => by cases w <;> simp_all [identical]
  | .int _, w, h => by cases w <;> simp_all [identical]
  | .float _, w, h => by cases w <;> simp_all [identical]
  | .str _, w, h => by cases w <;> simp_all [identical]
  | .knot _, w, h => by cases w <;> simp_all [identical]
  | .list xs, w, h => by
    cases w <;> simp only [identical, Bool.false_eq_true] at h
    rw [eq_of_identicalList h]
  | .tuple xs, w, h => by
    cases w <;> simp only [identical, Bool.false_eq_true] at h
    rw [eq_of_identicalList h]
  | .map xs, w, h => by
    cases w <;> simp only [identical, Bool.false_eq_true] at h
    rw [eq_of_identicalEntries h]
  | .record m xs, w, h => by
    cases w <;> simp only [identical, Bool.false_eq_true, Bool.and_eq_true, beq_iff_eq] at h
    rw [h.1, eq_of_identicalFields h.2]

theorem eq_of_identicalList : ∀ {vs ws : List Value}, identicalList vs ws = true → vs = ws
  | [], ws, h => by cases ws <;> simp_all [identicalList]
  | v :: vs, ws, h => by
    cases ws <;> simp only [identicalList, Bool.false_eq_true, Bool.and_eq_true] at h
    rw [eq_of_identical h.1, eq_of_identicalList h.2]

theorem eq_of_identicalEntries :
    ∀ {vs ws : List (Value × Value)}, identicalEntries vs ws = true → vs = ws
  | [], ws, h => by cases ws <;> simp_all [identicalEntries]
  | (k, v) :: vs, [], h => by simp [identicalEntries] at h
  | (k, v) :: vs, (l, w) :: ws, h => by
    simp only [identicalEntries, Bool.and_eq_true] at h
    rw [eq_of_identical h.1.1, eq_of_identical h.1.2, eq_of_identicalEntries h.2]

theorem eq_of_identicalFields :
    ∀ {vs ws : List (String × Value)}, identicalFields vs ws = true → vs = ws
  | [], ws, h => by cases ws <;> simp_all [identicalFields]
  | (a, v) :: vs, [], h => by simp [identicalFields] at h
  | (a, v) :: vs, (b, w) :: ws, h => by
    simp only [identicalFields, Bool.and_eq_true, beq_iff_eq] at h
    rw [h.1.1, eq_of_identical h.1.2, eq_of_identicalFields h.2]

end

/-! ## Laws -/

theorem sameScalar_str (s t : String) : sameScalar (.str s) (.str t) = (s == t) := rfl

theorem same_str (s t : String) : same (.str s) (.str t) = (s == t) := by
  simp [same, alike, sameScalar]

theorem same_null_iff {v : Value} : same v .null = true ↔ v = .null := by
  cases v <;> simp [same, alike, sameScalar, number?]

theorem alike_of_same {v w : Value} (h : same v w = true) : alike v w = true := by
  unfold same at h
  split at h
  · simp [alike, h]
  · exact h

theorem member_cons (v c : Value) (candidates : List Value) :
    member (c :: candidates) v = ((v.same c && v.sameKind c) || member candidates v) := rfl

end WireModel.Value
