import Mathlib.Data.List.Perm.Subperm
import Mathlib.Data.Nat.Find
import WireModel.Codec.Model
import WireModel.Proofs.Success

/-!
# Shapes at a glance

Which values a variant of a union takes, read from the table alone. The shape of a reference to
a union is that of any of its variants, so it is a path through unions to a type that decides.
The predicates of plans decide the same (`predicateFor_holds_iff`), although they cut a union
that they meet again: on a path of least length no union comes twice.

A predicate is read in two ways, on wire forms and on what decoding makes of them. The two differ
in records only, so shapes are stated for any reading of records.
-/

namespace WireModel

open Types (WireType)

/-- The first of some types that has a property. -/
def Types.IsFirst (shape : WireType → Prop) (ts : List WireType) (t : WireType) : Prop :=
  ∃ before after, ts = before ++ t :: after ∧ (∀ s ∈ before, ¬shape s) ∧ shape t

theorem Types.IsFirst.mem {shape : WireType → Prop} {ts : List WireType} {t : WireType}
    (h : Types.IsFirst shape ts t) : t ∈ ts := by
  obtain ⟨before, after, rfl, -, -⟩ := h
  exact List.mem_append_right _ List.mem_cons_self

/-- The type of a union's alternatives. -/
def UnionModel.type (u : UnionModel) : WireType :=
  .union (some u.name) u.mode u.discriminator u.variants

/-- A reading of records: whether a value is taken for the record of a name with some required
wire names. -/
abbrev RecordReading := String → List String → Value → Bool

/-- In the wire form a record is a mapping with all required names. -/
def RecordReading.wire : RecordReading := fun _ required v => Codec.hasRequired required v

/-- A decoded record is an instance of its model. -/
def RecordReading.held : RecordReading := fun model _ v => Codec.isInstanceOf model v

namespace Predicate

mutual

/-- Whether a predicate takes a value under a reading of records. -/
def holds (takes : RecordReading) (v : Value) : Predicate → Bool
  | .record model required => takes model required v
  | .primitive kind => Codec.isKind kind v
  | .sequence => v.isSequence
  | .mapping => v.isMap
  | .enumMember values => v.member values
  | .anyOf predicates => anyHolds takes v predicates

def anyHolds (takes : RecordReading) (v : Value) : List Predicate → Bool
  | [] => false
  | p :: rest => p.holds takes v || anyHolds takes v rest

end

mutual

theorem holdsOfWire_eq (v : Value) :
    ∀ p : Predicate, p.holdsOfWire v = p.holds RecordReading.wire v
  | .record .. | .primitive _ | .sequence | .mapping | .enumMember _ => rfl
  | .anyOf predicates => anyHoldsOfWire_eq v predicates

theorem anyHoldsOfWire_eq (v : Value) :
    ∀ ps : List Predicate, anyHoldsOfWire ps v = anyHolds RecordReading.wire v ps
  | [] => rfl
  | p :: rest => by
    rw [anyHoldsOfWire, anyHolds, holdsOfWire_eq v p, anyHoldsOfWire_eq v rest]

end

mutual

theorem holdsOfDecoded_eq (v : Value) :
    ∀ p : Predicate, p.holdsOfDecoded v = p.holds RecordReading.held v
  | .record .. | .primitive _ | .sequence | .mapping | .enumMember _ => rfl
  | .anyOf predicates => anyHoldsOfDecoded_eq v predicates

theorem anyHoldsOfDecoded_eq (v : Value) :
    ∀ ps : List Predicate, anyHoldsOfDecoded ps v = anyHolds RecordReading.held v ps
  | [] => rfl
  | p :: rest => by
    rw [anyHoldsOfDecoded, anyHolds, holdsOfDecoded_eq v p, anyHoldsOfDecoded_eq v rest]

end
end Predicate

namespace Table

/-! ## Shapes -/

section

variable (table : Table) (takes : RecordReading) (v : Value)

/-- A value has the shape of a type: the kind, membership or required names that the type asks
for, of any variant if it asks for a union. -/
inductive HasShape : WireType → Prop
  | primitive {kind format} : Codec.isKind kind v = true → HasShape (.primitive kind format)
  | enum {name values kind} : v.member values = true → HasShape (.enum name values kind)
  | sequence {element} : v.isSequence = true → HasShape (.sequence element)
  | mapping {value} : v.isMap = true → HasShape (.mapping value)
  | optional {inner} : HasShape inner → HasShape (.optional inner)
  | nullable {inner} : HasShape inner → HasShape (.nullable inner)
  | record {name r} : table.get? name = some (.record r) →
      takes r.name r.requiredNames v = true → HasShape (.model name)
  | named {name u t} : table.get? name = some (.union u) → t ∈ u.variants → HasShape t →
      HasShape (.model name)
  | union {name mode d variants t} : t ∈ variants → HasShape t →
      HasShape (.union name mode d variants)

/-- `HasShape` with the number of steps to the type that decides. -/
inductive ShapeIn : Nat → WireType → Prop
  | primitive {kind format} : Codec.isKind kind v = true → ShapeIn 0 (.primitive kind format)
  | enum {name values kind} : v.member values = true → ShapeIn 0 (.enum name values kind)
  | sequence {element} : v.isSequence = true → ShapeIn 0 (.sequence element)
  | mapping {value} : v.isMap = true → ShapeIn 0 (.mapping value)
  | optional {n inner} : ShapeIn n inner → ShapeIn (n + 1) (.optional inner)
  | nullable {n inner} : ShapeIn n inner → ShapeIn (n + 1) (.nullable inner)
  | record {name r} : table.get? name = some (.record r) →
      takes r.name r.requiredNames v = true → ShapeIn 0 (.model name)
  | named {n name u t} : table.get? name = some (.union u) → t ∈ u.variants → ShapeIn n t →
      ShapeIn (n + 1) (.model name)
  | union {n name mode d variants t} : t ∈ variants → ShapeIn n t →
      ShapeIn (n + 1) (.union name mode d variants)

end

section

variable {table : Table} {takes : RecordReading} {v : Value}

theorem HasShape.exists_shapeIn {t : WireType} (h : table.HasShape takes v t) :
    ∃ n, table.ShapeIn takes v n t := by
  induction h with
  | primitive h => exact ⟨0, .primitive h⟩
  | enum h => exact ⟨0, .enum h⟩
  | sequence h => exact ⟨0, .sequence h⟩
  | mapping h => exact ⟨0, .mapping h⟩
  | optional _ ih => exact ih.imp' _ fun _ h => .optional h
  | nullable _ ih => exact ih.imp' _ fun _ h => .nullable h
  | record found h => exact ⟨0, .record found h⟩
  | named found mem _ ih => exact ih.imp' _ fun _ h => .named found mem h
  | union mem _ ih => exact ih.imp' _ fun _ h => .union mem h

/-! ## Predicates take no other values -/

mutual

theorem hasShape_of_predicateOf {ofModel : String → Except Contract.Fault Predicate}
    (model : ∀ name p, ofModel name = .ok p → p.holds takes v = true →
      table.HasShape takes v (.model name)) :
    ∀ {t : WireType} {p : Predicate}, Contract.predicateOf ofModel t = .ok p →
      p.holds takes v = true → table.HasShape takes v t
  | .optional inner, p, hp, h => .optional (hasShape_of_predicateOf model hp h)
  | .nullable inner, p, hp, h => .nullable (hasShape_of_predicateOf model hp h)
  | .primitive kind _, p, hp, h => by
    cases hp
    exact .primitive h
  | .enum _ values _, p, hp, h => by
    cases hp
    exact .enum h
  | .sequence _, p, hp, h => by
    cases hp
    exact .sequence h
  | .mapping _, p, hp, h => by
    cases hp
    exact .mapping h
  | .model name, p, hp, h => model name p hp h
  | .union _ _ _ variants, p, hp, h => by
    obtain ⟨ps, hps, rfl⟩ := map_eq_ok.mp hp
    obtain ⟨t, mem, ht⟩ := hasShape_of_predicatesOf model hps h
    exact .union mem ht

theorem hasShape_of_predicatesOf {ofModel : String → Except Contract.Fault Predicate}
    (model : ∀ name p, ofModel name = .ok p → p.holds takes v = true →
      table.HasShape takes v (.model name)) :
    ∀ {ts : List WireType} {ps : List Predicate}, Contract.predicatesOf ofModel ts = .ok ps →
      Predicate.anyHolds takes v ps = true → ∃ t ∈ ts, table.HasShape takes v t
  | [], ps, hps, h => by
    cases hps
    simp [Predicate.anyHolds] at h
  | t :: rest, ps, hps, h => by
    simp only [Contract.predicatesOf, bind_eq_ok, pure_eq_ok] at hps
    obtain ⟨p, hp, ps', hps', rfl⟩ := hps
    simp only [Predicate.anyHolds, Bool.or_eq_true] at h
    rcases h with h | h
    · exact ⟨t, List.mem_cons_self, hasShape_of_predicateOf model hp h⟩
    · obtain ⟨s, mem, hs⟩ := hasShape_of_predicatesOf model hps' h
      exact ⟨s, List.mem_cons_of_mem _ mem, hs⟩

end

theorem hasShape_of_modelPredicate :
    ∀ (depth : Nat) (seen : List String) (name : String) (p : Predicate),
      Contract.modelPredicate table depth seen name = .ok p → p.holds takes v = true →
        table.HasShape takes v (.model name)
  | 0, seen, name, p, hp, h => by
    cases hp
    simp [Predicate.holds, Predicate.anyHolds] at h
  | depth + 1, seen, name, p, hp, h => by
    simp only [Contract.modelPredicate] at hp
    split at hp
    · cases hp
    · rename_i r found
      cases hp
      exact .record found h
    · rename_i u found
      split at hp
      · cases hp
        simp [Predicate.holds, Predicate.anyHolds] at h
      · obtain ⟨ps, hps, rfl⟩ := map_eq_ok.mp hp
        obtain ⟨t, mem, ht⟩ := hasShape_of_predicatesOf
          (hasShape_of_modelPredicate depth (name :: seen)) hps h
        exact .named found mem ht

/-! ## Predicates take all values of a shape -/

theorem anyHolds_of_mem {p : Predicate} {ps : List Predicate} (mem : p ∈ ps)
    (h : p.holds takes v = true) : Predicate.anyHolds takes v ps = true := by
  induction ps with
  | nil => cases mem
  | cons q rest ih =>
    simp only [Predicate.anyHolds, Bool.or_eq_true]
    rcases List.mem_cons.mp mem with rfl | mem
    · exact .inl h
    · exact .inr (ih mem)

theorem exists_mem_predicatesOf {ofModel : String → Except Contract.Fault Predicate}
    {t : WireType} :
    ∀ {ts : List WireType} {ps : List Predicate}, Contract.predicatesOf ofModel ts = .ok ps →
      t ∈ ts → ∃ p ∈ ps, Contract.predicateOf ofModel t = .ok p
  | s :: rest, ps, hps, mem => by
    simp only [Contract.predicatesOf, bind_eq_ok, pure_eq_ok] at hps
    obtain ⟨p, hp, ps', hps', rfl⟩ := hps
    rcases List.mem_cons.mp mem with rfl | mem
    · exact ⟨p, List.mem_cons_self, hp⟩
    · obtain ⟨q, hmem, hq⟩ := exists_mem_predicatesOf hps' mem
      exact ⟨q, List.mem_cons_of_mem _ hmem, hq⟩

/-- The predicate of a type takes a value of its shape if the predicates of the models on the
way do. -/
theorem holds_of_shapeIn {ofModel : String → Except Contract.Fault Predicate} {n : Nat}
    {t : WireType} {p : Predicate} (h : table.ShapeIn takes v n t)
    (model : ∀ m ≤ n, ∀ name q, table.ShapeIn takes v m (.model name) → ofModel name = .ok q →
      q.holds takes v = true)
    (hp : Contract.predicateOf ofModel t = .ok p) : p.holds takes v = true := by
  induction h generalizing p with
  | primitive h | enum h | sequence h | mapping h =>
    cases hp
    exact h
  | optional _ ih | nullable _ ih => exact ih (fun m le => model m (by omega)) hp
  | record found h => exact model 0 le_rfl _ p (.record found h) hp
  | named found mem h => exact model _ le_rfl _ p (.named found mem h) hp
  | union mem _ ih =>
    obtain ⟨ps, hps, rfl⟩ := map_eq_ok.mp hp
    obtain ⟨q, hmem, hq⟩ := exists_mem_predicatesOf hps mem
    exact anyHolds_of_mem hmem (ih (fun m le => model m (by omega)) hq)

open Classical in
/-- The predicate of a model takes a value of its shape as long as no union met before leads
there on a path that is as short. -/
theorem modelPredicate_holds (n depth : Nat) (seen : List String) (name : String) (p : Predicate)
    (distinct : seen.Nodup) (known : ∀ s ∈ seen, s ∈ table.names)
    (enough : table.models.length + 1 ≤ depth + seen.length)
    (longer : ∀ s ∈ seen, ∀ m ≤ n, ¬table.ShapeIn takes v m (.model s))
    (h : table.ShapeIn takes v n (.model name))
    (hp : Contract.modelPredicate table depth seen name = .ok p) : p.holds takes v = true := by
  induction n using Nat.strong_induction_on generalizing depth seen name p with
  | _ n ih =>
    cases depth with
    | zero =>
      have := (List.subperm_of_subset distinct known).length_le
      simp only [names, List.length_map] at this
      omega
    | succ depth =>
      -- a shortest path to the type that decides meets `name` only at its start
      have some : ∃ m, table.ShapeIn takes v m (.model name) := ⟨n, h⟩
      have shortest := fun m => Nat.find_min some (m := m)
      have least : Nat.find some ≤ n := Nat.find_le h
      have path := Nat.find_spec some
      have fresh : name ∉ seen := fun mem => longer name mem n le_rfl h
      generalize Nat.find some = least_n at shortest least path
      cases path with
      | record found h =>
        simp only [Contract.modelPredicate, found] at hp
        cases hp
        exact h
      | @named m _ u t found mem h =>
        simp only [Contract.modelPredicate, found, List.contains_eq_mem, fresh, decide_false,
          Bool.false_eq_true, if_false] at hp
        obtain ⟨ps, hps, rfl⟩ := map_eq_ok.mp hp
        obtain ⟨q, hmem, hq⟩ := exists_mem_predicatesOf hps mem
        refine anyHolds_of_mem hmem (holds_of_shapeIn h (fun k le name' q' hk hq' => ?_) hq)
        refine ih k (by omega) depth (name :: seen) name' q'
          (List.nodup_cons.mpr ⟨fresh, distinct⟩) ?_ ?_ ?_ hk hq'
        · intro s hs
          rcases List.mem_cons.mp hs with rfl | hs
          · exact List.mem_map.mpr ⟨_, mem_of_get? found, name_of_get? found⟩
          · exact known s hs
        · simp only [List.length_cons]
          omega
        · intro s hs j hj
          rcases List.mem_cons.mp hs with rfl | hs
          · exact shortest j (by omega)
          · exact longer s hs j (by omega)

/-- The predicate of a type takes exactly the values of its shape. -/
theorem predicateFor_holds_iff {t : WireType} {p : Predicate}
    (hp : Contract.predicateFor table t = .ok p) :
    p.holds takes v = true ↔ table.HasShape takes v t := by
  constructor
  · intro h
    exact hasShape_of_predicateOf (hasShape_of_modelPredicate _ []) hp h
  · intro h
    obtain ⟨n, hn⟩ := h.exists_shapeIn
    refine holds_of_shapeIn hn (fun m _ name q hm hq => ?_) hp
    exact modelPredicate_holds m _ [] name q List.nodup_nil (by simp) (by simp) (by simp) hm hq

end
end Table
end WireModel
