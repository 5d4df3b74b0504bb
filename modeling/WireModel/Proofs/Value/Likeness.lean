import Mathlib.Data.List.Perm.Subperm
import WireModel.Proofs.Decimal.Values
import WireModel.Proofs.Lists
import WireModel.Proofs.Value.Plain

/-!
# Values that are alike

On JSON values, likeness is reflexive and passes from value to value. What is like a JSON value is
a JSON value of the same shape: numbers that are the same, lists of one length, mappings with the
same keys. So a check that depends on shapes, keys and equality alone cannot tell them apart.
-/

namespace WireModel.Value

open Decimal (Binary64)

/-! ## Induction -/

/-- The induction on a JSON value that gives the claim for each element and each entry. -/
@[elab_as_elim]
theorem json_induct {motive : ∀ v : Value, v.isJson = true → Prop} (null : motive .null rfl)
    (bool : ∀ b, motive (.bool b) rfl) (int : ∀ n, motive (.int n) rfl)
    (float : ∀ x, motive (.float x) rfl) (str : ∀ s, motive (.str s) rfl)
    (list : ∀ items json, (∀ v mem, motive v (isJson_list.mp json v mem)) →
      motive (.list items) json)
    (map : ∀ entries json, (∀ entry mem, motive entry.2 ((isJson_map.mp json).1 entry mem).2) →
      motive (.map entries) json)
    (v : Value) (json : v.isJson = true) : motive v json := by
  generalize deep : v.depth = n
  induction n using Nat.strong_induction_on generalizing v with
  | _ n ih =>
    cases v with
    | null => exact null
    | bool b => exact bool b
    | int n => exact int n
    | float x => exact float x
    | str s => exact str s
    | list items =>
      refine list items json fun v mem => ih v.depth ?_ v _ rfl
      have := depth_le_of_mem mem
      simp only [depth] at deep
      omega
    | map entries =>
      refine map entries json fun ⟨k, v⟩ mem => ih v.depth ?_ v _ rfl
      obtain ⟨key, rfl⟩ := ((isJson_map.mp json).1 _ mem).1
      have := depth_le_of_lookup (lookup_of_mem (keys_nodup_of_isJson json) mem)
      simp only [depth] at deep
      omega
    | _ => cases json

/-! ## Numbers -/

/-- What numbers are compared by: the rational number that one is, or a double that is none. -/
def Number.key : Number → ℚ ⊕ Binary64
  | .int n => .inl n
  | .float x => if x.isFinite then .inl x.value else .inr x

theorem Number.key_int_eq_int {m n : Int} : (Number.int m).key = (Number.int n).key ↔ m = n := by
  simp [key]

theorem Number.key_int_eq_float {m : Int} {x : Binary64} :
    (Number.int m).key = (Number.float x).key ↔ x.isInt m = true := by
  rw [Binary64.isInt_iff]
  by_cases finite : x.isFinite = true <;> simp [key, finite, eq_comm]

theorem Number.key_float_eq_int {m : Int} {x : Binary64} :
    (Number.float x).key = (Number.int m).key ↔ x.isInt m = true := by
  rw [eq_comm, key_int_eq_float]

theorem Number.key_float_eq_float {x y : Binary64} :
    (Number.float x).key = (Number.float y).key ↔ x = y ∨ x.sameNumber y = true := by
  by_cases hx : x.isFinite = true <;> by_cases hy : y.isFinite = true
  · rw [Binary64.sameNumber_iff hx hy]
    simp only [key, hx, hy, if_true, Sum.inl.injEq, iff_or_self]
    rintro rfl
    rfl
  · have different : x ≠ y := by
      rintro rfl
      exact hy hx
    have other : ¬x.sameNumber y = true := by
      intro same
      rw [Binary64.sameNumber_comm] at same
      exact different (Binary64.eq_of_sameNumber (Bool.eq_false_iff.mpr hy) same).symm
    simp [key, hx, hy, different, other]
  · have different : x ≠ y := by
      rintro rfl
      exact hx hy
    have other : ¬x.sameNumber y = true :=
      fun same => different (Binary64.eq_of_sameNumber (Bool.eq_false_iff.mpr hx) same)
    simp [key, hx, hy, different, other]
  · simp only [key, hx, hy, if_false, Sum.inr.injEq, Bool.false_eq_true, iff_self_or]
    exact Binary64.eq_of_sameNumber (Bool.eq_false_iff.mpr hx)

theorem alike_iff_of_number {v w : Value} {m : Number} (number : v.number? = some m) :
    alike v w = true ↔ ∃ n, w.number? = some n ∧ m.key = n.key := by
  cases v <;> cases number <;> cases w <;>
    simp [alike, sameScalar, number?, Number.same, Number.key_int_eq_int,
      Number.key_int_eq_float, Number.key_float_eq_int, Number.key_float_eq_float]

/-! ## Lists and mappings -/

theorem alikeList_iff {vs : List Value} :
    ∀ {ws : List Value}, alikeList vs ws = true ↔ List.Forall₂ (alike · · = true) vs ws := by
  induction vs with
  | nil => intro ws; cases ws <;> simp [alikeList]
  | cons v vs ih => intro ws; cases ws <;> simp [alikeList, ih]

theorem alike_list_iff {items : List Value} {w : Value} : alike (.list items) w = true ↔
    ∃ others, w = .list others ∧ List.Forall₂ (alike · · = true) items others := by
  cases w <;> simp [alike, sameScalar, number?, alikeList_iff]

theorem alike_null_iff {w : Value} : alike .null w = true ↔ w = .null := by
  cases w <;> simp [alike, sameScalar, number?]

theorem alike_str_iff {s : String} {w : Value} : alike (.str s) w = true ↔ w = .str s := by
  cases w <;> simp [alike, sameScalar, number?]
  exact eq_comm

theorem find?_alike_str (key : String) (entries : List (Value × Value)) :
    (entries.find? fun entry => alike (.str key) entry.1).map Prod.snd = lookup key entries := by
  induction entries with
  | nil => rfl
  | cons entry rest ih =>
    obtain ⟨k, v⟩ := entry
    have same : alike (.str key) k = k.isText key := by
      rw [Bool.eq_iff_iff, alike_str_iff, isText_iff]
    rw [List.find?_cons, lookup, same]
    cases k.isText key with
    | true => rfl
    | false => exact ih

/-- A mapping with text keys is like another one if each of its values is like the value that the
other one has under its key. -/
theorem alikeEntries_iff {entries others : List (Value × Value)}
    (texts : ∀ entry ∈ entries, ∃ key, entry.1 = .str key) :
    alikeEntries entries others = true ↔ ∀ key v, (.str key, v) ∈ entries →
      ∃ w, lookup key others = some w ∧ alike v w = true := by
  induction entries with
  | nil => simp [alikeEntries]
  | cons entry rest ih =>
    obtain ⟨k, v⟩ := entry
    obtain ⟨key, rfl⟩ := texts _ List.mem_cons_self
    have rest_iff := ih fun entry mem => texts entry (List.mem_cons_of_mem _ mem)
    have both : alikeEntries ((.str key, v) :: rest) others = true ↔
        (∃ w, lookup key others = some w ∧ alike v w = true) ∧ alikeEntries rest others = true := by
      rw [alikeEntries, ← find?_alike_str]
      cases others.find? fun entry => alike (.str key) entry.1 <;> simp
    rw [both, rest_iff]
    constructor
    · rintro ⟨first, later⟩ key' v' mem
      rcases List.mem_cons.mp mem with same | mem
      · cases same
        exact first
      · exact later key' v' mem
    · intro all
      exact ⟨all key v List.mem_cons_self, fun key' v' mem =>
        all key' v' (List.mem_cons_of_mem _ mem)⟩

theorem alike_map_iff {entries : List (Value × Value)} (json : (map entries).isJson = true)
    {w : Value} : alike (.map entries) w = true ↔
      ∃ others, w = .map others ∧ entries.length = others.length ∧
        ∀ key v, (.str key, v) ∈ entries → ∃ w, lookup key others = some w ∧ alike v w = true := by
  have texts := fun entry mem => ((isJson_map.mp json).1 entry mem).1
  cases w <;> simp [alike, sameScalar, number?, alikeEntries_iff texts]

/-- Mappings that are alike have the same keys: those of the first one are distinct, are keys of
the second one, and there are as many of them. -/
theorem keys_perm_of_alike {entries others : List (Value × Value)}
    (json : (map entries).isJson = true) (like : alike (.map entries) (.map others) = true) :
    (entries.map Prod.fst).Perm (others.map Prod.fst) := by
  obtain ⟨_, same, size, all⟩ := (alike_map_iff json).mp like
  cases same
  have sub : entries.map Prod.fst ⊆ others.map Prod.fst := by
    intro k mem
    obtain ⟨⟨k, v⟩, there, rfl⟩ := List.mem_map.mp mem
    obtain ⟨key, rfl⟩ := ((isJson_map.mp json).1 _ there).1
    obtain ⟨w, found, -⟩ := all key v there
    exact List.mem_map.mpr ⟨_, mem_of_lookup found, rfl⟩
  refine (List.subperm_of_subset (keys_nodup_of_isJson json) sub).perm_of_length_le ?_
  rw [List.length_map, List.length_map, size]

/-! ## Likeness of JSON values -/

theorem alike_refl {v : Value} (json : v.isJson = true) : alike v v = true := by
  induction v, json using json_induct with
  | null => exact alike_null_iff.mpr rfl
  | bool b => exact (alike_iff_of_number rfl).mpr ⟨_, rfl, rfl⟩
  | int n => exact (alike_iff_of_number rfl).mpr ⟨_, rfl, rfl⟩
  | float x => exact (alike_iff_of_number rfl).mpr ⟨_, rfl, rfl⟩
  | str s => exact alike_str_iff.mpr rfl
  | list items json ih => exact alike_list_iff.mpr ⟨items, rfl, List.forall₂_same.mpr ih⟩
  | map entries json ih =>
    refine (alike_map_iff json).mpr ⟨entries, rfl, rfl, fun key v mem => ⟨v, ?_, ih _ mem⟩⟩
    exact lookup_of_mem (keys_nodup_of_isJson json) mem

/-- Whatever a JSON value is like is a JSON value. -/
theorem isJson_of_alike {v : Value} (json : v.isJson = true) :
    ∀ {w : Value}, alike v w = true → w.isJson = true := by
  have number {v w : Value} {m : Number} (number : v.number? = some m)
      (like : alike v w = true) : w.isJson = true := by
    obtain ⟨n, other, -⟩ := (alike_iff_of_number number).mp like
    cases w <;> first | rfl | cases other
  induction v, json using json_induct with
  | null =>
    intro w like
    rw [alike_null_iff.mp like]
    rfl
  | bool b => exact number rfl
  | int n => exact number rfl
  | float x => exact number rfl
  | str s =>
    intro w like
    rw [alike_str_iff.mp like]
    rfl
  | list items json ih =>
    intro w like
    obtain ⟨others, rfl, all⟩ := alike_list_iff.mp like
    refine isJson_list.mpr fun w mem => ?_
    obtain ⟨v, there, like⟩ := exists_left_of_forall₂ all mem
    exact ih v there like
  | map entries json ih =>
    intro w like
    obtain ⟨others, rfl, size, all⟩ := (alike_map_iff json).mp like
    have keys := keys_perm_of_alike json like
    have distinct := keys.nodup_iff.mp (keys_nodup_of_isJson json)
    refine isJson_map_of_keys (fun ⟨k, w⟩ mem => ?_) distinct
    obtain ⟨⟨k, v⟩, there, rfl⟩ :=
      List.mem_map.mp (keys.mem_iff.mpr (List.mem_map.mpr ⟨_, mem, rfl⟩))
    obtain ⟨key, rfl⟩ := ((isJson_map.mp json).1 _ there).1
    obtain ⟨w', found, like⟩ := all key v there
    rw [lookup_of_mem distinct mem] at found
    cases found
    exact ⟨⟨key, rfl⟩, ih _ there like⟩

/-- What is like a JSON value that is like a third value is like that value. -/
theorem alike_trans {v : Value} (json : v.isJson = true) :
    ∀ {w x : Value}, alike v w = true → alike w x = true → alike v x = true := by
  have number {v w x : Value} {m : Number} (number : v.number? = some m)
      (first : alike v w = true) (second : alike w x = true) : alike v x = true := by
    obtain ⟨n, other, same⟩ := (alike_iff_of_number number).mp first
    obtain ⟨o, third, same'⟩ := (alike_iff_of_number other).mp second
    exact (alike_iff_of_number number).mpr ⟨o, third, same.trans same'⟩
  induction v, json using json_induct with
  | null =>
    intro w x first second
    rwa [alike_null_iff.mp first] at second
  | bool b => exact number rfl
  | int n => exact number rfl
  | float x => exact number rfl
  | str s =>
    intro w x first second
    rwa [alike_str_iff.mp first] at second
  | list items json ih =>
    intro w x first second
    obtain ⟨others, rfl, all⟩ := alike_list_iff.mp first
    obtain ⟨thirds, rfl, all'⟩ := alike_list_iff.mp second
    refine alike_list_iff.mpr ⟨thirds, rfl, ?_⟩
    refine forall₂_imp_of_mem (forall₂_comp all all') fun v mem x like => ?_
    obtain ⟨w, first, second⟩ := like
    exact ih v mem first second
  | map entries json ih =>
    intro w x first second
    have json' := isJson_of_alike json first
    obtain ⟨others, rfl, size, all⟩ := (alike_map_iff json).mp first
    obtain ⟨thirds, rfl, size', all'⟩ := (alike_map_iff json').mp second
    refine (alike_map_iff json).mpr ⟨thirds, rfl, size.trans size', fun key v mem => ?_⟩
    obtain ⟨w, found, like⟩ := all key v mem
    obtain ⟨x, found', like'⟩ := all' key w (mem_of_lookup found)
    exact ⟨x, found', ih _ mem like like'⟩

end WireModel.Value
