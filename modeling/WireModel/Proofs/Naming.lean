import Mathlib.Data.List.Nodup
import Mathlib.Data.List.Perm.Subperm
import WireModel.Naming
import WireModel.Proofs.Decimal.Numerals

/-!
# Numbered names are new

A numbered name is a candidate with a decimal number behind it. Different numbers make different
names, so among one more names than are taken there is one that is not.

* **`search_stops`**: a search goes past numbers that are not free, up to one that is.
* **`uniqueName_isFirst`**: a name that is made unique is the first variant that is not taken.
-/

namespace WireModel.Naming

/-- A candidate itself, and with the numbers from two on behind it. -/
def variant (candidate : String) : Nat → String
  | 0 => candidate
  | k + 1 => candidate ++ Decimal.ofNat (2 + k)

/-- A name is the first variant of a candidate that is free. -/
def IsFirst (isFree : String → Prop) (candidate name : String) : Prop :=
  ∃ k, name = variant candidate k ∧ isFree name ∧ ∀ j < k, ¬isFree (variant candidate j)

/-- The first of `candidate`, numbered from `index` on, that is free. -/
def search (isFree : String → Bool) (candidate : String) : Nat → Nat → String
  | 0, index => candidate ++ Decimal.ofNat index
  | fuel + 1, index =>
    let name := candidate ++ Decimal.ofNat index
    if isFree name then name else search isFree candidate fuel (index + 1)

theorem numbered_eq_search (candidate : String) (taken : List String) :
    ∀ fuel index, numbered candidate taken fuel index =
      search (fun name => !taken.contains name) candidate fuel index
  | 0, _ => rfl
  | fuel + 1, index => by
    rw [numbered, search, numbered_eq_search candidate taken fuel]
    cases taken.contains (candidate ++ Decimal.ofNat index) <;> rfl

/-- A search goes past numbers that are not free, and stops early only at one that is. -/
theorem search_stops (isFree : String → Bool) (candidate : String) :
    ∀ fuel index : Nat, ∃ k ≤ fuel,
      search isFree candidate fuel index = candidate ++ Decimal.ofNat (index + k) ∧
        (k < fuel → isFree (candidate ++ Decimal.ofNat (index + k)) = true) ∧
        ∀ j < k, isFree (candidate ++ Decimal.ofNat (index + j)) ≠ true
  | 0, index => ⟨0, Nat.le_refl 0, rfl, nofun, nofun⟩
  | fuel + 1, index => by
    rw [search]
    split
    · rename_i free
      exact ⟨0, Nat.zero_le _, rfl, fun _ => free, nofun⟩
    · rename_i clash
      obtain ⟨k, small, stops, free, before⟩ := search_stops isFree candidate fuel (index + 1)
      rw [Nat.add_right_comm, Nat.add_assoc] at stops free
      refine ⟨k + 1, Nat.succ_le_succ small, stops, fun more => free (Nat.lt_of_succ_lt_succ more),
        fun j earlier => ?_⟩
      cases j with
      | zero => exact clash
      | succ j =>
        have clashes := before j (Nat.lt_of_succ_lt_succ earlier)
        rwa [Nat.add_right_comm, Nat.add_assoc] at clashes

/-- If a candidate is not free but one of its numbers is, within the bound of the search, then the
search finds its first variant. -/
theorem isFirst_search {isFree : String → Bool} {candidate : String} {fuel : Nat}
    (clash : isFree candidate ≠ true)
    (some : ∃ k ≤ fuel, isFree (candidate ++ Decimal.ofNat (2 + k)) = true) :
    IsFirst (isFree · = true) candidate (search isFree candidate fuel 2) := by
  obtain ⟨k, small, stops, free, before⟩ := search_stops isFree candidate fuel 2
  have last : isFree (candidate ++ Decimal.ofNat (2 + k)) = true := by
    rcases Nat.lt_or_eq_of_le small with more | rfl
    · exact free more
    · obtain ⟨j, bound, found⟩ := some
      rcases Nat.lt_or_eq_of_le bound with earlier | rfl
      · exact absurd found (before j earlier)
      · exact found
  refine ⟨k + 1, stops, stops ▸ last, fun j earlier => ?_⟩
  cases j with
  | zero => exact clash
  | succ j => exact before j (Nat.lt_of_succ_lt_succ earlier)

/-- No more numbers than names are taken make a taken name. -/
theorem length_taken_le (taken : List String) {name : Nat → String}
    (injective : Function.Injective name) (n : Nat) :
    ((List.range n).filter fun k => taken.contains (name k)).length ≤ taken.length := by
  rw [← List.length_map name]
  refine (List.subperm_of_subset ?_ ?_).length_le
  · exact (List.nodup_range.filter _).map injective
  · intro s mem
    obtain ⟨k, there, rfl⟩ := List.mem_map.mp mem
    exact List.contains_iff_mem.mp (List.mem_filter.mp there).2

theorem candidate_numbers_injective (candidate : String) :
    Function.Injective fun k => candidate ++ Decimal.ofNat (2 + k) := by
  intro j k same
  have := Decimal.ofNat_injective ((String.append_right_inj _).mp same)
  omega

/-- **A class name** is the first variant of its candidate that is not taken. -/
theorem uniqueName_isFirst (candidate : String) (taken : List String) :
    IsFirst (· ∉ taken) candidate (uniqueName candidate taken) := by
  have free_iff (name : String) : (!taken.contains name) = true ↔ name ∉ taken := by simp
  rw [uniqueName]
  split
  · rename_i there
    rw [numbered_eq_search]
    simp only [← free_iff]
    refine isFirst_search (by simpa using there) ?_
    by_contra none
    -- one more number than names are taken cannot all clash
    have all : (List.range (taken.length + 1)).filter (fun k =>
        taken.contains (candidate ++ Decimal.ofNat (2 + k))) = List.range (taken.length + 1) := by
      refine List.filter_eq_self.mpr fun k small => ?_
      by_contra free
      exact none ⟨k, Nat.lt_succ_iff.mp (List.mem_range.mp small), by simpa using free⟩
    have few := length_taken_le taken (candidate_numbers_injective candidate)
      (taken.length + 1)
    rw [all, List.length_range] at few
    omega
  · rename_i absent
    exact ⟨0, rfl, (free_iff _).mp (by simpa using absent), fun j early =>
      absurd early (Nat.not_lt_zero j)⟩

/-- A name that is made unique is not taken. -/
theorem uniqueName_not_mem (candidate : String) (taken : List String) :
    uniqueName candidate taken ∉ taken := by
  obtain ⟨k, -, free, -⟩ := uniqueName_isFirst candidate taken
  exact free

end WireModel.Naming
