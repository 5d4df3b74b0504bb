import Mathlib.Algebra.Order.Field.Power
import Mathlib.Tactic.Linarith
import Mathlib.Tactic.Ring
import WireModel.Decimal.Binary64

/-!
# The numbers that doubles are

A finite double is a rational number (`Binary64.value`). Two finite doubles are the same number
exactly if they agree in all fields, or are zeros; a double is an integer exactly if its number is.
-/

namespace WireModel.Decimal.Binary64

variable {x y : Binary64}

/-! ## Significands -/

/-- The magnitude of a finite double. -/
def magnitude (x : Binary64) : ℚ := x.significand * (2 : ℚ) ^ x.scale

/-- The number that a finite double is. -/
def value (x : Binary64) : ℚ := if x.negative then -x.magnitude else x.magnitude

theorem significand_lt (x : Binary64) : x.significand < 2 ^ 53 := by
  have := x.fraction.isLt
  unfold significand
  split <;> omega

/-- Only the doubles of the least scale have no leading bit. -/
theorem le_significand (normal : x.exponent.val ≠ 0) : 2 ^ 52 ≤ x.significand := by
  rw [significand, if_neg normal]
  omega

theorem scale_eq (x : Binary64) : x.scale = (max x.exponent.val 1 : Nat) - 1075 := rfl

theorem isZero_iff : x.isZero = true ↔ x.significand = 0 := by
  simp only [isZero, significand, Bool.and_eq_true, beq_iff_eq]
  split <;> omega

theorem magnitude_nonneg (x : Binary64) : 0 ≤ x.magnitude := by
  unfold magnitude
  positivity

theorem magnitude_eq_zero_iff : x.magnitude = 0 ↔ x.isZero = true := by
  have unit : (2 : ℚ) ^ x.scale ≠ 0 := by positivity
  rw [isZero_iff, magnitude, mul_eq_zero, or_iff_left unit, Nat.cast_eq_zero]

/-- A larger exponent makes a larger number: the significand of the larger one has its leading
bit. -/
theorem magnitude_lt_of_exponent_lt (h : x.exponent.val < y.exponent.val) :
    x.magnitude < y.magnitude := by
  have small : (x.significand : ℚ) < 2 ^ 53 := by exact_mod_cast x.significand_lt
  have large : (2 ^ 52 : ℚ) ≤ y.significand := by
    exact_mod_cast le_significand (x := y) (by omega)
  rcases Nat.eq_zero_or_pos x.exponent.val with zero | pos
  · -- the scale is the same if the smaller one is subnormal and the other one barely not
    have fraction : x.significand < 2 ^ 52 := by
      rw [significand, if_pos zero]
      exact x.fraction.isLt
    have small : (x.significand : ℚ) < 2 ^ 52 := by exact_mod_cast fraction
    have scales : x.scale ≤ y.scale := by
      rw [scale_eq, scale_eq]
      omega
    calc x.magnitude < 2 ^ 52 * (2 : ℚ) ^ x.scale := by
          unfold magnitude
          gcongr
      _ ≤ 2 ^ 52 * (2 : ℚ) ^ y.scale := by
          gcongr
          norm_num
      _ ≤ y.magnitude := by
          unfold magnitude
          gcongr
  · have scales : x.scale + 1 ≤ y.scale := by
      rw [scale_eq, scale_eq]
      omega
    calc x.magnitude < 2 ^ 53 * (2 : ℚ) ^ x.scale := by
          unfold magnitude
          gcongr
      _ = 2 ^ 52 * (2 : ℚ) ^ (x.scale + 1) := by
          rw [zpow_add_one₀ (by norm_num)]
          ring
      _ ≤ 2 ^ 52 * (2 : ℚ) ^ y.scale := by
          gcongr
          norm_num
      _ ≤ y.magnitude := by
          unfold magnitude
          gcongr

/-- Doubles of one magnitude have the same exponent and fraction. -/
theorem fields_of_magnitude_eq (h : x.magnitude = y.magnitude) :
    x.exponent = y.exponent ∧ x.fraction = y.fraction := by
  have exponents : x.exponent.val = y.exponent.val := by
    rcases Nat.lt_trichotomy x.exponent.val y.exponent.val with less | same | more
    · exact absurd h (magnitude_lt_of_exponent_lt less).ne
    · exact same
    · exact absurd h.symm (magnitude_lt_of_exponent_lt more).ne
  have scales : x.scale = y.scale := by rw [scale_eq, scale_eq, exponents]
  have significands : x.significand = y.significand := by
    unfold magnitude at h
    rw [scales] at h
    have unit : (2 : ℚ) ^ y.scale ≠ 0 := by positivity
    exact_mod_cast mul_right_cancel₀ unit h
  refine ⟨Fin.ext exponents, Fin.ext ?_⟩
  unfold significand at significands
  rw [exponents] at significands
  split at significands <;> omega

theorem value_eq_zero_iff : x.value = 0 ↔ x.isZero = true := by
  rw [value, ← magnitude_eq_zero_iff]
  split
  · exact neg_eq_zero
  · exact Iff.rfl

/-- Doubles of one number are the same, or zeros. -/
theorem eq_of_value_eq (h : x.value = y.value) : x = y ∨ x.isZero = true ∧ y.isZero = true := by
  by_cases zero : x.isZero = true
  · exact .inr ⟨zero, value_eq_zero_iff.mp (h ▸ value_eq_zero_iff.mpr zero)⟩
  · have positive : 0 < x.magnitude :=
      lt_of_le_of_ne x.magnitude_nonneg fun none => zero (magnitude_eq_zero_iff.mp none.symm)
    have nonneg := y.magnitude_nonneg
    have same : x.negative = y.negative ∧ x.magnitude = y.magnitude := by
      unfold value at h
      cases hx : x.negative <;> cases hy : y.negative <;> rw [hx, hy] at h <;>
        simp only [Bool.false_eq_true, if_true, if_false, neg_inj] at h
      · exact ⟨rfl, h⟩
      · linarith
      · linarith
      · exact ⟨rfl, h⟩
    obtain ⟨exponents, fractions⟩ := fields_of_magnitude_eq same.2
    obtain ⟨negative, exponent, fraction⟩ := x
    obtain ⟨negative', exponent', fraction'⟩ := y
    obtain ⟨rfl, -⟩ := same
    cases exponents
    cases fractions
    exact .inl rfl

/-! ## Comparison -/

theorem isNaN_eq_false (finite : x.isFinite = true) : x.isNaN = false := by
  simp only [isFinite, bne_iff_ne] at finite
  simp [isNaN, finite]

theorem isFinite_of_isZero (zero : x.isZero = true) : x.isFinite = true := by
  simp only [isZero, Bool.and_eq_true, beq_iff_eq] at zero
  simp [isFinite, zero.1]

/-- Finite doubles are the same number exactly if their rational numbers are. -/
theorem sameNumber_iff (hx : x.isFinite = true) (hy : y.isFinite = true) :
    x.sameNumber y = true ↔ x.value = y.value := by
  simp only [sameNumber, isNaN_eq_false hx, isNaN_eq_false hy, Bool.not_false, Bool.true_and,
    Bool.or_eq_true, beq_iff_eq, Bool.and_eq_true]
  constructor
  · rintro (rfl | ⟨zero, zero'⟩)
    · rfl
    · rw [value_eq_zero_iff.mpr zero, value_eq_zero_iff.mpr zero']
  · exact eq_of_value_eq

/-- A double that is not finite is at most the same as itself. -/
theorem eq_of_sameNumber (infinite : x.isFinite = false) (h : x.sameNumber y = true) : x = y := by
  simp only [sameNumber, Bool.and_eq_true, Bool.or_eq_true, beq_iff_eq] at h
  rcases h.2 with same | ⟨zero, -⟩
  · exact same
  · rw [isFinite_of_isZero zero] at infinite
    cases infinite

theorem toRatio_pos (x : Binary64) : 0 < x.toRatio.2 := by
  simp only [toRatio, scaled]
  positivity

/-- A power is split into one that multiplies and one that divides. -/
theorem zpow_eq_div {b : ℚ} (pos : 0 < b) (k : ℤ) : b ^ k = b ^ k.toNat / b ^ (-k).toNat := by
  rw [eq_div_iff (by positivity), ← zpow_natCast, ← zpow_natCast, ← zpow_add₀ pos.ne']
  congr 1
  omega

theorem scaled_pos {num den : Nat} (pos : 0 < den) (shift : ℤ) :
    0 < (scaled num den shift).2 := by
  simp only [scaled]
  positivity

/-- Scaling divides by a power of two. -/
theorem scaled_eq (num den : Nat) (shift : ℤ) :
    ((scaled num den shift).1 : ℚ) / (scaled num den shift).2 = num / den / 2 ^ shift := by
  rw [zpow_eq_div two_pos, div_div_eq_mul_div]
  simp only [scaled]
  push_cast
  ring

/-- The fraction that a double is compared by is its number. -/
theorem value_eq_toRatio (x : Binary64) : x.value = x.toRatio.1 / x.toRatio.2 := by
  have magnitude : x.magnitude = (scaled x.significand 1 (-x.scale)).1 /
      (scaled x.significand 1 (-x.scale)).2 := by
    rw [scaled_eq, Binary64.magnitude, zpow_neg]
    simp
  rw [value, magnitude]
  simp only [toRatio]
  split <;> push_cast <;> ring

theorem isInt_iff {n : Int} : x.isInt n = true ↔ x.isFinite = true ∧ x.value = n := by
  have pos : (0 : ℚ) < x.toRatio.2 := by exact_mod_cast x.toRatio_pos
  rw [isInt, Bool.and_eq_true, beq_iff_eq, value_eq_toRatio, div_eq_iff pos.ne']
  refine and_congr_right fun _ => ?_
  exact_mod_cast Iff.rfl

end WireModel.Decimal.Binary64
