import Mathlib.Tactic.NormNum
import WireModel.Decimal.Shortest
import WireModel.Proofs.Decimal.Values

/-!
# Rounding to doubles

The reals that round to a finite double are an interval (`Binary64.rounding`). It reaches half a
unit up and down, and only a quarter of one down from a power of two, because the doubles below lie
closer. Its ends belong to it if the significand is even.

* **`ofRatio_eq`**: every ratio in the interval of a double rounds to that double.
* **`ofDecimal_eq`**: so does every decimal.
-/

namespace WireModel.Decimal

namespace Binary64

/-! ## Half to even -/

/-- Twice a number is compared, so that all of it is about natural numbers. -/
theorem roundHalfEven_eq_of_double {num den k : Nat} (pos : 0 < den)
    (low : 2 * k * den ≤ 2 * num + den) (high : 2 * num ≤ 2 * k * den + den)
    (tie : 2 * k * den = 2 * num + den ∨ 2 * num = 2 * k * den + den → k % 2 = 0) :
    roundHalfEven num den = k := by
  have division : den * (num / den) + num % den = num := Nat.div_add_mod num den
  have rest : num % den < den := Nat.mod_lt num pos
  unfold roundHalfEven
  generalize num / den = q at *
  generalize num % den = r at *
  subst division
  have below : q ≤ k := by
    by_contra above
    have : den * (k + 1) ≤ den * q := Nat.mul_le_mul_left den (by omega)
    have expand : den * (k + 1) = den * k + den := by ring
    have commute : 2 * k * den = 2 * (den * k) := by ring
    omega
  have above : k ≤ q + 1 := by
    by_contra below
    have : den * (q + 2) ≤ den * k := Nat.mul_le_mul_left den (by omega)
    have expand : den * (q + 2) = den * q + 2 * den := by ring
    have commute : 2 * k * den = 2 * (den * k) := by ring
    omega
  obtain rfl | rfl : k = q ∨ k = q + 1 := by omega
  · -- rounded down: the rest is at most one half, and the quotient is even if it is one half
    have commute : 2 * k * den = 2 * (den * k) := by ring
    dsimp only
    split
    · rfl
    · split
      · omega
      · have even := tie (.inr (by omega))
        omega
  · -- rounded up
    have commute : 2 * (q + 1) * den = 2 * (den * q) + 2 * den := by ring
    dsimp only
    split
    · omega
    · split
      · rfl
      · have even := tie (.inl (by omega))
        omega

/-- A number rounds to the integer that is at most one half away, and even if it is one half. -/
theorem roundHalfEven_eq {num den k : Nat} (pos : 0 < den) (low : (k : ℚ) - 1 / 2 ≤ num / den)
    (high : (num : ℚ) / den ≤ k + 1 / 2)
    (tie : (k : ℚ) - 1 / 2 = num / den ∨ (num : ℚ) / den = k + 1 / 2 → k % 2 = 0) :
    roundHalfEven num den = k := by
  have positive : (0 : ℚ) < den := by exact_mod_cast pos
  have low : 2 * k * den ≤ 2 * num + den := by
    rw [le_div_iff₀ positive] at low
    exact_mod_cast (by linarith : (2 * k * den : ℚ) ≤ 2 * num + den)
  have high : 2 * num ≤ 2 * k * den + den := by
    rw [div_le_iff₀ positive] at high
    exact_mod_cast (by linarith : (2 * num : ℚ) ≤ 2 * k * den + den)
  refine roundHalfEven_eq_of_double pos low high ?_
  rw [eq_div_iff positive.ne', div_eq_iff positive.ne'] at tie
  rintro (same | same)
  · have same : (2 * k * den : ℚ) = 2 * num + den := by exact_mod_cast same
    exact tie (.inl (by linarith))
  · have same : (2 * num : ℚ) = 2 * k * den + den := by exact_mod_cast same
    exact tie (.inr (by linarith))

/-! ## Units -/

theorem two_zpow_log2_le {n : Nat} (some : n ≠ 0) : (2 : ℚ) ^ (n.log2 : ℤ) ≤ n := by
  rw [zpow_natCast]
  exact_mod_cast Nat.log2_self_le some

theorem lt_two_zpow_log2 (n : Nat) : (n : ℚ) < 2 ^ ((n.log2 : ℤ) + 1) := by
  rw [← Nat.cast_succ, zpow_natCast]
  exact_mod_cast Nat.lt_log2_self

/-- The unit of a ratio is the power of two at which it has 53 bits, or the least one. -/
theorem unitOf_spec {num den : Nat} (some : num ≠ 0) (pos : 0 < den) :
    ∃ u : ℤ, unitOf num den = max u (-1074) ∧ (2 : ℚ) ^ (52 + u) ≤ num / den ∧
      (num : ℚ) / den < 2 ^ (53 + u) := by
  have positive : (0 : ℚ) < den := by exact_mod_cast pos
  have denLow : (2 : ℚ) ^ (den.log2 : ℤ) ≤ den := two_zpow_log2_le pos.ne'
  have denHigh : (den : ℚ) < 2 ^ ((den.log2 : ℤ) + 1) := lt_two_zpow_log2 den
  -- the numbers of bits leave two powers of two to choose from
  set guess : ℤ := (num.log2 : ℤ) - (den.log2 : ℤ) - 53 with guess_eq
  have low : (2 : ℚ) ^ (52 + guess) ≤ num / den := by
    rw [le_div_iff₀ positive]
    calc (2 : ℚ) ^ (52 + guess) * den ≤ 2 ^ (52 + guess) * 2 ^ ((den.log2 : ℤ) + 1) := by gcongr
      _ = 2 ^ (num.log2 : ℤ) := by
          rw [← zpow_add₀ two_ne_zero]
          congr 1
          omega
      _ ≤ num := two_zpow_log2_le some
  have high : (num : ℚ) / den < 2 ^ (54 + guess) := by
    rw [div_lt_iff₀ positive]
    calc (num : ℚ) < 2 ^ ((num.log2 : ℤ) + 1) := lt_two_zpow_log2 num
      _ = 2 ^ (54 + guess) * 2 ^ (den.log2 : ℤ) := by
          rw [← zpow_add₀ two_ne_zero]
          congr 1
          omega
      _ ≤ 2 ^ (54 + guess) * den := by gcongr
  have wide_iff : 2 ^ 53 ≤ (scaled num den guess).1 / (scaled num den guess).2 ↔
      (2 : ℚ) ^ (53 + guess) ≤ num / den := by
    have unit : 0 < (scaled num den guess).2 := scaled_pos pos guess
    have unit' : (0 : ℚ) < (scaled num den guess).2 := by exact_mod_cast unit
    rw [Nat.le_div_iff_mul_le unit, zpow_add₀ two_ne_zero, ← le_div_iff₀ (by positivity),
      ← scaled_eq, le_div_iff₀ unit']
    exact_mod_cast Iff.rfl
  rw [unitOf]
  dsimp only
  by_cases wide : (2 : ℚ) ^ (53 + guess) ≤ num / den
  · refine ⟨guess + 1, ?_, ?_, ?_⟩
    · rw [if_pos (wide_iff.mpr wide)]
    · rwa [show 52 + (guess + 1) = 53 + guess by ring]
    · rwa [show 53 + (guess + 1) = 54 + guess by ring]
  · exact ⟨guess, by rw [if_neg fun h => wide (wide_iff.mp h)], low, lt_of_not_ge wide⟩

/-! ## Intervals -/

/-- A real lies in an interval. -/
def Rounding.Holds (r : Rounding) (q : ℚ) : Prop :=
  if r.closed then r.low * (2 : ℚ) ^ r.scale ≤ q ∧ q ≤ r.high * (2 : ℚ) ^ r.scale
  else r.low * (2 : ℚ) ^ r.scale < q ∧ q < r.high * (2 : ℚ) ^ r.scale

variable {x : Binary64} {q : ℚ}

/-- Whether a double has a leading bit and no other one, and the double below it is half as far away
as the one above. -/
def IsEdge (x : Binary64) : Prop := x.fraction.val = 0 ∧ 1 < x.exponent.val

instance (x : Binary64) : Decidable x.IsEdge := inferInstanceAs (Decidable (_ ∧ _))

theorem significand_pos (some : x.isZero = false) : 0 < x.significand := by
  rw [Nat.pos_iff_ne_zero]
  intro zero
  rw [isZero_iff.mpr zero] at some
  cases some

/-- What lies in the interval of a double is at most half a unit away, and at most a quarter of one
below an edge. The ends belong to the interval if the significand is even. -/
theorem bounds_of_holds (some : x.isZero = false) (h : x.rounding.Holds q) :
    (x.significand - (if x.IsEdge then 1 / 4 else 1 / 2)) * (2 : ℚ) ^ x.scale ≤ q ∧
      q ≤ (x.significand + 1 / 2) * (2 : ℚ) ^ x.scale ∧
      ((x.significand - 1 / 2) * (2 : ℚ) ^ x.scale = q ∨
        q = (x.significand + 1 / 2) * (2 : ℚ) ^ x.scale → x.significand % 2 = 0) := by
  have unit : (0 : ℚ) < 2 ^ x.scale := by positivity
  -- the interval is given in quarters of the unit
  have quarter : (2 : ℚ) ^ (x.scale - 2) = 2 ^ x.scale / 4 := by
    rw [zpow_sub₀ two_ne_zero]
    norm_num
  have pos := significand_pos some
  have low : ((4 * x.significand - (if x.IsEdge then 1 else 2) : Nat) : ℚ) * 2 ^ (x.scale - 2) =
      (x.significand - (if x.IsEdge then 1 / 4 else 1 / 2)) * 2 ^ x.scale := by
    rw [quarter, Nat.cast_sub (by split <;> omega)]
    split <;> push_cast <;> ring
  have high : ((4 * x.significand + 2 : Nat) : ℚ) * 2 ^ (x.scale - 2) =
      (x.significand + 1 / 2) * 2 ^ x.scale := by
    rw [quarter]
    push_cast
    ring
  have shape : x.rounding = ⟨4 * x.significand - (if x.IsEdge then 1 else 2), 4 * x.significand,
      4 * x.significand + 2, x.significand % 2 == 0, x.scale - 2⟩ := rfl
  rw [shape, Rounding.Holds] at h
  dsimp only at h
  rw [low, high] at h
  split at h
  · rename_i even
    exact ⟨h.1, h.2, fun _ => beq_iff_eq.mp even⟩
  · refine ⟨h.1.le, h.2.le, ?_⟩
    rintro (same | same)
    · -- a quarter is less than a half
      have : (if x.IsEdge then 1 / 4 else 1 / 2 : ℚ) ≤ 1 / 2 := by split <;> norm_num
      nlinarith [h.1]
    · exact absurd same h.2.ne

/-- The fields of a double as one number. -/
def bits (x : Binary64) : Nat := x.exponent.val * 2 ^ 52 + x.fraction.val

theorem ofMagnitude_bits (finite : x.isFinite = true) : ofMagnitude x.negative x.bits = x := by
  obtain ⟨negative, exponent, fraction⟩ := x
  have small := fraction.isLt
  have range := exponent.isLt
  simp only [isFinite, bne_iff_ne] at finite
  have division : (exponent.val * 2 ^ 52 + fraction.val) / 2 ^ 52 = exponent.val := by omega
  rw [ofMagnitude, bits]
  dsimp only
  rw [if_neg (by omega), division]
  congr 1
  · exact Fin.ext (Nat.mod_eq_of_lt range)
  · refine Fin.ext ?_
    simp only [Fin.ofNat]
    omega

/-- A ratio is a number of units, of which the bits of its double are made. -/
theorem ofRatio_eq_ofMagnitude (negative : Bool) {num den k : Nat} (some : num ≠ 0) (pos : 0 < den)
    {unit : ℤ} (at_ : unitOf num den = unit) (low : (k - 1 / 2) * (2 : ℚ) ^ unit ≤ num / den)
    (high : (num : ℚ) / den ≤ (k + 1 / 2) * (2 : ℚ) ^ unit)
    (tie : (k - 1 / 2) * (2 : ℚ) ^ unit = num / den ∨
      (num : ℚ) / den = (k + 1 / 2) * (2 : ℚ) ^ unit → k % 2 = 0) :
    ofRatio negative num den = ofMagnitude negative ((unit + 1074).toNat * 2 ^ 52 + k) := by
  have positive : (0 : ℚ) < 2 ^ unit := by positivity
  have rounded : roundHalfEven (scaled num den unit).1 (scaled num den unit).2 = k := by
    refine roundHalfEven_eq (scaled_pos pos unit) ?_ ?_ ?_
    · rwa [scaled_eq, le_div_iff₀ positive]
    · rwa [scaled_eq, div_le_iff₀ positive]
    · rwa [scaled_eq, eq_div_iff positive.ne', div_eq_iff positive.ne']
  rw [ofRatio, if_neg some]
  dsimp only
  rw [at_, rounded]

theorem le_scale (x : Binary64) : -1074 ≤ x.scale := by
  rw [scale_eq]
  omega

/-- The units below the scale, and the significand, make the bits. -/
theorem bits_eq (x : Binary64) : x.bits = (x.scale + 1074).toNat * 2 ^ 52 + x.significand := by
  rw [bits, significand, scale_eq]
  split
  · rename_i subnormal
    rw [subnormal]
    norm_num
  · have same : ((max x.exponent.val 1 : Nat) - 1075 + 1074 : ℤ).toNat = x.exponent.val - 1 := by
      omega
    rw [same]
    omega

theorem half_le_of_holds (some : x.isZero = false) (h : x.rounding.Holds q) :
    2 ^ (x.scale - 1) ≤ q := by
  obtain ⟨low, -, -⟩ := bounds_of_holds some h
  have pos : (1 : ℚ) ≤ x.significand := by exact_mod_cast significand_pos some
  have fraction : (if x.IsEdge then 1 / 4 else 1 / 2 : ℚ) ≤ 1 / 2 := by split <;> norm_num
  calc (2 : ℚ) ^ (x.scale - 1) = 1 / 2 * 2 ^ x.scale := by
        rw [zpow_sub_one₀ two_ne_zero]
        ring
    _ ≤ (x.significand - (if x.IsEdge then 1 / 4 else 1 / 2)) * 2 ^ x.scale := by
        gcongr
        linarith
    _ ≤ q := low

theorem pos_of_holds (some : x.isZero = false) (h : x.rounding.Holds q) : 0 < q :=
  lt_of_lt_of_le (by positivity) (half_le_of_holds some h)

theorem lt_of_holds (some : x.isZero = false) (h : x.rounding.Holds q) :
    q < 2 ^ (53 + x.scale) := by
  obtain ⟨-, high, -⟩ := bounds_of_holds some h
  have significand : (x.significand : ℚ) + 1 ≤ 9007199254740992 := by
    exact_mod_cast x.significand_lt
  calc q ≤ (x.significand + 1 / 2) * 2 ^ x.scale := high
    _ < 9007199254740992 * 2 ^ x.scale := by
        gcongr
        linarith
    _ = 2 ^ (53 + x.scale) := by
        rw [zpow_add₀ two_ne_zero]
        norm_num

/-- Above the edges, the interval of a double with a leading bit does not reach below the power of
two that the bit stands for. -/
theorem le_of_holds (some : x.isZero = false) (normal : 1 < x.exponent.val) (other : ¬x.IsEdge)
    (h : x.rounding.Holds q) : 2 ^ (52 + x.scale) ≤ q := by
  obtain ⟨low, -, -⟩ := bounds_of_holds some h
  have large := le_significand (x := x) (by omega)
  have more : x.significand ≠ 2 ^ 52 := by
    intro same
    rw [significand, if_neg (by omega)] at same
    exact other ⟨by omega, normal⟩
  have more : (4503599627370497 : ℚ) ≤ x.significand := by
    exact_mod_cast (by omega : 4503599627370497 ≤ x.significand)
  rw [if_neg other] at low
  calc (2 : ℚ) ^ (52 + x.scale) = 4503599627370496 * 2 ^ x.scale := by
        rw [zpow_add₀ two_ne_zero]
        norm_num
    _ ≤ (x.significand - 1 / 2) * 2 ^ x.scale := by
        gcongr
        linarith
    _ ≤ q := low

theorem significand_of_isEdge (edge : x.IsEdge) : x.significand = 2 ^ 52 := by
  obtain ⟨fraction, exponent⟩ := edge
  rw [significand, if_neg (by omega), fraction]
  norm_num

/-- The interval of an edge reaches a quarter of a unit down. -/
theorem le_of_isEdge (some : x.isZero = false) (edge : x.IsEdge) (h : x.rounding.Holds q) :
    (2 ^ 52 - 1 / 4) * (2 : ℚ) ^ x.scale ≤ q := by
  obtain ⟨low, -, -⟩ := bounds_of_holds some h
  rw [if_pos edge, significand_of_isEdge edge] at low
  exact_mod_cast low

/-- A double whose unit is not the one of what rounds to it is an edge, and the unit is that of the
double below. -/
theorem unit_cases {num den : Nat} (some : x.isZero = false) (pos : 0 < den)
    (h : x.rounding.Holds (num / den)) : unitOf num den = x.scale ∨
      x.IsEdge ∧ unitOf num den = x.scale - 1 ∧ (num : ℚ) / den < 2 ^ (52 + x.scale) := by
  have nonzero : num ≠ 0 := by
    rintro rfl
    simpa using pos_of_holds some h
  obtain ⟨u, at_, low, high⟩ := unitOf_spec nonzero pos
  have least := x.le_scale
  -- the interval ends below the next power of two, so the unit is not above
  have notAbove : u ≤ x.scale := by
    have less := (zpow_lt_zpow_iff_right₀ one_lt_two).mp (low.trans_lt (lt_of_holds some h))
    omega
  by_cases same : max u (-1074) = x.scale
  · exact .inl (at_.trans same)
  · have normal : 1 < x.exponent.val := by
      rw [scale_eq] at *
      omega
    have small : (num : ℚ) / den < 2 ^ (52 + x.scale) :=
      high.trans_le (zpow_le_zpow_right₀ one_le_two (by omega))
    -- only the interval of an edge reaches below its power of two, and that by less than one unit
    have edge : x.IsEdge := by
      by_contra other
      exact absurd small (not_lt_of_ge (le_of_holds some normal other h))
    have near : (2 : ℚ) ^ (51 + x.scale) < 2 ^ (53 + u) := by
      refine lt_of_le_of_lt ?_ high
      refine le_trans ?_ (le_of_isEdge some edge h)
      rw [zpow_add₀ two_ne_zero]
      gcongr
      norm_num
    have close := (zpow_lt_zpow_iff_right₀ one_lt_two).mp near
    rw [scale_eq] at *
    exact .inr ⟨edge, by omega, small⟩

/-- **Every ratio in the interval of a double rounds to it.** -/
theorem ofRatio_eq (finite : x.isFinite = true) (some : x.isZero = false) {num den : Nat}
    (pos : 0 < den) (h : x.rounding.Holds (num / den)) : ofRatio x.negative num den = x := by
  obtain ⟨low, high, tie⟩ := bounds_of_holds some h
  have nonzero : num ≠ 0 := by
    rintro rfl
    simpa using pos_of_holds some h
  -- the ratio is measured in the unit of the double, or in that of the double below an edge
  rcases unit_cases some pos h with same | ⟨edge, less, small⟩
  · have low : (x.significand - 1 / 2) * (2 : ℚ) ^ x.scale ≤ num / den := by
      refine le_trans ?_ low
      gcongr
      split <;> norm_num
    rw [ofRatio_eq_ofMagnitude x.negative nonzero pos same low high tie, ← bits_eq,
      ofMagnitude_bits finite]
  · -- as a number of units of the double below, the significand is twice as large
    have half : (2 : ℚ) ^ x.scale = 2 * 2 ^ (x.scale - 1) := by
      rw [zpow_sub_one₀ two_ne_zero]
      ring
    have low := le_of_isEdge some edge h
    have unit : (0 : ℚ) < 2 ^ (x.scale - 1) := by positivity
    rw [zpow_add₀ two_ne_zero] at small
    rw [half] at low small
    have bits : x.bits = (x.scale - 1 + 1074).toNat * 2 ^ 52 + 2 ^ 53 := by
      obtain ⟨fraction, exponent⟩ := edge
      rw [Binary64.bits, fraction, scale_eq]
      omega
    rw [ofRatio_eq_ofMagnitude x.negative nonzero pos less (k := 2 ^ 53), ← bits,
      ofMagnitude_bits finite]
    · push_cast
      linarith
    · push_cast
      norm_num at small ⊢
      linarith
    · exact fun _ => by norm_num

theorem scale_le (finite : x.isFinite = true) : x.scale ≤ 971 := by
  have range := x.exponent.isLt
  simp only [isFinite, bne_iff_ne] at finite
  rw [scale_eq]
  omega

/-- No decimal in the interval of a double is so large that it is not computed. -/
theorem power_le_of_holds (finite : x.isFinite = true) (some : x.isZero = false) {digits : Nat}
    {power : ℤ} (nonzero : digits ≠ 0) (h : x.rounding.Holds (digits * 10 ^ power)) :
    power ≤ 310 := by
  by_contra above
  have one : (1 : ℚ) ≤ digits := by exact_mod_cast Nat.one_le_iff_ne_zero.mpr nonzero
  have range := scale_le finite
  have less : (10 : ℚ) ^ (311 : ℤ) < 2 ^ (1024 : ℤ) := by
    calc (10 : ℚ) ^ (311 : ℤ) ≤ 10 ^ power := zpow_le_zpow_right₀ (by norm_num) (by omega)
      _ ≤ digits * 10 ^ power := le_mul_of_one_le_left (by positivity) one
      _ < 2 ^ (53 + x.scale) := lt_of_holds some h
      _ ≤ 2 ^ (1024 : ℤ) := zpow_le_zpow_right₀ one_le_two (by omega)
  have less : 10 ^ 311 < 2 ^ 1024 := by exact_mod_cast less
  exact absurd less (by decide +kernel)

/-- Nor is one so small. -/
theorem le_power_of_holds (some : x.isZero = false) {digits : Nat} {power : ℤ}
    (h : x.rounding.Holds (digits * 10 ^ power)) : -330 ≤ (digits.log2 : ℤ) / 3 + power := by
  by_contra below
  have least := x.le_scale
  have short : (digits : ℚ) ≤ 10 ^ ((digits.log2 : ℤ) / 3 + 1) := by
    have octal : digits ≤ 10 ^ (digits.log2 / 3 + 1) := by
      calc digits ≤ 2 ^ (digits.log2 + 1) := Nat.lt_log2_self.le
        _ ≤ 2 ^ (3 * (digits.log2 / 3 + 1)) := Nat.pow_le_pow_right two_pos (by omega)
        _ = 8 ^ (digits.log2 / 3 + 1) := by
            rw [pow_mul]
            norm_num
        _ ≤ 10 ^ (digits.log2 / 3 + 1) := Nat.pow_le_pow_left (by norm_num) _
    have power : (digits.log2 : ℤ) / 3 + 1 = (digits.log2 / 3 + 1 : Nat) := by omega
    rw [power, zpow_natCast]
    exact_mod_cast octal
  have less : (2 : ℚ) ^ (-1075 : ℤ) ≤ 10 ^ (-330 : ℤ) := by
    calc (2 : ℚ) ^ (-1075 : ℤ) ≤ 2 ^ (x.scale - 1) := zpow_le_zpow_right₀ one_le_two (by omega)
      _ ≤ digits * 10 ^ power := half_le_of_holds some h
      _ ≤ 10 ^ ((digits.log2 : ℤ) / 3 + 1) * 10 ^ power := by gcongr
      _ = 10 ^ ((digits.log2 : ℤ) / 3 + 1 + power) := (zpow_add₀ (by norm_num) _ _).symm
      _ ≤ 10 ^ (-330 : ℤ) := zpow_le_zpow_right₀ (by norm_num) (by omega)
  rw [zpow_neg, zpow_neg, inv_le_inv₀ (by positivity) (by positivity)] at less
  have less : 10 ^ 330 ≤ 2 ^ 1075 := by exact_mod_cast less
  exact absurd less (by decide +kernel)

/-- **Every decimal in the interval of a double rounds to it.** -/
theorem ofDecimal_eq (finite : x.isFinite = true) (some : x.isZero = false) {digits : Nat}
    {power : ℤ} (h : x.rounding.Holds (digits * 10 ^ power)) :
    ofDecimal x.negative digits power = x := by
  have nonzero : digits ≠ 0 := by
    rintro rfl
    simpa using pos_of_holds some h
  have notAbove := power_le_of_holds finite some nonzero h
  have notBelow := le_power_of_holds some h
  rw [ofDecimal, if_neg nonzero, if_neg (by omega), if_neg (by omega)]
  refine ofRatio_eq finite some (by positivity) ?_
  rw [zpow_eq_div (by norm_num)] at h
  push_cast
  rwa [mul_div_assoc]

end Binary64
end WireModel.Decimal
