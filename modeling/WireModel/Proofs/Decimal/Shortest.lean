import Mathlib.Tactic.FieldSimp
import WireModel.Decimal.Text
import WireModel.Proofs.Decimal.Numerals
import WireModel.Proofs.Decimal.Rounding

/-!
# The shortest decimal reads back

The search for the decimal of a double ends, at the latest at the first grid that is finer than the
way up to the end of its interval; and what it finds lies in the interval, so it rounds to the
double. The text of the decimal is a numeral of it, with a point or an exponent.

* **`shortest_holds`**: the decimal of a double lies in its interval.
* **`magnitude?_magnitude`**: the text of a double reads back as it, in every notation.
-/

namespace WireModel.Decimal

namespace Binary64

namespace Rounding

variable {r : Rounding} {power : ℤ} {d : Nat}

/-- The factors of a grid are those of the quarters and of the grid itself, up to a common one. -/
theorem exists_factors (r : Rounding) (power : ℤ) : ∃ k : ℚ, 0 < k ∧
    ((r.factors power).1 : ℚ) = 2 ^ r.scale * k ∧ ((r.factors power).2 : ℚ) = 10 ^ power * k := by
  refine ⟨2 ^ (-r.scale).toNat * 10 ^ (-power).toNat, by positivity, ?_, ?_⟩
  · rw [zpow_eq_div two_pos]
    simp only [factors]
    push_cast
    field_simp
  · rw [zpow_eq_div (by norm_num : (0 : ℚ) < 10)]
    simp only [factors]
    push_cast
    field_simp

theorem quarters_le_points_iff {n : Nat} :
    n * (r.factors power).1 ≤ d * (r.factors power).2 ↔ (n : ℚ) * 2 ^ r.scale ≤ d * 10 ^ power := by
  obtain ⟨k, pos, quarter, point⟩ := r.exists_factors power
  rw [← Nat.cast_le (α := ℚ), Nat.cast_mul, Nat.cast_mul, quarter, point, ← mul_assoc, ← mul_assoc,
    mul_le_mul_iff_left₀ pos]

theorem points_le_quarters_iff {n : Nat} :
    d * (r.factors power).2 ≤ n * (r.factors power).1 ↔ (d : ℚ) * 10 ^ power ≤ n * 2 ^ r.scale := by
  obtain ⟨k, pos, quarter, point⟩ := r.exists_factors power
  rw [← Nat.cast_le (α := ℚ), Nat.cast_mul, Nat.cast_mul, quarter, point, ← mul_assoc, ← mul_assoc,
    mul_le_mul_iff_left₀ pos]

/-- **What the search compares** are the rationals themselves. -/
theorem contains_iff : r.contains power d = true ↔ r.Holds (d * 10 ^ power) := by
  rw [contains, Holds]
  dsimp only
  split
  · rw [Bool.and_eq_true, decide_eq_true_iff, decide_eq_true_iff, quarters_le_points_iff,
      points_le_quarters_iff]
  · rw [Bool.and_eq_true, decide_eq_true_iff, decide_eq_true_iff,
      lt_iff_lt_of_le_iff_le points_le_quarters_iff, lt_iff_lt_of_le_iff_le quarters_le_points_iff]

theorem roundHalfEven_cases (num den : Nat) :
    roundHalfEven num den = num / den ∨ roundHalfEven num den = num / den + 1 := by
  unfold roundHalfEven
  dsimp only
  split
  · exact .inl rfl
  · split
    · exact .inr rfl
    · omega

/-- The point of a grid that stands for a double lies in its interval. -/
theorem holds_of_pointAt (h : r.pointAt power = some d) : r.Holds (d * 10 ^ power) := by
  rw [← contains_iff]
  unfold pointAt at h
  dsimp only at h
  split at h
  · rename_i below above
    cases h
    -- either of the two neighbours is one of the interval
    rcases roundHalfEven_cases (r.value * (r.factors power).1) (r.factors power).2 with same | same
    · rwa [same]
    · rwa [same]
  · rename_i below _
    cases h
    exact below
  · rename_i _ above
    cases h
    exact above
  · cases h

/-- A grid that is finer than the way from the number up to the end of its interval has a point in
it: the first one above the number. -/
theorem pointAt_isSome (low : r.low ≤ r.value)
    (fine : r.value * (2 : ℚ) ^ r.scale + 10 ^ power < r.high * 2 ^ r.scale) :
    (r.pointAt power).isSome = true := by
  have unit : (0 : ℚ) < 2 ^ r.scale := by positivity
  have step : 0 < (r.factors power).2 := by
    simp only [factors]
    positivity
  -- the last point that is not above the number, and the one behind it
  set below := r.value * (r.factors power).1 / (r.factors power).2 with below_eq
  have above : r.value * (2 : ℚ) ^ r.scale < (below + 1 : Nat) * 10 ^ power :=
    (lt_iff_lt_of_le_iff_le points_le_quarters_iff).mp
      ((Nat.div_lt_iff_lt_mul step).mp (Nat.lt_succ_self _))
  have notAbove : (below : ℚ) * 10 ^ power ≤ r.value * 2 ^ r.scale :=
    points_le_quarters_iff.mp (Nat.div_mul_le_self _ _)
  have inside : r.Holds ((below + 1 : Nat) * 10 ^ power) := by
    have first : r.low * (2 : ℚ) ^ r.scale < (below + 1 : Nat) * 10 ^ power := by
      refine lt_of_le_of_lt ?_ above
      gcongr
    have last : ((below + 1 : Nat) : ℚ) * 10 ^ power < r.high * 2 ^ r.scale := by
      push_cast
      linarith
    unfold Holds
    split
    · exact ⟨first.le, last.le⟩
    · exact ⟨first, last⟩
  unfold pointAt
  dsimp only
  rw [← below_eq, contains_iff.mpr inside]
  split <;> simp_all

/-- The search ends if some grid on its way has a point. -/
theorem search_isSome {steps : Nat} {start : ℤ} (first : power ≤ start)
    (last : start < power + steps) (h : (r.pointAt power).isSome = true) :
    (r.search steps start).isSome = true := by
  induction steps generalizing start with
  | zero => omega
  | succ steps ih =>
    rw [search]
    split
    · rfl
    · rename_i none
      have next : power ≠ start := by
        rintro rfl
        rw [none] at h
        cases h
      exact ih (by omega) (by omega)

end Rounding

variable {x : Binary64}

/-! ## The search of a double -/

/-- A grid that is finer than half a unit has a point in the interval. -/
theorem pointAt_isSome {power : ℤ} (fine : (10 : ℚ) ^ power < 2 ^ (x.scale - 1)) :
    (x.rounding.pointAt power).isSome = true := by
  have half : (2 : ℚ) ^ (x.scale - 1) = 2 * 2 ^ (x.scale - 2) := by
    rw [← zpow_one_add₀ two_ne_zero]
    congr 1
    ring
  rw [half] at fine
  refine Rounding.pointAt_isSome (Nat.sub_le _ _) ?_
  simp only [rounding]
  push_cast
  linarith

/-- Some power of ten is less than half a unit, and not far below the double. -/
theorem exists_fine (x : Binary64) : ∃ power : ℤ, (10 : ℚ) ^ power < 2 ^ (x.scale - 1) ∧
    (5 ≤ x.scale ∧ power = (x.scale - 1) / 4 - 1 ∨
      x.scale < 5 ∧ power = -((5 - x.scale) / 3 + 1)) := by
  rcases Int.lt_or_le x.scale 5 with small | large
  · -- a negative power: ten is more than eight
    refine ⟨-((5 - x.scale) / 3 + 1), ?_, .inr ⟨small, rfl⟩⟩
    obtain ⟨k, same⟩ := Int.eq_ofNat_of_zero_le (by omega : 0 ≤ (5 - x.scale) / 3 + 1)
    rw [same]
    calc (10 : ℚ) ^ (-(k : ℤ)) = (10 ^ k)⁻¹ := by rw [zpow_neg, zpow_natCast]
      _ ≤ (8 ^ k)⁻¹ := by
          gcongr
          norm_num
      _ = 2 ^ (-(3 * k : ℤ)) := by
          rw [zpow_neg, zpow_mul, zpow_natCast]
          norm_num
      _ < 2 ^ (x.scale - 1) := zpow_lt_zpow_right₀ one_lt_two (by omega)
  · -- a positive power: ten is less than sixteen
    refine ⟨(x.scale - 1) / 4 - 1, ?_, .inl ⟨large, rfl⟩⟩
    obtain ⟨k, same⟩ := Int.eq_ofNat_of_zero_le (by omega : 0 ≤ (x.scale - 1) / 4 - 1)
    rw [same]
    calc (10 : ℚ) ^ (k : ℤ) = 10 ^ k := zpow_natCast _ _
      _ ≤ 16 ^ k := by
          gcongr
          norm_num
      _ = 2 ^ (4 * k : ℤ) := by
          rw [zpow_mul, zpow_natCast]
          norm_num
      _ < 2 ^ (x.scale - 1) := zpow_lt_zpow_right₀ one_lt_two (by omega)

/-- Such a grid is among the four hundred that are searched. -/
theorem exists_pointAt (x : Binary64) (finite : x.isFinite = true) (some : x.isZero = false) :
    ∃ power : ℤ, power ≤ x.rounding.ceilingPower ∧ x.rounding.ceilingPower < power + (400 : Nat) ∧
      (x.rounding.pointAt power).isSome = true := by
  obtain ⟨power, fine, range⟩ := exists_fine x
  have least := x.le_scale
  have most := scale_le finite
  have pos := significand_pos some
  have bound := x.significand_lt
  have high : x.rounding.high = 4 * x.significand + 2 := rfl
  have low : 2 ≤ x.rounding.high.log2 := (Nat.le_log2 (by omega)).mpr (by omega)
  have high : x.rounding.high.log2 < 55 := (Nat.log2_lt (by omega)).mpr (by omega)
  have scale : x.rounding.scale = x.scale - 2 := rfl
  refine ⟨power, ?_, ?_, pointAt_isSome fine⟩
  · rw [Rounding.ceilingPower, scale]
    split <;> omega
  · rw [Rounding.ceilingPower, scale]
    split <;> omega

/-- **The decimal of a double lies in its interval.** -/
theorem shortest_holds (finite : x.isFinite = true) (some : x.isZero = false) :
    x.rounding.Holds (x.shortest.digits * 10 ^ x.shortest.power) := by
  obtain ⟨power, first, last, point⟩ := exists_pointAt x finite some
  obtain ⟨d, found⟩ := Option.isSome_iff_exists.mp (Rounding.search_isSome first last point)
  rw [shortest, some, found]
  exact Rounding.holds_of_pointAt (Rounding.pointAt_of_search found)

end Binary64

/-! ## Text -/

/-- A text is a numeral of a number. It starts with a digit and has a point or an exponent. -/
structure IsNumeral (q : ℚ) (cs : List Char) : Prop where
  reads : ∀ negative, ∃ digits power,
    magnitude? negative cs = some (.ofDecimal negative digits power) ∧
      (digits : ℚ) * 10 ^ power = q
  starts : cs.head?.any Char.isDigit = true
  marked : '.' ∈ cs ∨ 'e' ∈ cs

theorem starts_append {whole rest : List Char} (some : whole ≠ [])
    (digits : ∀ c ∈ whole, c.isDigit = true) : (whole ++ rest).head?.any Char.isDigit = true := by
  obtain ⟨d, others, rfl⟩ := List.exists_cons_of_ne_nil some
  exact digits d List.mem_cons_self

theorem isNumeral_pointed {whole fraction : List Char} {q : ℚ} (some : whole ≠ [])
    (digits : ∀ c ∈ whole ++ fraction, c.isDigit = true)
    (same : (toNat (whole ++ fraction) : ℚ) * 10 ^ (-fraction.length : ℤ) = q) :
    IsNumeral q (whole ++ '.' :: fraction) where
  reads negative := by
    refine ⟨_, _, ?_, same⟩
    rw [← List.append_nil (whole ++ _), magnitude?_eq some digits .pointed .none, zero_sub]
  starts := starts_append some (List.forall_mem_append.mp digits).1
  marked := .inl (List.mem_append_right _ List.mem_cons_self)

theorem isDigit_zeros (n : Nat) : ∀ c ∈ zeros n, c.isDigit = true := by
  intro c mem
  rw [List.eq_of_mem_replicate mem]
  rfl

/-- Zeros behind digits, as a power of ten. -/
theorem scaled_zeros {digits : List Char} {n m : Nat} {power : ℤ} (same : (n : ℤ) - m = power) :
    (toNat (digits ++ zeros n) : ℚ) * 10 ^ (-m : ℤ) = toNat digits * 10 ^ power := by
  rw [toNat_append, toNat_zeros, Nat.add_zero, zeros, List.length_replicate, ← same, sub_eq_add_neg,
    zpow_add₀ (by norm_num), zpow_natCast, ← mul_assoc]
  push_cast
  rfl

section

variable {digits : List Char} (some : digits ≠ []) (all : ∀ c ∈ digits, c.isDigit = true)

include some all

theorem isNumeral_positional (leading : ℤ) :
    IsNumeral (toNat digits * 10 ^ (leading + 1 - digits.length)) (positional digits leading) := by
  rw [positional]
  split
  · -- a number below one starts with a zero, and zeros stand between the point and its digits
    rename_i below
    have whole : ['0'] ++ (zeros (-leading - 1).toNat ++ digits) =
        zeros ((-leading - 1).toNat + 1) ++ digits := rfl
    have text : ('0' :: '.' :: zeros (-leading - 1).toNat ++ digits) =
        ['0'] ++ '.' :: (zeros (-leading - 1).toNat ++ digits) := rfl
    rw [text]
    refine isNumeral_pointed (List.cons_ne_nil _ _) ?_ ?_
    · rw [whole]
      exact List.forall_mem_append.mpr ⟨isDigit_zeros _, all⟩
    · rw [whole, toNat_append, toNat_zeros, Nat.zero_mul, Nat.zero_add, List.length_append, zeros,
        List.length_replicate]
      congr 2
      omega
  · rename_i below
    dsimp only
    set w := leading.toNat + 1 with w_eq
    rcases Nat.lt_or_ge w digits.length with more | fewer
    · -- the point stands among the digits
      have fraction : (digits.drop w).isEmpty = false := by
        rw [List.isEmpty_eq_false_iff, ← List.length_pos_iff, List.length_drop]
        omega
      rw [fraction, Nat.sub_eq_zero_of_le more.le]
      refine isNumeral_pointed ?_ ?_ ?_
      · rw [zeros, List.replicate_zero, List.append_nil, ← List.length_pos_iff, List.length_take]
        omega
      · simpa [zeros, List.take_append_drop] using all
      · simp only [zeros, List.replicate_zero, List.append_nil, List.take_append_drop,
          List.length_drop, Bool.false_eq_true, if_false]
        congr 2
        omega
    · -- zeros fill the places in front of the point, and one stands behind it
      rw [List.drop_eq_nil_of_le fewer, List.take_of_length_le fewer]
      have filled : digits ++ zeros (w - digits.length) ++ ['0'] =
          digits ++ zeros (w - digits.length + 1) := by
        rw [List.append_assoc, zeros, zeros, List.replicate_succ']
      refine isNumeral_pointed ?_ ?_ ?_
      · simpa using fun none => absurd none some
      · simp only [List.isEmpty_nil, if_true]
        rw [filled]
        exact List.forall_mem_append.mpr ⟨all, isDigit_zeros _⟩
      · simp only [List.isEmpty_nil, if_true]
        rw [filled]
        refine scaled_zeros ?_
        rw [List.length_singleton]
        omega

theorem isNumeral_scientific (width : Nat) (leading : ℤ) :
    IsNumeral (toNat digits * 10 ^ (leading + 1 - digits.length))
      (scientific width digits leading) := by
  -- the exponent has its sign, and zeros up to its width
  have power : Tail leading ('e' :: (if leading < 0 then '-' else '+') ::
      (zeros (width - (natDigits leading.natAbs).length) ++ natDigits leading.natAbs)) := by
    have written := @Tail.exponent (decide (leading < 0)) _
      (List.append_ne_nil_of_right_ne_nil
        (zeros (width - (natDigits leading.natAbs).length)) (natDigits_ne_nil leading.natAbs))
      (List.forall_mem_append.mpr ⟨isDigit_zeros _, isDigit_natDigits _⟩)
    rw [toNat_append, toNat_zeros, Nat.zero_mul, Nat.zero_add, toNat_natDigits] at written
    have same : (if decide (leading < 0) = true then -(leading.natAbs : ℤ) else leading.natAbs) =
        leading := by
      split <;> rename_i sign <;> simp only [decide_eq_true_eq] at sign <;> omega
    rw [same] at written
    simpa using written
  -- one digit in front of the point, which is left out if nothing stands behind it
  have front : Mantissa (digits.take 1) (digits.drop 1)
      (digits.take 1 ++ (if digits.length ≤ 1 then [] else '.' :: digits.drop 1)) := by
    split
    · rename_i single
      rw [List.drop_eq_nil_of_le single, List.append_nil]
      exact .plain
    · exact .pointed
  have first : digits.take 1 ≠ [] := by simpa using some
  have text : scientific width digits leading =
      (digits.take 1 ++ (if digits.length ≤ 1 then [] else '.' :: digits.drop 1)) ++
        ('e' :: (if leading < 0 then '-' else '+') ::
          (zeros (width - (natDigits leading.natAbs).length) ++ natDigits leading.natAbs)) := by
    simp only [scientific, List.append_assoc, List.cons_append]
  rw [text]
  refine ⟨fun negative => ⟨_, _, magnitude?_eq first ?_ front power, ?_⟩, ?_,
    .inr (List.mem_append_right _ List.mem_cons_self)⟩
  · rwa [List.take_append_drop]
  · have length : 0 < digits.length := List.length_pos_iff.mpr some
    rw [List.take_append_drop, List.length_drop]
    congr 2
    omega
  · rw [List.append_assoc]
    exact starts_append first fun c mem => all c (List.mem_of_mem_take mem)

end

variable {style : Style} {x : Binary64}

/-- The text of a double other than zero is a numeral of its decimal. -/
theorem isNumeral_magnitude (style : Style) (finite : x.isFinite = true) (some : x.isZero = false) :
    IsNumeral (x.shortest.digits * 10 ^ x.shortest.power) (style.magnitude x) := by
  have nonzero : x.shortest.digits ≠ 0 := by
    intro zero
    have pos := Binary64.pos_of_holds some (Binary64.shortest_holds finite some)
    simp [zero] at pos
  obtain ⟨n, written⟩ := exists_zeros (natDigits x.shortest.digits)
  have digits : dropTrailingZeros (natDigits x.shortest.digits) ≠ [] := by
    intro none
    -- all digits would be zeros, but the first one is not
    rw [none, List.nil_append] at written
    have first := head?_natDigits_ne nonzero
    cases n with
    | zero => exact natDigits_ne_nil _ written
    | succ n =>
      rw [written] at first
      exact first rfl
  have all : ∀ c ∈ dropTrailingZeros (natDigits x.shortest.digits), c.isDigit = true := by
    intro c mem
    refine isDigit_natDigits x.shortest.digits c ?_
    rw [written]
    exact List.mem_append_left _ mem
  have same : (toNat (dropTrailingZeros (natDigits x.shortest.digits)) : ℚ) * 10 ^
      ((natDigits x.shortest.digits).length - 1 + x.shortest.power + 1 -
        (dropTrailingZeros (natDigits x.shortest.digits)).length : ℤ) =
        x.shortest.digits * 10 ^ x.shortest.power := by
    have length := congrArg List.length written
    rw [List.length_append, zeros, List.length_replicate] at length
    have value : x.shortest.digits =
        toNat (dropTrailingZeros (natDigits x.shortest.digits)) * 10 ^ n := by
      conv_lhs => rw [← toNat_natDigits x.shortest.digits, written]
      rw [toNat_append, toNat_zeros, Nat.add_zero, zeros, List.length_replicate]
    conv_rhs => rw [value]
    push_cast
    rw [mul_assoc, ← zpow_natCast, ← zpow_add₀ (by norm_num)]
    congr 2
    omega
  rw [Style.magnitude, some, ← same]
  simp only [Bool.false_eq_true, if_false]
  split
  · exact isNumeral_positional digits all _
  · exact isNumeral_scientific digits all _ _

/-- **The text of a finite double reads back as it**, in every notation. -/
theorem magnitude?_magnitude (style : Style) (finite : x.isFinite = true) :
    magnitude? x.negative (style.magnitude x) = some x := by
  cases zero : x.isZero with
  | true =>
    have fields : x.exponent.val = 0 ∧ x.fraction.val = 0 := by
      simpa [Binary64.isZero] using zero
    have same : x = .zero x.negative := by
      obtain ⟨negative, exponent, fraction⟩ := x
      exact Binary64.mk.injEq .. ▸ ⟨rfl, Fin.ext fields.1, Fin.ext fields.2⟩
    have text : style.magnitude x = ['0'] ++ '.' :: ['0'] := by
      rw [Style.magnitude, zero]
      rfl
    have read : magnitude? x.negative (['0'] ++ '.' :: ['0'] ++ []) = some (.zero x.negative) :=
      magnitude?_eq (List.cons_ne_nil '0' []) (isDigit_zeros 2) .pointed .none
    rw [text, ← List.append_nil (['0'] ++ _), read, ← same]
  | false =>
    obtain ⟨digits, power, read, same⟩ := (isNumeral_magnitude style finite zero).reads x.negative
    rw [read, Binary64.ofDecimal_eq finite zero (same ▸ Binary64.shortest_holds finite zero)]

theorem starts_magnitude (style : Style) (finite : x.isFinite = true) :
    (style.magnitude x).head?.any Char.isDigit = true := by
  cases zero : x.isZero with
  | true =>
    rw [Style.magnitude, zero]
    rfl
  | false => exact (isNumeral_magnitude style finite zero).starts

/-- It is not the text of an integer. -/
theorem digits?_magnitude (style : Style) (finite : x.isFinite = true) :
    digits? (style.magnitude x) = none := by
  have marked : '.' ∈ style.magnitude x ∨ 'e' ∈ style.magnitude x := by
    cases zero : x.isZero with
    | true =>
      rw [Style.magnitude]
      simp [zero]
    | false => exact (isNumeral_magnitude style finite zero).marked
  cases read : digits? (style.magnitude x) with
  | none => rfl
  | some ds =>
    rcases marked with mem | mem
    · rcases of_digits? read _ mem with digit | plain
      · cases digit
      · cases plain
    · rcases of_digits? read _ mem with digit | plain
      · cases digit
      · cases plain

end WireModel.Decimal
