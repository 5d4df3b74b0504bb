import Mathlib.Data.List.TakeWhile
import Mathlib.Tactic.IntervalCases
import Mathlib.Tactic.Ring
import WireModel.Decimal.Reading

/-!
# Decimal numerals

What digits denote, with and without a point and an exponent.

* **`toNat_natDigits`**: the decimal digits of a number denote it. They start with a zero only if it
  is zero.
* **`magnitude?_eq`**: a numeral with a point or an exponent denotes its digits times a power of ten.
-/

namespace WireModel.Decimal

-- powers are those of the core library, whatever else is in scope
attribute [local instance (high)] instPowNat

/-! ## Digits of numbers -/

theorem toNat_digitChar {d : Nat} (small : d < 10) : (digitChar d).toNat - 48 = d := by
  interval_cases d <;> rfl

theorem foldl_digitsOnto (fuel : Nat) : ∀ (n : Nat) (rest : List Char), n < 2 ^ fuel →
    (digitsOnto fuel n rest).foldl (fun n c => 10 * n + (c.toNat - 48)) 0 =
      rest.foldl (fun n c => 10 * n + (c.toNat - 48)) n := by
  induction fuel with
  | zero =>
    intro n rest small
    have : n = 0 := by omega
    rw [digitsOnto, this]
  | succ fuel ih =>
    intro n rest small
    rw [digitsOnto]
    split
    · rename_i digit
      rw [List.foldl_cons, toNat_digitChar digit, Nat.mul_zero, Nat.zero_add]
    · rw [ih _ _ (by omega), List.foldl_cons, toNat_digitChar (Nat.mod_lt _ (by omega))]
      congr 1
      omega

/-- The decimal digits of a number denote it. -/
theorem toNat_natDigits (n : Nat) : toNat (natDigits n) = n :=
  foldl_digitsOnto _ _ _ Nat.lt_log2_self

theorem ofNat_injective : Function.Injective ofNat := by
  intro m n same
  rw [← toNat_natDigits m, ← toNat_natDigits n, String.ofList_injective same]

theorem isDigit_natDigits (n : Nat) : ∀ c ∈ natDigits n, c.isDigit = true := by
  have onto (fuel : Nat) : ∀ (n : Nat) (rest : List Char), (∀ c ∈ rest, c.isDigit = true) →
      ∀ c ∈ digitsOnto fuel n rest, c.isDigit = true := by
    have digit : ∀ d < 10, (digitChar d).isDigit = true := by decide
    induction fuel with
    | zero => exact fun _ _ rest => rest
    | succ fuel ih =>
      intro n rest digits
      rw [digitsOnto]
      split
      · rename_i small
        exact List.forall_mem_cons.mpr ⟨digit n small, digits⟩
      · exact ih _ _ (List.forall_mem_cons.mpr ⟨digit _ (Nat.mod_lt _ (by omega)), digits⟩)
  exact onto _ n [] (List.forall_mem_nil _)

/-- Only zero is written with a zero in front. -/
theorem head?_natDigits_ne {n : Nat} (some : n ≠ 0) : (natDigits n).head? ≠ Option.some '0' := by
  have onto (fuel : Nat) : ∀ (n : Nat) (rest : List Char), n ≠ 0 → n < 2 ^ fuel →
      (digitsOnto fuel n rest).head? ≠ Option.some '0' := by
    have digit : ∀ d < 10, d ≠ 0 → digitChar d ≠ '0' := by decide
    induction fuel with
    | zero => omega
    | succ fuel ih =>
      intro n rest some range
      rw [digitsOnto]
      split
      · rename_i small
        intro zero
        exact digit n small some (Option.some.inj zero)
      · exact ih _ _ (by omega) (by omega)
  exact onto _ n [] some Nat.lt_log2_self

/-- A number below a power of ten has no more digits than that one has zeros. -/
theorem length_natDigits_le {n width : Nat} (some : 0 < width) (small : n < 10 ^ width) :
    (natDigits n).length ≤ width := by
  -- the digits are put in front of others, so the induction is over any that are there already
  have onto (fuel : Nat) : ∀ (n width : Nat) (rest : List Char), n < 2 ^ fuel → 0 < width →
      n < 10 ^ width → (digitsOnto fuel n rest).length ≤ width + rest.length := by
    induction fuel with
    | zero =>
      intro n width rest _ _ _
      rw [digitsOnto]
      omega
    | succ fuel ih =>
      intro n width rest range some small
      rw [digitsOnto]
      obtain ⟨width, rfl⟩ := Nat.exists_eq_add_of_le' some
      rw [Nat.pow_succ] at small
      split
      · rw [List.length_cons]
        omega
      · rename_i large
        have more : 0 < width := by
          rw [Nat.pos_iff_ne_zero]
          rintro rfl
          omega
        have shorter := ih (n / 10) width (digitChar (n % 10) :: rest) (by omega) more (by omega)
        rw [List.length_cons] at shorter
        omega
  exact onto _ n width [] Nat.lt_log2_self some small

theorem foldl_digits_lt : ∀ {digits : List Char} {n : Nat},
    (∀ c ∈ digits, c.isDigit = true) →
      digits.foldl (fun n c => 10 * n + (c.toNat - 48)) n < (n + 1) * 10 ^ digits.length
  | [], n, _ => by simp
  | c :: rest, n, all => by
    obtain ⟨digit, rest_all⟩ := List.forall_mem_cons.mp all
    have small : c.toNat - 48 ≤ 9 := by
      have := (Bool.and_eq_true_iff.mp digit).2
      simp only [decide_eq_true_eq, UInt32.le_iff_toNat_le] at this
      change c.toNat ≤ 57 at this
      omega
    rw [List.foldl_cons, List.length_cons]
    refine Nat.lt_of_lt_of_le (foldl_digits_lt rest_all) ?_
    rw [Nat.pow_succ, Nat.mul_comm (10 ^ rest.length) 10, ← Nat.mul_assoc]
    exact Nat.mul_le_mul_right _ (by omega)

theorem toNat_lt {digits : List Char} (all : ∀ c ∈ digits, c.isDigit = true) :
    toNat digits < 10 ^ digits.length := by
  simpa [toNat] using foldl_digits_lt (n := 0) all

/-- A number of not too many digits has a decimal text. -/
theorem isWritable_toNat {digits : List Char} (all : ∀ c ∈ digits, c.isDigit = true)
    (few : digits.length ≤ maxDigits) : isWritable (toNat digits) = true := by
  rw [isWritable, decide_eq_true_eq, Int.natAbs_natCast]
  exact Nat.lt_of_lt_of_le (toNat_lt all) (Nat.pow_le_pow_right (by omega) few)

/-! ## Putting digits together -/

theorem toNat_append (cs ds : List Char) :
    toNat (cs ++ ds) = toNat cs * 10 ^ ds.length + toNat ds := by
  have onto (ds : List Char) : ∀ n, ds.foldl (fun n c => 10 * n + (c.toNat - 48)) n =
      n * 10 ^ ds.length + toNat ds := by
    induction ds with
    | nil => simp [toNat]
    | cons d ds ih =>
      intro n
      rw [toNat, List.foldl_cons, List.foldl_cons, ih, ih (10 * 0 + _), List.length_cons,
        Nat.pow_succ]
      ring
  rw [toNat, List.foldl_append, onto]
  rfl

theorem toNat_zeros (n : Nat) : toNat (zeros n) = 0 := by
  induction n with
  | zero => rfl
  | succ n ih => simpa [zeros, List.replicate_succ, toNat] using ih

/-- Digits are followed by the zeros that are dropped. -/
theorem exists_zeros (ds : List Char) : ∃ n, ds = dropTrailingZeros ds ++ zeros n := by
  refine ⟨(ds.reverse.takeWhile (· == '0')).length, ?_⟩
  have dropped : ds.reverse.takeWhile (· == '0') =
      zeros (ds.reverse.takeWhile (· == '0')).length := by
    refine List.eq_replicate_of_mem fun c mem => ?_
    simpa using List.mem_takeWhile_imp mem
  have whole := congrArg List.reverse
    (List.takeWhile_append_dropWhile (p := (· == '0')) (l := ds.reverse))
  rw [List.reverse_append, List.reverse_reverse, dropped, zeros, List.reverse_replicate] at whole
  exact whole.symm

/-! ## Numerals -/

/-- Digits alone are taken as they are. -/
theorem digits?_eq {cs : List Char} (some : cs ≠ []) (all : ∀ c ∈ cs, c.isDigit = true) :
    digits? cs = Option.some cs := by
  induction cs with
  | nil => exact absurd rfl some
  | cons c rest ih =>
    obtain ⟨digit, others⟩ := List.forall_mem_cons.mp all
    cases rest with
    | nil => rw [digits?, if_pos digit]
    | cons d rest =>
      have plain : d ≠ '_' := by
        rintro rfl
        cases others '_' List.mem_cons_self
      rw [digits?, if_pos digit, ih (List.cons_ne_nil _ _) others]
      · rfl
      · nofun
      · exact fun _ same => plain (List.cons.inj same).1

theorem digitsOrNone?_eq {cs : List Char} (all : ∀ c ∈ cs, c.isDigit = true) :
    digitsOrNone? cs = some cs := by
  cases cs with
  | nil => rfl
  | cons c cs => exact digits?_eq (List.cons_ne_nil c cs) all

/-- Nothing else than digits and underscores is taken. -/
theorem of_digits? {cs ds : List Char} (h : digits? cs = some ds) :
    ∀ c ∈ cs, c.isDigit = true ∨ c = '_' := by
  fun_induction digits? cs generalizing ds with
  | case1 => cases h
  | case2 d digit => simpa using .inl digit
  | case3 => cases h
  | case4 d rest digit ih =>
    obtain ⟨u, found, -⟩ := Option.map_eq_some_iff.mp h
    simpa [digit] using ih found
  | case5 => cases h
  | case6 d rest _ _ digit ih =>
    obtain ⟨u, found, -⟩ := Option.map_eq_some_iff.mp h
    simpa [digit] using ih found
  | case7 => cases h

/-- What stands behind the digits of a numeral: nothing, or an exponent. -/
inductive Tail : ℤ → List Char → Prop
  | none : Tail 0 []
  | exponent {below : Bool} {ds : List Char} : ds ≠ [] → (∀ c ∈ ds, c.isDigit = true) →
      Tail (if below then -(toNat ds : ℤ) else toNat ds) ('e' :: (if below then '-' else '+') :: ds)

/-- The digits of a numeral, with a point between them if some stand behind it. -/
inductive Mantissa (whole : List Char) : List Char → List Char → Prop
  | pointed {fraction} : Mantissa whole fraction (whole ++ '.' :: fraction)
  | plain : Mantissa whole [] whole

/-- **A numeral denotes its digits times a power of ten**, with or without a point. -/
theorem magnitude?_eq {negative : Bool} {whole fraction mantissa tail : List Char} {power : ℤ}
    (some : whole ≠ []) (digits : ∀ c ∈ whole ++ fraction, c.isDigit = true)
    (front : Mantissa whole fraction mantissa) (behind : Tail power tail) :
    magnitude? negative (mantissa ++ tail) =
      Option.some (.ofDecimal negative (toNat (whole ++ fraction)) (power - fraction.length)) := by
  obtain ⟨wholeDigits, fractionDigits⟩ := List.forall_mem_append.mp digits
  have notDigit {c d : Char} (digit : c.isDigit = true) (other : d.isDigit = false) :
      (c != d) = true := by
    rw [bne_iff_ne]
    rintro rfl
    cases other.symm.trans digit
  -- the reader cuts the text at the exponent, then at the point
  have mantissa_eq : (mantissa ++ tail).takeWhile (fun c => c != 'e' && c != 'E') = mantissa := by
    have plain : ∀ c ∈ mantissa, (c != 'e' && c != 'E') = true := by
      have digit {c : Char} (digit : c.isDigit = true) : (c != 'e' && c != 'E') = true := by
        rw [notDigit digit (by decide), notDigit digit (by decide)]
        rfl
      cases front with
      | pointed =>
        exact List.forall_mem_append.mpr ⟨fun c mem => digit (wholeDigits c mem),
          List.forall_mem_cons.mpr ⟨by decide, fun c mem => digit (fractionDigits c mem)⟩⟩
      | plain => exact fun c mem => digit (wholeDigits c mem)
    have stops : tail.takeWhile (fun c => c != 'e' && c != 'E') = [] := by
      cases behind <;> rfl
    rw [List.takeWhile_append_of_pos plain, stops, List.append_nil]
  have whole_eq : mantissa.takeWhile (· != '.') = whole := by
    have plain : ∀ c ∈ whole, (c != '.') = true := fun c mem => notDigit (wholeDigits c mem) rfl
    cases front with
    | pointed => rw [List.takeWhile_append_of_pos plain]; simp
    | plain => exact List.takeWhile_eq_self_iff.mpr plain
  have fraction_eq : mantissa.drop (whole.length + 1) = fraction := by
    cases front with
    | pointed => simp
    | plain => simp
  have nonempty : whole.isEmpty = false := by simpa using some
  unfold magnitude?
  simp only [mantissa_eq, whole_eq, fraction_eq, digitsOrNone?_eq wholeDigits,
    digitsOrNone?_eq fractionDigits, List.drop_left, Option.bind_eq_bind, Option.bind_some,
    nonempty, Bool.false_and]
  cases behind with
  | none => rfl
  | @exponent below ds nonempty digits =>
    cases below <;> simp [unsigned, digits?_eq nonempty digits]

end WireModel.Decimal
