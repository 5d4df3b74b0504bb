import WireModel.Decimal.Binary64

/-!
# The shortest decimal that reads back

Every double has an interval of reals that round to it. `shortest` takes the coarsest grid
of multiples of a power of ten with a point in that interval, and of the two points that
surround the number the nearer one. All of it is exact arithmetic on natural numbers.
-/

namespace WireModel.Decimal

-- powers are those of the core library, whatever else is in scope
attribute [local instance (high)] instPowNat

/-- The number `digits * 10 ^ power`. -/
structure Scientific where
  digits : Nat
  power : Int
  deriving DecidableEq

namespace Binary64

/-- The interval of reals that round to a double, in quarters of its unit: the gap below a
power of two is half as wide, and the ends belong to it when the significand is even. -/
structure Rounding where
  low : Nat
  value : Nat
  high : Nat
  closed : Bool
  /-- The power of two that a quarter of the unit stands for. -/
  scale : Int

/-- The rounding interval of a finite double other than zero. -/
def rounding (x : Binary64) : Rounding :=
  let m := x.significand
  let below := if x.fraction.val = 0 ∧ 1 < x.exponent.val then 1 else 2
  ⟨4 * m - below, 4 * m, 4 * m + 2, m % 2 == 0, x.scale - 2⟩

namespace Rounding

/-- The factors that bring quarters and multiples of `10 ^ power` to one unit. -/
def factors (r : Rounding) (power : Int) : Nat × Nat :=
  (2 ^ r.scale.toNat * 10 ^ (-power).toNat, 2 ^ (-r.scale).toNat * 10 ^ power.toNat)

/-- Whether `d * 10 ^ power` lies in the interval. -/
def contains (r : Rounding) (power : Int) (d : Nat) : Bool :=
  let (quarter, point) := r.factors power
  if r.closed then r.low * quarter ≤ d * point && d * point ≤ r.high * quarter
  else r.low * quarter < d * point && d * point < r.high * quarter

/-- The point of the grid of `10 ^ power` that stands for the number, if the interval has
one: the nearer of its two neighbours, an exact half going to the even one. -/
def pointAt (r : Rounding) (power : Int) : Option Nat :=
  let (quarter, point) := r.factors power
  let below := r.value * quarter / point
  match r.contains power below, r.contains power (below + 1) with
  | true, true => some (roundHalfEven (r.value * quarter) point)
  | true, false => some below
  | false, true => some (below + 1)
  | false, false => none

/-- A power of ten above every number of the interval. -/
def ceilingPower (r : Rounding) : Int :=
  let bits := (r.high.log2 : Int) + 1 + r.scale
  if 0 ≤ bits then bits / 3 + 1 else bits / 4 + 1

/-- The first of `steps` ever finer grids that has a point in the interval. -/
def search (r : Rounding) : Nat → Int → Option Scientific
  | 0, _ => none
  | steps + 1, power =>
    match r.pointAt power with
    | some d => some ⟨d, power⟩
    | none => search r steps (power - 1)

end Rounding

/-- The decimal with the fewest digits that reads back as the double, and of those the
nearest; four hundred grids are more than any double needs. -/
def shortest (x : Binary64) : Scientific :=
  if x.isZero then ⟨0, 0⟩
  else (x.rounding.search 400 x.rounding.ceilingPower).getD ⟨x.significand, 0⟩

/-! ## Laws of the search -/

theorem Rounding.contains_of_pointAt {r : Rounding} {power : Int} {d : Nat}
    (h : r.pointAt power = some d) :
    r.contains power d = true ∨
      d = roundHalfEven (r.value * (r.factors power).1) (r.factors power).2 := by
  unfold Rounding.pointAt at h
  simp only at h
  split at h
  · right; simpa using h.symm
  · rename_i h1 _; left; cases h; exact h1
  · rename_i _ h2; left; cases h; exact h2
  · cases h

theorem Rounding.pointAt_of_search {r : Rounding} {steps : Nat} {power : Int} {d : Scientific}
    (h : r.search steps power = some d) : r.pointAt d.power = some d.digits := by
  induction steps generalizing power with
  | zero => simp [Rounding.search] at h
  | succ n ih =>
      unfold Rounding.search at h
      split at h
      · rename_i found; cases h; exact found
      · exact ih h

end Binary64
end WireModel.Decimal
