/-!
# Binary floating-point numbers

A double by its three fields, so that every field combination is a number and equality of
the type is equality of bit patterns. A finite double is `±significand * 2 ^ scale`; all
rounding into the type goes through `ofRatio`, which is exact integer arithmetic and rounds
halves to the even neighbour.
-/

namespace WireModel.Decimal

-- powers are those of the core library, whatever else is in scope
attribute [local instance (high)] instPowNat

/-- An IEEE 754 double: sign, biased exponent and fraction. -/
structure Binary64 where
  negative : Bool
  exponent : Fin 2048
  fraction : Fin (2 ^ (52 : Nat))
  deriving DecidableEq, Inhabited

namespace Binary64

/-! ## Reading the fields -/

/-- The largest biased exponent marks infinities and not-a-numbers. -/
def isFinite (x : Binary64) : Bool := x.exponent.val != 2047

/-- A not-a-number has the largest exponent and a fraction. -/
def isNaN (x : Binary64) : Bool := x.exponent.val == 2047 && x.fraction.val != 0

/-- An infinity has the largest exponent and no fraction. -/
def isInfinite (x : Binary64) : Bool := x.exponent.val == 2047 && x.fraction.val == 0

/-- Normal doubles carry a leading bit in front of the fraction. -/
def significand (x : Binary64) : Nat :=
  if x.exponent.val = 0 then x.fraction.val else 2 ^ (52 : Nat) + x.fraction.val

/-- The power of two that a unit of the significand stands for. -/
def scale (x : Binary64) : Int := (max x.exponent.val 1 : Nat) - 1075

/-- Both zeros. -/
def isZero (x : Binary64) : Bool := x.exponent.val == 0 && x.fraction.val == 0

/-! ## Writing the fields -/

def nan : Binary64 := ⟨false, ⟨2047, by decide⟩, ⟨2 ^ (51 : Nat), by decide⟩⟩

/-- The not-a-number of an index, `nan` for zero. They differ in their fractions alone. -/
def nanOf (index : Nat) : Binary64 :=
  { nan with fraction := ⟨2 ^ (51 : Nat) + index % 2 ^ (51 : Nat), by omega⟩ }

def infinity (negative : Bool) : Binary64 := ⟨negative, ⟨2047, by decide⟩, ⟨0, by decide⟩⟩

def zero (negative : Bool) : Binary64 := ⟨negative, ⟨0, by decide⟩, ⟨0, by decide⟩⟩

/-- The double whose exponent and fraction, read as one number, are `magnitude`: doubles of
one sign are ordered as these numbers are, and everything past the largest finite one is
infinity. -/
def ofMagnitude (negative : Bool) (magnitude : Nat) : Binary64 :=
  if 2047 * 2 ^ (52 : Nat) ≤ magnitude then infinity negative
  else ⟨negative, Fin.ofNat 2048 (magnitude / 2 ^ (52 : Nat)), Fin.ofNat (2 ^ (52 : Nat)) magnitude⟩

/-- The natural number nearest to `num / den`, an exact half going to the even neighbour. -/
def roundHalfEven (num den : Nat) : Nat :=
  let quotient := num / den
  let twice := 2 * (num % den)
  if twice < den then quotient
  else if den < twice then quotient + 1
  else quotient + quotient % 2

/-- `num / den / 2 ^ shift`, as a numerator and a denominator. -/
def scaled (num den : Nat) (shift : Int) : Nat × Nat :=
  (num * 2 ^ (-shift).toNat, den * 2 ^ shift.toNat)

/-- The power of two at which the ratio has a significand of 53 bits, or the least one. -/
def unitOf (num den : Nat) : Int :=
  let guess : Int := (num.log2 : Int) - (den.log2 : Int) - 53
  let (n, d) := scaled num den guess
  max (if 2 ^ (53 : Nat) ≤ n / d then guess + 1 else guess) (-1074)

/-- The double nearest to `num / den`. -/
def ofRatio (negative : Bool) (num den : Nat) : Binary64 :=
  if num = 0 then zero negative
  else
    let unit := unitOf num den
    let (n, d) := scaled num den unit
    ofMagnitude negative ((unit + 1074).toNat * 2 ^ (52 : Nat) + roundHalfEven n d)

/-- The double nearest to `digits * 10 ^ power`. Powers far outside the range of doubles are
answered without computing them. -/
def ofDecimal (negative : Bool) (digits : Nat) (power : Int) : Binary64 :=
  if digits = 0 then zero negative
  else if 310 < power then infinity negative
  else if (digits.log2 : Int) / 3 + power < -330 then zero negative
  else ofRatio negative (digits * 10 ^ power.toNat) (10 ^ (-power).toNat)

/-! ## Arithmetic and comparison -/

/-- The value of a finite double as a signed numerator over a power of two. -/
def toRatio (x : Binary64) : Int × Nat :=
  let (n, d) := scaled x.significand 1 (-x.scale)
  (if x.negative then -(n : Int) else n, d)

/-- The double nearest to a signed ratio; a zero keeps the sign it is given. -/
def ofSigned (zeroSign : Bool) (num : Int) (den : Nat) : Binary64 :=
  if num = 0 then zero zeroSign else ofRatio (num < 0) num.natAbs den

/-- The double nearest to an integer. -/
def ofInt (n : Int) : Binary64 := ofSigned false n 1

/-- The sum of two doubles, rounded; with an infinity the result is that infinity. -/
def add (x y : Binary64) : Binary64 :=
  if !x.isFinite then x
  else if !y.isFinite then y
  else
    let (a, b) := x.toRatio
    let (c, d) := y.toRatio
    ofSigned (x.negative && y.negative) (a * d + c * b) (b * d)

/-- The product of two doubles, rounded; with an infinity the result is infinite. -/
def mul (x y : Binary64) : Binary64 :=
  let negative := x.negative != y.negative
  if !x.isFinite || !y.isFinite then infinity negative
  else
    let (a, b) := x.toRatio
    let (c, d) := y.toRatio
    ofSigned negative (a * c) (b * d)

def neg (x : Binary64) : Binary64 := { x with negative := !x.negative }

/-- Equality of the numbers: zeros are equal whatever their sign, and a not-a-number equals
nothing. -/
def sameNumber (x y : Binary64) : Bool :=
  !x.isNaN && !y.isNaN && (x == y || (x.isZero && y.isZero))

/-- Whether a double is exactly the given integer. -/
def isInt (x : Binary64) (n : Int) : Bool :=
  x.isFinite && x.toRatio.1 == n * x.toRatio.2

/-! ## Laws of the operations -/

@[simp] theorem isFinite_zero (negative : Bool) : (zero negative).isFinite = true := rfl

@[simp] theorem isNaN_infinity (negative : Bool) : (infinity negative).isNaN = false := by
  simp [isNaN, infinity]

theorem isNaN_nanOf (index : Nat) : (nanOf index).isNaN = true := by
  simp only [isNaN, nanOf, nan, bne_iff_ne, Bool.and_eq_true, beq_self_eq_true, true_and]
  omega

theorem sameNumber_self {x : Binary64} (h : x.isNaN = false) : x.sameNumber x = true := by
  simp [sameNumber, h]

theorem sameNumber_comm (x y : Binary64) : x.sameNumber y = y.sameNumber x := by
  have symm : (x == y) = (y == x) := BEq.comm
  cases hx : x.isNaN <;> cases hy : y.isNaN <;> simp [sameNumber, hx, hy, symm, Bool.and_comm]

theorem ofRatio_zero (negative : Bool) (den : Nat) : ofRatio negative 0 den = zero negative := by
  simp [ofRatio]

end Binary64
end WireModel.Decimal
