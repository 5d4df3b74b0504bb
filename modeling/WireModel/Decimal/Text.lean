import WireModel.Decimal.Shortest

/-!
# Decimal text

Integers in decimal, and doubles in the notation that all documents and messages of this
library use. `Notation.plain` holds the decisions of that notation; the digits come from
`Binary64.shortest`.
-/

namespace WireModel.Decimal

/-! ## Integers -/

/-- The decimal digit of a number below ten. -/
def digitChar (d : Nat) : Char := Char.ofNat (48 + d)

/-- The decimal digits of a number, at most `fuel` of them, in front of `rest`. -/
def digitsOnto : Nat → Nat → List Char → List Char
  | 0, _, rest => rest
  | fuel + 1, n, rest =>
    if n < 10 then digitChar n :: rest
    else digitsOnto fuel (n / 10) (digitChar (n % 10) :: rest)

/-- The decimal digits of a number; it has no more of them than binary ones. -/
def natDigits (n : Nat) : List Char := digitsOnto (n.log2 + 1) n []

/-- The decimal text of a natural number. -/
def ofNat (n : Nat) : String := String.ofList (natDigits n)

/-- The decimal text of an integer. -/
def ofInt (n : Int) : String :=
  if n < 0 then "-" ++ ofNat n.natAbs else ofNat n.natAbs

/-- The number that a list of decimal digits denotes. -/
def toNat (digits : List Char) : Nat :=
  digits.foldl (fun n c => 10 * n + (c.toNat - 48)) 0

/-! ## Doubles -/

/-- The choices a decimal notation makes. -/
structure Style where
  /-- Positional notation is used when the leading digit stands for a power of ten from here … -/
  leastPositional : Int
  /-- … up to here. -/
  mostPositional : Int
  /-- The fewest digits of a written exponent. -/
  exponentWidth : Nat
  infinity : String
  nan : String

/-- Numbers from `0.0001` up to `10 ^ 16` are written positionally, with at least one digit
after the point, and exponents have a sign and at least two digits. -/
def Style.plain : Style := ⟨-4, 15, 2, "inf", "nan"⟩

/-- The notation of a data document: as `plain`, with the names that such documents use. -/
def Style.document : Style := { Style.plain with infinity := "Infinity", nan := "NaN" }

/-- A run of zeros. -/
def zeros (n : Nat) : List Char := List.replicate n '0'

/-- The digits without the zeros at their end. -/
def dropTrailingZeros (ds : List Char) : List Char :=
  (ds.reverse.dropWhile (· == '0')).reverse

/-- Digits whose first stands for `10 ^ leading`, with a decimal point among them. -/
def positional (digits : List Char) (leading : Int) : List Char :=
  if leading < 0 then '0' :: '.' :: zeros (-leading - 1).toNat ++ digits
  else
    let whole := leading.toNat + 1
    let fraction := digits.drop whole
    digits.take whole ++ zeros (whole - digits.length) ++ '.' ::
      (if fraction.isEmpty then ['0'] else fraction)

/-- Digits whose first stands for `10 ^ leading`, with a written exponent. -/
def scientific (width : Nat) (digits : List Char) (leading : Int) : List Char :=
  let power := natDigits leading.natAbs
  digits.take 1 ++ (if digits.length ≤ 1 then [] else '.' :: digits.drop 1) ++ 'e' ::
    (if leading < 0 then '-' else '+') :: zeros (width - power.length) ++ power

/-- The text of a finite double without its sign. -/
def Style.magnitude (style : Style) (x : Binary64) : List Char :=
  let decimal := x.shortest
  let written := natDigits decimal.digits
  let leading : Int := written.length - 1 + decimal.power
  let digits := dropTrailingZeros written
  if x.isZero then ['0', '.', '0']
  else if style.leastPositional ≤ leading && leading ≤ style.mostPositional then
    positional digits leading
  else scientific style.exponentWidth digits leading

/-- The text of a double. -/
def Style.ofBinary64 (style : Style) (x : Binary64) : String :=
  let sign := if x.negative then "-" else ""
  if x.isNaN then style.nan
  else if x.isInfinite then sign ++ style.infinity
  else sign ++ String.ofList (style.magnitude x)

/-! ## Laws of integer text -/

theorem natDigits_ne_nil (n : Nat) : natDigits n ≠ [] := by
  have onto : ∀ (fuel m : Nat) (rest : List Char), rest ≠ [] → digitsOnto fuel m rest ≠ [] := by
    intro fuel
    induction fuel with
    | zero => intro m rest h; simpa [digitsOnto] using h
    | succ k ih =>
        intro m rest h
        unfold digitsOnto
        split
        · simp
        · exact ih _ _ (by simp)
  unfold natDigits digitsOnto
  split
  · simp
  · exact onto _ _ _ (by simp)

end WireModel.Decimal
