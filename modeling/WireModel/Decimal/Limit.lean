import WireModel.Decimal.Text

/-!
# How long decimal integers may be

Decimal text of an integer is read and written only up to a number of digits, because the work
grows faster than the text. A text in base two, eight or sixteen has no such limit, so an integer
may be there that cannot be written.
-/

namespace WireModel.Decimal

-- powers are those of the core library, whatever else is in scope
attribute [local instance (high)] instPowNat

/-- The most digits that are read or written; the sign is not counted. -/
def maxDigits : Nat := 4300

/-- The first number with too many digits. -/
def tooLong : Nat := 10 ^ maxDigits

/-- Whether an integer has a decimal text. -/
def isWritable (n : Int) : Bool := n.natAbs < tooLong

/-- Why an integer has no decimal text, or a decimal text no integer. -/
inductive Overlong where
  /-- A text of so many digits. -/
  | read (digits : Nat)
  | written
  deriving DecidableEq

def Overlong.message (o : Overlong) : String :=
  "Exceeds the limit (" ++ ofNat maxDigits ++ " digits) for integer string conversion" ++
    (match o with
      | .read digits => ": value has " ++ ofNat digits ++ " digits"
      | .written => "") ++
    "; use sys.set_int_max_str_digits() to increase the limit"

theorem isWritable_neg (n : Int) : isWritable (-n) = isWritable n := by
  simp [isWritable]

end WireModel.Decimal
