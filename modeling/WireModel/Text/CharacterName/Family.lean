import WireModel.Text.Hex

/-!
# Families of names

Most names of characters share their beginnings and their endings with others. A family is given
by both, and a series has one beginning and numbers for endings.
-/

namespace WireModel.Text.CharacterName

/-- Names that have one of some beginnings and one of some endings. Each line lists several of
them with semicolons between them. A blank or a hyphen between a beginning and an ending belongs
to the beginning. -/
structure Family where
  beginnings : List String
  endings : List String

/-- The parts that some lines list. -/
def partsOf (lines : List String) : List String := lines.flatMap fun line => line.splitOn ";"

def Family.has (f : Family) (name : String) : Bool :=
  (partsOf f.beginnings).any fun beginning =>
    beginning.toList.isPrefixOf name.toList &&
      (partsOf f.endings).contains (String.ofList (name.toList.drop beginning.length))

/-- Names that end with a number of a range, which is written with digits of a base and, with
zeros before it, at least so many of them. -/
structure Series where
  beginning : String
  base : Nat
  width : Nat
  first : Nat
  last : Nat

/-- The number that digits of a base denote, letters among them in upper case. -/
def number? (base : Nat) (digits : List Char) : Option Nat :=
  digits.foldl (fun n c => do
    let d ← if c.isLower then none else hexValue? c
    if d < base then return base * (← n) + d else none) (some 0)

def Series.has (s : Series) (name : String) : Bool :=
  s.beginning.toList.isPrefixOf name.toList &&
    let digits := name.toList.drop s.beginning.length
    (digits.length == s.width || (s.width < digits.length && digits.head? != some '0')) &&
      (number? s.base digits).any fun n => s.first ≤ n && n ≤ s.last

end WireModel.Text.CharacterName
