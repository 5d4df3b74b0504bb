import WireModel.Decimal.Limit
import WireModel.Text.Hex

/-!
# Numerals in generated modules

A number is written in base two, eight or sixteen after a mark, or in decimal with a fraction, an
exponent and the mark of an imaginary number, each of which may be missing. Digits may have single
underscores between them. No name follows a numeral directly, but some operators that are words
may. Taking a numeral gives the characters after it, and nothing if it is malformed.
-/

namespace WireModel.Output.Numeral

/-- Takes digits of a class, at least one, with single underscores between them, and counts them. -/
def takeDigits (isDigit : Char → Bool) : List Char → Option (Nat × List Char)
  | [] => none
  | d :: '_' :: rest =>
    if isDigit d then (takeDigits isDigit rest).map fun (n, after) => (n + 1, after) else none
  | d :: rest =>
    if isDigit d then
      if rest.head?.any isDigit then
        (takeDigits isDigit rest).map fun (n, after) => (n + 1, after)
      else some (1, rest)
    else none

/-- Whether a character may stand in a name; one outside ASCII always counts. -/
def joinsNames (c : Char) : Bool := c.isAlphanum || c == '_' || 0x80 ≤ c.toNat

/-- The words that may follow a numeral directly, as far as they are looked at. -/
def followers : List String := ["and", "else", "for", "if", "in", "is", "or", "not"]

/-- Whether a numeral may end here. -/
def mayEnd (rest : List Char) : Bool :=
  match rest with
  | [] => true
  | c :: _ => !joinsNames c || followers.any fun word => word.toList.isPrefixOf rest

/-- The characters after a numeral if it may end there. -/
def ended (imaginary : Bool) (rest : List Char) : Option (Bool × List Char) :=
  if mayEnd rest then some (imaginary, rest) else none

/-- Takes a numeral of a base after its mark. An underscore may stand between them. -/
def takeBased (isDigit : Char → Bool) (cs : List Char) : Option (Bool × List Char) := do
  let (_, rest) ← takeDigits isDigit (match cs with | '_' :: digits => digits | _ => cs)
  if rest.head?.any Char.isDigit then none else ended false rest

/-- Takes the mark of an imaginary number if it stands here. -/
def takeMark (rest : List Char) : Option (Bool × List Char) :=
  match rest with
  | 'j' :: after | 'J' :: after => ended true after
  | _ => ended false rest

/-- Takes an exponent if there is one. A sign needs digits after it; without either, the letter
belongs to a word that follows. -/
def takeExponent (rest : List Char) : Option (Bool × List Char) :=
  match rest with
  | e :: after =>
    if e == 'e' || e == 'E' then
      let signed := after.head? == some '+' || after.head? == some '-'
      let digits := if signed then after.drop 1 else after
      if digits.head?.any Char.isDigit then do
        let (_, rest) ← takeDigits Char.isDigit digits
        takeMark rest
      else if signed then none
      else ended false rest
    else takeMark rest
  | [] => some (false, [])

/-- Takes what follows a point. -/
def takeFraction (rest : List Char) : Option (Bool × List Char) :=
  if rest.head?.any Char.isDigit then do
    let (_, rest) ← takeDigits Char.isDigit rest
    takeExponent rest
  else takeExponent rest

/-- Whether digits are zeros only. -/
def isZeros (cs : List Char) : Bool := cs.all fun c => c == '0' || c == '_'

/-- Takes a decimal numeral that starts with a digit. A whole number starts with zero only if it
is zero, and it is not too long. -/
def takeDecimal (cs : List Char) : Option (Bool × List Char) := do
  let (count, rest) ← takeDigits Char.isDigit cs
  let whole := cs.take (cs.length - rest.length)
  match rest with
  | '.' :: fraction => takeFraction fraction
  | _ =>
    let (imaginary, after) ← takeExponent rest
    let isWhole := after.length == rest.length
    let isLong := Decimal.maxDigits < count || whole.head? == some '0'
    if isWhole && isLong && !isZeros whole then none else some (imaginary, after)

/-- Takes a numeral: whether it is imaginary, and the characters after it. -/
def take? (cs : List Char) : Option (Bool × List Char) :=
  match cs with
  | '.' :: rest => takeFraction rest
  | '0' :: mark :: rest =>
    match mark.toLower with
    | 'x' => takeBased (fun c => (Text.hexValue? c).isSome) rest
    | 'o' => takeBased (fun c => '0' ≤ c && c ≤ '7') rest
    | 'b' => takeBased (fun c => c == '0' || c == '1') rest
    | _ => takeDecimal cs
  | _ => takeDecimal cs

/-- Taking digits leaves fewer characters. -/
theorem length_lt_of_takeDigits {isDigit : Char → Bool} {cs rest : List Char} {n : Nat}
    (h : takeDigits isDigit cs = some (n, rest)) : rest.length < cs.length := by
  fun_induction takeDigits isDigit cs generalizing n rest with
  | case1 => simp at h
  | case2 d more _ ih =>
      obtain ⟨⟨m, after⟩, found, same⟩ := Option.map_eq_some_iff.1 h
      have := ih found
      simp_all
      omega
  | case3 => simp at h
  | case4 d more _ _ _ ih =>
      obtain ⟨⟨m, after⟩, found, same⟩ := Option.map_eq_some_iff.1 h
      have := ih found
      simp_all
      omega
  | case5 d more =>
      obtain ⟨_, rfl⟩ := Prod.mk.inj (Option.some.inj h)
      simp
  | case6 => simp at h

end WireModel.Output.Numeral
