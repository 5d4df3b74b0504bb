import WireModel.Decimal.Limit
import WireModel.Text.Blank

/-!
# Free decimal numerals

Numbers as people write them: with blanks around them, a sign of either kind, single underscores
between digits, and a point with digits on one side of it only. `inf`, `infinity` and `nan` are
floats in any case. The strict numerals of documents are read where the documents are.
-/

namespace WireModel.Decimal

/-- Whether a sign is a minus, and what follows the sign. -/
def unsigned : List Char → Bool × List Char
  | '-' :: rest => (true, rest)
  | '+' :: rest => (false, rest)
  | cs => (false, cs)

/-- Digits without the single underscores between them. -/
def digits? : List Char → Option (List Char)
  | [] => none
  | [d] => if d.isDigit then some [d] else none
  | d :: '_' :: rest => if d.isDigit then (digits? rest).map (d :: ·) else none
  | d :: rest => if d.isDigit then (digits? rest).map (d :: ·) else none

/-- Digits, of which there may be none. -/
def digitsOrNone? (cs : List Char) : Option (List Char) :=
  if cs.isEmpty then some [] else digits? cs

/-- Whether an integer is negative, and its digits. -/
def integer? (s : String) : Option (Bool × List Char) :=
  let (negative, cs) := unsigned (Text.trim s.toList)
  (digits? cs).map fun digits => (negative, digits)

/-- The double of an unsigned numeral with a point, an exponent or neither. -/
def magnitude? (negative : Bool) (cs : List Char) : Option Binary64 := do
  let mantissa := cs.takeWhile fun c => c != 'e' && c != 'E'
  let whole := mantissa.takeWhile (· != '.')
  let wholeDigits ← digitsOrNone? whole
  let fraction ← digitsOrNone? (mantissa.drop (whole.length + 1))
  if wholeDigits.isEmpty && fraction.isEmpty then none
  let power ←
    match cs.drop mantissa.length with
    | [] => some 0
    | _ :: exponent =>
      let (below, digits) := unsigned exponent
      (digits? digits).map fun ds => if below then -(toNat ds : Int) else toNat ds
  return .ofDecimal negative (toNat (wholeDigits ++ fraction)) (power - fraction.length)

/-- The double of a numeral; `nan` stands for the one of that name. -/
def binary64? (nan : Binary64) (s : String) : Option Binary64 :=
  let (negative, cs) := unsigned (Text.trim s.toList)
  match String.ofList (cs.map Char.toLower) with
  | "nan" => some nan
  | "inf" | "infinity" => some (.infinity negative)
  | _ => magnitude? negative cs

theorem isDigit_of_mem_digits? {cs ds : List Char} (h : digits? cs = some ds) :
    ∀ d ∈ ds, d.isDigit = true := by
  fun_induction digits? cs generalizing ds with
  | case1 => simp at h
  | case2 d hd =>
      obtain rfl : [d] = ds := Option.some.inj h
      simpa using hd
  | case3 => simp at h
  | case4 d rest hd ih =>
      obtain ⟨u, hu, rfl⟩ := Option.map_eq_some_iff.1 h
      simpa [hd] using ih hu
  | case5 => simp at h
  | case6 d rest _ _ hd ih =>
      obtain ⟨u, hu, rfl⟩ := Option.map_eq_some_iff.1 h
      simpa [hd] using ih hu
  | case7 => simp at h

end WireModel.Decimal
