/-!
# Hexadecimal digits

Fixed-width lower-case hexadecimal, as escapes write it, and the reading of single digits.
-/

namespace WireModel.Text

/-- The lower-case hexadecimal digit of a number below sixteen. -/
def hexDigit (n : Nat) : Char :=
  if n < 10 then Char.ofNat (48 + n) else Char.ofNat (87 + n)

/-- The last `width` hexadecimal digits of a number. -/
def hex : Nat → Nat → List Char
  | 0, _ => []
  | width + 1, n => hex width (n / 16) ++ [hexDigit (n % 16)]

/-- The value of a hexadecimal digit of either case. -/
def hexValue? (c : Char) : Option Nat :=
  if '0' ≤ c && c ≤ '9' then some (c.toNat - 48)
  else if 'a' ≤ c && c ≤ 'f' then some (c.toNat - 87)
  else if 'A' ≤ c && c ≤ 'F' then some (c.toNat - 55)
  else none

/-- The number that a list of hexadecimal digits denotes. -/
def hexNumber? (digits : List Char) : Option Nat :=
  digits.foldl (fun n c => n.bind fun n => (hexValue? c).map (16 * n + ·)) (some 0)

/-- Octets of two digits each; a digit that is left over stands for none. -/
def octetsOfHex : List Char → Option (List UInt8)
  | a :: b :: rest => do
    let n ← hexNumber? [a, b]
    return n.toUInt8 :: (← octetsOfHex rest)
  | _ => some []

def hexOfOctets (octets : List UInt8) : String :=
  String.ofList (octets.flatMap fun b => hex 2 b.toNat)

@[simp] theorem length_hex (width n : Nat) : (hex width n).length = width := by
  induction width generalizing n with
  | zero => rfl
  | succ k ih => simp [hex, ih]

theorem exists_of_mem_hex {c : Char} : ∀ {width n : Nat}, c ∈ hex width n →
    ∃ d < 16, c = hexDigit d
  | width + 1, n, mem => by
    rcases List.mem_append.mp mem with front | last
    · exact exists_of_mem_hex front
    · exact ⟨n % 16, Nat.mod_lt _ (by omega), List.mem_singleton.mp last⟩

end WireModel.Text
