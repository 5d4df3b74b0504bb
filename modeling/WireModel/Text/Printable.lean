import WireModel.Text.Hex
import WireModel.Text.Printable.Table

/-!
# Printable characters and quoted text

Which characters a quoted text shows as themselves. Among ASCII these are the characters
from the blank to the tilde; beyond it the table decides.

A message shows a text between single quotes, or between double quotes when it holds a single quote
and no double one. The quote in use, the backslash and every character without a printed form are
escaped.
-/

namespace WireModel.Text

/-! ## Printable characters -/

/-- Whether a number lies in one of the ranges. -/
def inRanges (ranges : Array (Nat × Nat)) (n : Nat) : Bool :=
  ranges.any fun range => range.1 ≤ n && n ≤ range.2

/-- Whether a character has a printed form. -/
def isPrintable (c : Char) : Bool :=
  if c.toNat < 0x80 then 0x20 ≤ c.toNat && c.toNat < 0x7F
  else !inRanges Printable.unprintable c.toNat

theorem isPrintable_of_isAlphanum {c : Char} (h : c.isAlphanum = true) :
    isPrintable c = true := by
  delta Char.isAlphanum Char.isAlpha Char.isUpper Char.isLower Char.isDigit at h
  simp only [Bool.or_eq_true, Bool.and_eq_true, decide_eq_true_eq, ge_iff_le,
    UInt32.le_iff_toNat_le] at h
  have hn : c.toNat = c.val.toNat := rfl
  have : 0x20 ≤ c.toNat ∧ c.toNat < 0x7F := by
    rw [hn]
    simp at h
    omega
  simp [isPrintable, this]
  omega

/-! ## Quoted text -/

/-- The quote that a text is put between. -/
def quoteFor (cs : List Char) : Char :=
  if cs.contains '\'' && !cs.contains '"' then '"' else '\''

/-- A character between quotes. -/
def quoteChar (quote c : Char) : List Char :=
  if c == quote || c == '\\' then ['\\', c]
  else if c == '\n' then ['\\', 'n']
  else if c == '\r' then ['\\', 'r']
  else if c == '\t' then ['\\', 't']
  else if isPrintable c then [c]
  else if c.toNat < 0x100 then '\\' :: 'x' :: hex 2 c.toNat
  else if c.toNat < 0x10000 then '\\' :: 'u' :: hex 4 c.toNat
  else '\\' :: 'U' :: hex 8 c.toNat

/-- A text as messages show it. -/
def quoted (s : String) : String :=
  let quote := quoteFor s.toList
  String.ofList (quote :: s.toList.flatMap (quoteChar quote) ++ [quote])

theorem quoteChar_printable {quote c : Char} (printable : isPrintable c = true)
    (plain : c ≠ quote) (noBackslash : c ≠ '\\') : quoteChar quote c = [c] := by
  have newline : c ≠ '\n' := by rintro rfl; revert printable; decide
  have carriage : c ≠ '\r' := by rintro rfl; revert printable; decide
  have tab : c ≠ '\t' := by rintro rfl; revert printable; decide
  simp [quoteChar, printable, plain, noBackslash, newline, carriage, tab]

end WireModel.Text
