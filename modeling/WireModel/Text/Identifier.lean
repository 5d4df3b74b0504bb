import WireModel.Text.Identifier.Table
import WireModel.Text.Printable

/-!
# Identifiers

The names that generated code may use. An identifier starts with a letter or an underscore
and goes on with letters, digits and underscores, in the sense of Unicode; a reserved word
of the generated language is an identifier but no usable name.
-/

namespace WireModel.Text

/-- ASCII letters and the underscore. -/
def isWordStart (c : Char) : Bool := c.isAlpha || c == '_'

/-- Characters that may start an identifier. -/
def startsIdentifier (c : Char) : Bool :=
  if c.toNat < 0x80 then isWordStart c else inRanges Identifier.starters c.toNat

/-- Characters that may stand inside an identifier. -/
def continuesIdentifier (c : Char) : Bool :=
  if c.toNat < 0x80 then isWordStart c || c.isDigit
  else inRanges Identifier.starters c.toNat || inRanges Identifier.extenders c.toNat

/-- Whether a list of characters is an identifier. -/
def isIdentifierList : List Char → Bool
  | [] => false
  | c :: rest => startsIdentifier c && rest.all continuesIdentifier

/-- Whether a text is an identifier. -/
def isIdentifier (s : String) : Bool := isIdentifierList s.toList

/-- The reserved words of the generated language. -/
def reservedWords : List String :=
  ["False", "None", "True", "and", "as", "assert", "async", "await", "break", "class",
   "continue", "def", "del", "elif", "else", "except", "finally", "for", "from", "global",
   "if", "import", "in", "is", "lambda", "nonlocal", "not", "or", "pass", "raise", "return",
   "try", "while", "with", "yield"]

/-- Whether a text is a reserved word. -/
def isReserved (s : String) : Bool := reservedWords.contains s

/-- Whether a text can stand as a name in generated code. -/
def isUsableName (s : String) : Bool := isIdentifier s && !isReserved s

theorem startsIdentifier_of_isAlpha {c : Char} (h : c.isAlpha = true) :
    startsIdentifier c = true := by
  have small : c.toNat < 0x80 := by
    delta Char.isAlpha Char.isUpper Char.isLower at h
    simp only [Bool.or_eq_true, Bool.and_eq_true, decide_eq_true_eq, ge_iff_le,
      UInt32.le_iff_toNat_le] at h
    have hn : c.toNat = c.val.toNat := rfl
    rw [hn]
    simp at h
    omega
  simp [startsIdentifier, small, isWordStart, h]

end WireModel.Text
