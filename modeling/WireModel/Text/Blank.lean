/-!
# Blanks and lines

The blank characters of Unicode, trimming, and the two ways in which texts are cut into
lines: at every line separator, or at the newlines of a text file alone.
-/

namespace WireModel.Text

/-- Blank characters. -/
def isBlank (c : Char) : Bool :=
  let n := c.toNat
  (9 ≤ n && n ≤ 13) || (28 ≤ n && n ≤ 32) || n == 0x85 || n == 0xA0 || n == 0x1680 ||
    (0x2000 ≤ n && n ≤ 0x200A) || n == 0x2028 || n == 0x2029 || n == 0x202F || n == 0x205F ||
    n == 0x3000

/-- Without the blanks at either end. -/
def trim (cs : List Char) : List Char :=
  ((cs.dropWhile isBlank).reverse.dropWhile isBlank).reverse

/-- Characters that end a line; a carriage return and a newline together end one line. -/
def endsLine (c : Char) : Bool :=
  let n := c.toNat
  (10 ≤ n && n ≤ 13) || (28 ≤ n && n ≤ 30) || n == 0x85 || n == 0x2028 || n == 0x2029

/-- Newlines of a text file. -/
def isNewline (c : Char) : Bool := c == '\n' || c == '\r'

/-- The lines of a text under a choice of line ends. A line end at the end of the text does
not start another line. `line` holds the current line, last character first. -/
def linesFrom (ends : Char → Bool) : List Char → List Char → List (List Char)
  | [], line => if line.isEmpty then [] else [line.reverse]
  | '\r' :: '\n' :: rest, line =>
    if ends '\r' then line.reverse :: linesFrom ends rest []
    else linesFrom ends ('\n' :: rest) ('\r' :: line)
  | c :: rest, line =>
    if ends c then line.reverse :: linesFrom ends rest []
    else linesFrom ends rest (c :: line)
  termination_by cs => cs.length

/-- The lines of a text, cut at every line separator. -/
def lines (cs : List Char) : List (List Char) := linesFrom endsLine cs []

/-- The lines of a text file. -/
def fileLines (cs : List Char) : List (List Char) := linesFrom isNewline cs []

theorem isBlank_of_isWhitespace {c : Char} (h : c.isWhitespace = true) : isBlank c = true := by
  simp only [Char.isWhitespace, Bool.or_eq_true, decide_eq_true_eq] at h
  rcases h with ((h | h) | h) | h <;> subst h <;> decide

theorem endsLine_of_isNewline {c : Char} (h : isNewline c = true) : endsLine c = true := by
  simp only [isNewline, Bool.or_eq_true, beq_iff_eq] at h
  rcases h with h | h <;> subst h <;> decide

end WireModel.Text
