/-!
# Positions in YAML text

A cursor holds what is left of a text and the line and column reached. Reading past the end
gives the NUL character, which no text contains.
-/

namespace WireModel.Yaml

/-- The character that stands for the end of the text. -/
def endMark : Char := Char.ofNat 0

/-- Characters that a text may hold. -/
def isAllowed (c : Char) : Bool :=
  let n := c.toNat
  n == 9 || n == 10 || n == 13 || (0x20 ≤ n && n ≤ 0x7E) || n == 0x85 || (0xA0 ≤ n && n ≤ 0xD7FF) ||
    (0xE000 ≤ n && n ≤ 0xFFFD) || 0x10000 ≤ n

/-- Line ends. -/
def isBreak (c : Char) : Bool :=
  c == '\n' || c == '\r' || c.toNat == 0x85 || c.toNat == 0x2028 || c.toNat == 0x2029

/-- Line ends and the end of the text. -/
def isBreakOrEnd (c : Char) : Bool := isBreak c || c == endMark

/-- What separates an indicator from the text after it. -/
def isSpaceOrEnd (c : Char) : Bool := c == ' ' || c == '\t' || isBreakOrEnd c

/-- What is left of a text and where it starts. -/
structure Cursor where
  rest : List Char
  index : Nat
  line : Nat
  column : Nat

namespace Cursor

/-- The character `n` places ahead. -/
def peek (c : Cursor) (n : Nat := 0) : Char := (c.rest[n]?).getD endMark

/-- The cursor after one more character. A carriage return in front of a newline and a byte
order mark take no place in their line. -/
def next (c : Cursor) : Cursor :=
  match c.rest with
  | [] => c
  | ch :: rest =>
    if isBreak ch && !(ch == '\r' && rest.head? == some '\n') then
      ⟨rest, c.index + 1, c.line + 1, 0⟩
    else if ch.toNat == 0xFEFF then ⟨rest, c.index + 1, c.line, c.column⟩
    else ⟨rest, c.index + 1, c.line, c.column + 1⟩

/-- The cursor after `n` more characters. -/
def skip (c : Cursor) : Nat → Cursor
  | 0 => c
  | n + 1 => c.next.skip n

/-- Takes the longest run of characters that satisfy a predicate. -/
def takeWhile (c : Cursor) (p : Char → Bool) : List Char × Cursor :=
  let taken := c.rest.takeWhile p
  (taken, c.skip taken.length)

/-- The cursor after a run of characters. -/
def skipWhile (c : Cursor) (p : Char → Bool) : Cursor := (c.takeWhile p).2

/-- Takes a line end, if there is one: all of them are newlines but the two separators that
stand for themselves. -/
def takeBreak (c : Cursor) : List Char × Cursor :=
  let ch := c.peek
  if ch == '\r' && c.peek 1 == '\n' then (['\n'], c.skip 2)
  else if ch.toNat == 0x2028 || ch.toNat == 0x2029 then ([ch], c.next)
  else if isBreak ch then (['\n'], c.next)
  else ([], c)

/-- Whether a document separator stands here. -/
def atSeparator (c : Cursor) : Bool :=
  (c.rest.take 3 == ['-', '-', '-'] || c.rest.take 3 == ['.', '.', '.']) && isSpaceOrEnd (c.peek 3)

end Cursor

theorem isSpaceOrEnd_of_isBreak {c : Char} (h : isBreak c = true) : isSpaceOrEnd c = true := by
  simp [isSpaceOrEnd, isBreakOrEnd, h]

end WireModel.Yaml
