import WireModel.Text.Hex
import WireModel.Yaml.Cursor

/-!
# Scalars in YAML text

The five ways of writing a scalar: plain, in single or double quotes, and as a literal or
folded block. Each reader starts at the first character of the scalar and returns its text
with the cursor after it, or the fault of the scalar. Most faults say nothing but that a text is
malformed. Scalars that have the form of a number or of a character, and are none, are told apart.
-/

namespace WireModel.Yaml

/-- Why a text denotes no value. -/
inductive Fault where
  | malformed
  /-- A number in a base without any digit of it. -/
  | noDigits (base : Nat)
  /-- A decimal integer of so many digits. -/
  | overlong (digits : Nat)
  /-- An escape with a code that no character has. -/
  | noCharacter (code : Nat)
  /-- A number in base sixty of so many places that their weights are beyond the doubles. -/
  | tooManyPlaces
  deriving DecidableEq

/-- A text with the cursor after it. -/
abbrev Scanned := Except Fault (List Char × Cursor)

/-! ## Line folding -/

/-- The text of line ends inside a scalar: one alone is a blank, of more the first is
dropped. -/
def foldedBreak (first more : List Char) : List Char :=
  if first != ['\n'] then first ++ more else if more.isEmpty then [' '] else more

/-! ## Quoted scalars -/

/-- The character that a one-letter escape stands for. -/
def escaped? : Char → Option Nat
  | '0' => some 0x00
  | 'a' => some 0x07
  | 'b' => some 0x08
  | 't' | '\t' => some 0x09
  | 'n' => some 0x0A
  | 'v' => some 0x0B
  | 'f' => some 0x0C
  | 'r' => some 0x0D
  | 'e' => some 0x1B
  | ' ' => some 0x20
  | '"' => some 0x22
  | '\\' => some 0x5C
  | '/' => some 0x2F
  | 'N' => some 0x85
  | '_' => some 0xA0
  | 'L' => some 0x2028
  | 'P' => some 0x2029
  | _ => none

/-- The number of hexadecimal digits after an escape's letter. -/
def escapeWidth? : Char → Option Nat
  | 'x' => some 2
  | 'u' => some 4
  | 'U' => some 8
  | _ => none

/-- The blank lines after a line end in a quoted scalar; a document separator may not start
one of them. -/
def quotedBreaks : Nat → Cursor → List Char → Scanned
  | 0, _, _ => .error .malformed
  | fuel + 1, c, breaks =>
    if c.atSeparator then .error .malformed
    else
      let c := c.skipWhile fun ch => ch == ' ' || ch == '\t'
      if isBreak c.peek then
        let (br, after) := c.takeBreak
        quotedBreaks fuel after (breaks ++ br)
      else .ok (breaks, c)

/-- The blanks and line ends at a cursor in a quoted scalar. -/
def quotedBlanks (fuel : Nat) (c : Cursor) : Scanned :=
  let (blanks, c) := c.takeWhile fun ch => ch == ' ' || ch == '\t'
  if c.peek == endMark then .error .malformed
  else if isBreak c.peek then
    let (br, after) := c.takeBreak
    (quotedBreaks fuel after []).map fun (breaks, after) => (foldedBreak br breaks, after)
  else .ok (blanks, c)

/-- The character whose code has so many hexadecimal digits, at a cursor in front of them. -/
def codedCharacter (width : Nat) (c : Cursor) : Scanned :=
  let digits := c.rest.take width
  match if digits.length < width then none else Text.hexNumber? digits with
  | none => .error .malformed
  | some code =>
    if code ≤ 0x10FFFF then .ok ([Char.ofNat code], c.skip width) else .error (.noCharacter code)

/-- The escape at a cursor in a double-quoted scalar, after its backslash. -/
def quotedEscape (fuel : Nat) (c : Cursor) : Scanned :=
  let ch := c.peek
  match escaped? ch, escapeWidth? ch with
  | some n, _ => .ok ([Char.ofNat n], c.next)
  | none, some width => codedCharacter width c.next
  | none, none =>
    if isBreak ch then quotedBreaks fuel c.takeBreak.2 [] else .error .malformed

/-- The rest of a quoted scalar; `text` is what was read of it. -/
def quotedFrom (double : Bool) : Nat → Cursor → List Char → Scanned
  | 0, _, _ => .error .malformed
  | fuel + 1, c, text =>
    let ch := c.peek
    if double && ch == '"' then .ok (text, c.next)
    else if !double && ch == '\'' then
      if c.peek 1 == '\'' then quotedFrom double fuel (c.skip 2) (text ++ ['\''])
      else .ok (text, c.next)
    else if double && ch == '\\' then
      match quotedEscape c.rest.length c.next with
      | .error fault => .error fault
      | .ok (part, after) => quotedFrom double fuel after (text ++ part)
    else if isSpaceOrEnd ch then
      match quotedBlanks c.rest.length c with
      | .error fault => .error fault
      | .ok (part, after) => quotedFrom double fuel after (text ++ part)
    else
      let (part, after) := c.takeWhile fun x =>
        !(isSpaceOrEnd x || x == '\'' || x == '"' || x == '\\')
      if part.isEmpty then quotedFrom double fuel c.next (text ++ [ch])
      else quotedFrom double fuel after (text ++ part)

/-- A scalar in quotes. -/
def quotedScalar (double : Bool) (c : Cursor) : Scanned :=
  quotedFrom double (c.rest.length + 1) c.next []

/-! ## Plain scalars -/

/-- Whether a plain scalar ends here. -/
def endsPlain (inFlow : Bool) (c : Cursor) (n : Nat) : Bool :=
  let ch := c.peek n
  let following := c.peek (n + 1)
  isSpaceOrEnd ch ||
    (ch == ':' && (isSpaceOrEnd following || (inFlow && ",[]\x7b\x7d".toList.contains following))) ||
    (inFlow && ",?[]\x7b\x7d".toList.contains ch)

/-- The length of a part of a plain scalar without blanks. -/
def plainLength (inFlow : Bool) (c : Cursor) : Nat → Nat → Nat
  | 0, n => n
  | fuel + 1, n => if endsPlain inFlow c n then n else plainLength inFlow c fuel (n + 1)

/-- What separates two parts of a plain scalar. -/
structure PlainGap where
  text : List Char
  after : Cursor
  /-- Whether a line ended in the gap. -/
  broken : Bool

/-- The blank lines in a gap; a document separator ends the scalar. -/
def plainBreaks : Nat → Cursor → List Char → Option (List Char × Cursor) × Cursor
  | 0, c, _ => (none, c)
  | fuel + 1, c, breaks =>
    if c.peek == ' ' then plainBreaks fuel c.next breaks
    else if isBreak c.peek then
      let (br, after) := c.takeBreak
      if after.atSeparator then (none, after) else plainBreaks fuel after (breaks ++ br)
    else (some (breaks, c), c)

/-- The gap at a cursor; an empty text ends the scalar. -/
def plainGap (c : Cursor) : PlainGap :=
  let (blanks, c) := c.takeWhile (· == ' ')
  if isBreak c.peek then
    let (br, after) := c.takeBreak
    if after.atSeparator then ⟨[], after, true⟩
    else
      match plainBreaks (after.rest.length + 1) after [] with
      | (some (breaks, after), _) => ⟨foldedBreak br breaks, after, true⟩
      | (none, after) => ⟨[], after, true⟩
  else ⟨blanks, c, false⟩

/-- A plain scalar: its text, the cursor after it, and whether a line ended behind or within
it, so that a key may follow. -/
structure Plain where
  text : List Char
  after : Cursor
  broken : Bool

/-- The rest of a plain scalar whose lines are indented by at least `indent`. -/
def plainFrom (inFlow : Bool) (indent : Int) : Nat → Plain → List Char → Plain
  | 0, read, _ => read
  | fuel + 1, read, gap =>
    let c := read.after
    if c.peek == '#' then read
    else
      let length := plainLength inFlow c c.rest.length 0
      if length = 0 then read
      else
        let text := read.text ++ gap ++ c.rest.take length
        let next := plainGap (c.skip length)
        let read : Plain := ⟨text, next.after, next.broken⟩
        if next.text.isEmpty || next.after.peek == '#' ||
            (!inFlow && (next.after.column : Int) < indent) then read
        else plainFrom inFlow indent fuel read next.text

/-- A plain scalar. -/
def plainScalar (inFlow : Bool) (indent : Int) (c : Cursor) : Plain :=
  plainFrom inFlow indent (c.rest.length + 1) ⟨[], c, false⟩ []

/-! ## Block scalars -/

/-- What the line ends behind a block scalar become. -/
inductive Chomping where
  | clip
  | strip
  | keep
  deriving DecidableEq

def chomping? : Char → Option Chomping
  | '+' => some .keep
  | '-' => some .strip
  | _ => none

/-- The header of a block scalar after its indicator: chomping, indentation and the cursor
after it, in either order. -/
def blockHeader (c : Cursor) : Option (Chomping × Option Nat × Cursor) :=
  let digit (ch : Char) : Option Nat := if ch.isDigit then some (ch.toNat - 48) else none
  let header :=
    match chomping? c.peek with
    | some chomping =>
      match digit c.next.peek with
      | some n => (chomping, some n, c.skip 2)
      | none => (chomping, none, c.next)
    | none =>
      match digit c.peek with
      | some n =>
        match chomping? c.next.peek with
        | some chomping => (chomping, some n, c.skip 2)
        | none => (.clip, some n, c.next)
      | none => (.clip, none, c)
  let after := header.2.2.peek
  if header.2.1 == some 0 || !(after == ' ' || isBreakOrEnd after) then none else some header

/-- The cursor after the rest of a block scalar's first line, which may hold a comment. -/
def blockFirstLine (c : Cursor) : Option Cursor :=
  let c := c.skipWhile (· == ' ')
  let c := if c.peek == '#' then c.skipWhile (!isBreakOrEnd ·) else c
  if isBreakOrEnd c.peek then some c.takeBreak.2 else none

/-- The blank lines in front of a block scalar, with the deepest indentation met. -/
def blockIndentation : Nat → Cursor → List Char → Nat → List Char × Nat × Cursor
  | 0, c, breaks, deepest => (breaks, deepest, c)
  | fuel + 1, c, breaks, deepest =>
    if c.peek == ' ' then blockIndentation fuel c.next breaks (max deepest c.next.column)
    else if isBreak c.peek then
      let (br, after) := c.takeBreak
      blockIndentation fuel after (breaks ++ br) deepest
    else (breaks, deepest, c)

/-- The cursor after at most the indentation of a block scalar. -/
def skipIndent (indent : Nat) (c : Cursor) : Cursor :=
  c.skip (min (indent - c.column) (c.rest.takeWhile (· == ' ')).length)

/-- The blank lines inside a block scalar. -/
def blockBreaks (indent : Nat) : Nat → Cursor → List Char → List Char × Cursor
  | 0, c, breaks => (breaks, c)
  | fuel + 1, c, breaks =>
    let c := skipIndent indent c
    if isBreak c.peek then
      let (br, after) := c.takeBreak
      blockBreaks indent fuel after (breaks ++ br)
    else (breaks, c)

def isBlank (c : Char) : Bool := c == ' ' || c == '\t'

/-- The lines of a block scalar: the text, the end of its last line, the blank lines behind it
and the cursor. -/
def blockLines (folded : Bool) (indent : Nat) :
    Nat → Cursor → List Char → List Char → List Char → List Char × List Char × List Char × Cursor
  | 0, c, text, br, breaks => (text, br, breaks, c)
  | fuel + 1, c, text, br, breaks =>
    if c.column == indent && c.peek != endMark then
      let startsSolid := !isBlank c.peek
      let (line, c) := c.takeWhile (!isBreakOrEnd ·)
      let text := text ++ breaks ++ line
      let (br, after) := c.takeBreak
      let (breaks, after) := blockBreaks indent (after.rest.length + 1) after []
      if after.column == indent && after.peek != endMark then
        let joint :=
          if folded && br == ['\n'] && startsSolid && !isBlank after.peek then
            if breaks.isEmpty then [' '] else []
          else br
        blockLines folded indent fuel after (text ++ joint) br breaks
      else (text, br, breaks, after)
    else (text, br, breaks, c)

/-- A literal or folded block scalar inside a block of the given indentation. -/
def blockScalar (folded : Bool) (outer : Int) (c : Cursor) : Scanned :=
  match (blockHeader c.next).bind fun (chomping, increment, afterHeader) =>
      (blockFirstLine afterHeader).map fun start => (chomping, increment, start) with
  | none => .error .malformed
  | some (chomping, increment, start) =>
    let least := (max (outer + 1) 1).toNat
    let fuel := start.rest.length + 1
    let (breaks, indent, start) :=
      match increment with
      | some n =>
        let indent := least + n - 1
        let (breaks, c) := blockBreaks indent fuel start []
        (breaks, indent, c)
      | none =>
        let (breaks, deepest, c) := blockIndentation fuel start [] 0
        (breaks, max least deepest, c)
    let (text, br, breaks, after) := blockLines folded indent fuel start [] [] breaks
    let ending :=
      match chomping with
      | .strip => []
      | .clip => br
      | .keep => br ++ breaks
    .ok (text ++ ending, after)

theorem foldedBreak_newline : foldedBreak ['\n'] [] = [' '] := rfl

end WireModel.Yaml
