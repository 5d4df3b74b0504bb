import WireModel.Text.Hex
import WireModel.Decimal.Limit
import WireModel.Value.Basic

/-!
# Reading JSON text

A reader over a list of characters that keeps the position of every character, so that each
fault is reported where it lies. Besides JSON proper it accepts `NaN`, `Infinity` and
`-Infinity`; a key that occurs twice keeps its first place and its last value.
-/

namespace WireModel.Json

/-! ## Faults -/

/-- What is wrong with a text. -/
inductive Cause where
  | byteOrderMark
  | value
  | extraData
  | propertyName
  | colon
  | comma
  | unterminatedString
  | controlCharacter
  | escape
  | unicodeEscape
  deriving DecidableEq

def Cause.message : Cause → String
  | .byteOrderMark => "Unexpected UTF-8 BOM (decode using utf-8-sig)"
  | .value => "Expecting value"
  | .extraData => "Extra data"
  | .propertyName => "Expecting property name enclosed in double quotes"
  | .colon => "Expecting ':' delimiter"
  | .comma => "Expecting ',' delimiter"
  | .unterminatedString => "Unterminated string starting at"
  | .controlCharacter => "Invalid control character at"
  | .escape => "Invalid \\escape"
  | .unicodeEscape => "Invalid \\uXXXX escape"

/-- Why a text denotes no value. -/
inductive Fault where
  /-- A cause and the position of the character where it lies. -/
  | malformed (cause : Cause) (position : Nat)
  /-- An integer of so many digits. -/
  | overlong (digits : Nat)
  deriving DecidableEq

/-- The line of a position, counted from one. -/
def lineAt (text : List Char) (position : Nat) : Nat :=
  (text.take position).count '\n' + 1

/-- The column of a position, counted from one. -/
def columnAt (text : List Char) (position : Nat) : Nat :=
  ((text.take position).reverse.takeWhile (· != '\n')).length + 1

/-- A cause with its line, column and position. -/
def Cause.messageAt (cause : Cause) (position : Nat) (text : List Char) : String :=
  cause.message ++ ": line " ++ Decimal.ofNat (lineAt text position) ++ " column " ++
    Decimal.ofNat (columnAt text position) ++ " (char " ++ Decimal.ofNat position ++ ")"

/-! ## Cursors -/

/-- What is left of a text, and the position of its first character. -/
structure Cursor where
  rest : List Char
  position : Nat

/-- The result of reading a part of a text. -/
abbrev Reading (α : Type) := Except Fault (α × Cursor)

namespace Cursor

def fail (c : Cursor) (cause : Cause) : Except Fault α := .error (.malformed cause c.position)

/-- The cursor after `n` more characters. -/
def skip (c : Cursor) (n : Nat) : Cursor := ⟨c.rest.drop n, c.position + n⟩

/-- The blanks of JSON. -/
def isBlank (c : Char) : Bool := c == ' ' || c == '\t' || c == '\n' || c == '\r'

/-- The cursor at the next character that is not blank. -/
def skipBlanks (c : Cursor) : Cursor := c.skip (c.rest.takeWhile isBlank).length

/-- Takes the characters that satisfy a predicate. -/
def takeWhile (c : Cursor) (p : Char → Bool) : List Char × Cursor :=
  let taken := c.rest.takeWhile p
  (taken, c.skip taken.length)

end Cursor

/-! ## Strings -/

def isHighSurrogate (n : Nat) : Bool := 0xD800 ≤ n && n < 0xDC00

def isLowSurrogate (n : Nat) : Bool := 0xDC00 ≤ n && n < 0xE000

/-- Code units to characters: a high and a low surrogate in a row make one character, and a
surrogate without its partner is replaced. -/
def joinSurrogates : List Nat → List Char
  | [] => []
  | high :: low :: rest =>
    if isHighSurrogate high && isLowSurrogate low then
      Char.ofNat (0x10000 + (high - 0xD800) * 0x400 + (low - 0xDC00)) :: joinSurrogates rest
    else
      (if isHighSurrogate high || isLowSurrogate high then Char.ofNat 0xFFFD else Char.ofNat high)
        :: joinSurrogates (low :: rest)
  | [n] => [if isHighSurrogate n || isLowSurrogate n then Char.ofNat 0xFFFD else Char.ofNat n]

/-- The character that a one-letter escape stands for. -/
def escaped? : Char → Option Char
  | '"' => some '"'
  | '\\' => some '\\'
  | '/' => some '/'
  | 'b' => some (Char.ofNat 8)
  | 'f' => some (Char.ofNat 12)
  | 'n' => some '\n'
  | 'r' => some '\r'
  | 't' => some '\t'
  | _ => none

/-- Reads the rest of a string that began at `start`; `units` are the code units read so far,
last one first. A four-digit escape has to be followed by some character. -/
def stringFrom (start : Nat) : List Char → Nat → List Nat → Reading String
  | '"' :: rest, position, units =>
    .ok (String.ofList (joinSurrogates units.reverse), ⟨rest, position + 1⟩)
  | '\\' :: 'u' :: a :: b :: c :: d :: rest, position, units =>
    match Text.hexNumber? [a, b, c, d], rest with
    | some n, _ :: _ => stringFrom start rest (position + 6) (n :: units)
    | _, _ => .error (.malformed .unicodeEscape (position + 1))
  | '\\' :: 'u' :: _, position, _ => .error (.malformed .unicodeEscape (position + 1))
  | '\\' :: e :: rest, position, units =>
    match escaped? e with
    | some c => stringFrom start rest (position + 2) (c.toNat :: units)
    | none => .error (.malformed .escape position)
  | ['\\'], _, _ => .error (.malformed .unterminatedString start)
  | c :: rest, position, units =>
    if c.toNat < 0x20 then .error (.malformed .controlCharacter position)
    else stringFrom start rest (position + 1) (c.toNat :: units)
  | [], _, _ => .error (.malformed .unterminatedString start)

/-- Reads a string after its opening quote. -/
def readString (c : Cursor) : Reading String := stringFrom (c.position - 1) c.rest c.position []

/-! ## Numbers -/

/-- The digits after a decimal point, if the point is followed by a digit. -/
def readFraction (c : Cursor) : Option (List Char) × Cursor :=
  match c.rest with
  | '.' :: d :: _ =>
    if d.isDigit then
      let (digits, after) := (c.skip 1).takeWhile Char.isDigit
      (some digits, after)
    else (none, c)
  | _ => (none, c)

/-- The written exponent, if there is one with digits. -/
def readExponent (c : Cursor) : Option Int × Cursor :=
  match c.rest with
  | e :: _ =>
    if e == 'e' || e == 'E' then
      let (sign, start) :=
        match (c.skip 1).rest with
        | '-' :: _ => ((-1 : Int), c.skip 2)
        | '+' :: _ => (1, c.skip 2)
        | _ => (1, c.skip 1)
      match start.takeWhile Char.isDigit with
      | ([], _) => (none, c)
      | (digits, after) => (some (sign * Decimal.toNat digits), after)
    else (none, c)
  | [] => (none, c)

/-- The digits of the whole part: a zero alone, or digits that start with another one. -/
def readWhole (c : Cursor) : Option (List Char × Cursor) :=
  match c.rest with
  | '0' :: _ => some (['0'], c.skip 1)
  | d :: _ => if d.isDigit then some (c.takeWhile Char.isDigit) else none
  | [] => none

/-- Reads a number; one with a fraction or an exponent is a float. -/
def readNumber (c : Cursor) : Reading Value :=
  let negative := c.rest.head? == some '-'
  match readWhole (if negative then c.skip 1 else c) with
  | none => c.fail .value
  | some (whole, afterWhole) =>
    let (fraction, afterFraction) := readFraction afterWhole
    let (power, after) := readExponent afterFraction
    match fraction, power with
    | none, none =>
      if Decimal.maxDigits < whole.length then .error (.overlong whole.length)
      else
        let n : Int := Decimal.toNat whole
        .ok (.int (if negative then -n else n), after)
    | _, _ =>
      let digits := fraction.getD []
      .ok (.float (.ofDecimal negative (Decimal.toNat (whole ++ digits))
        (power.getD 0 - digits.length)), after)

/-! ## Values -/

/-- The values that are written as words. -/
def words : List (List Char × Value) :=
  [("null".toList, .null), ("true".toList, .bool true), ("false".toList, .bool false),
   ("NaN".toList, .float .nan), ("Infinity".toList, .float (.infinity false)),
   ("-Infinity".toList, .float (.infinity true))]

/-- Reads a value that is neither a string nor a container. -/
def readScalar (c : Cursor) : Reading Value :=
  match words.find? fun (word, _) => word.isPrefixOf c.rest with
  | some (word, v) => .ok (v, c.skip word.length)
  | none => readNumber c

mutual

/-- Reads a value. Every step takes a character, so the length of the text is enough fuel. -/
def readValue : Nat → Cursor → Reading Value
  | 0, c => c.fail .value
  | fuel + 1, c =>
    match c.rest with
    | '"' :: _ => (readString (c.skip 1)).map fun (s, after) => (.str s, after)
    | '[' :: _ =>
      let first := (c.skip 1).skipBlanks
      if first.rest.head? == some ']' then .ok (.list [], first.skip 1)
      else readElements fuel first []
    | '\x7b' :: _ =>
      let first := (c.skip 1).skipBlanks
      if first.rest.head? == some '\x7d' then .ok (.map [], first.skip 1)
      else readMembers fuel first []
    | _ => readScalar c

/-- Reads the elements of an array; `items` are those read so far, last one first. -/
def readElements : Nat → Cursor → List Value → Reading Value
  | 0, c, _ => c.fail .value
  | fuel + 1, c, items =>
    match readValue fuel c with
    | .error fault => .error fault
    | .ok (v, after) =>
      let next := after.skipBlanks
      match next.rest with
      | ']' :: _ => .ok (.list (v :: items).reverse, next.skip 1)
      | ',' :: _ => readElements fuel (next.skip 1).skipBlanks (v :: items)
      | _ => next.fail .comma

/-- Reads the members of an object; `entries` are those read so far. -/
def readMembers : Nat → Cursor → List (Value × Value) → Reading Value
  | 0, c, _ => c.fail .value
  | fuel + 1, c, entries =>
    if c.rest.head? != some '"' then c.fail .propertyName
    else
      match readString (c.skip 1) with
      | .error fault => .error fault
      | .ok (key, afterKey) =>
        let colon := afterKey.skipBlanks
        if colon.rest.head? != some ':' then colon.fail .colon
        else
          match readValue fuel (colon.skip 1).skipBlanks with
          | .error fault => .error fault
          | .ok (v, after) =>
            let entries := Value.setKey key v entries
            let next := after.skipBlanks
            match next.rest with
            | '\x7d' :: _ => .ok (.map entries, next.skip 1)
            | ',' :: _ => readMembers fuel (next.skip 1).skipBlanks entries
            | _ => next.fail .comma

end

/-- The value that a text denotes. -/
def readList (text : List Char) : Except Fault Value :=
  if text.head? == some (Char.ofNat 0xFEFF) then .error (.malformed .byteOrderMark 0)
  else
    match readValue (2 * text.length + 1) (Cursor.mk text 0).skipBlanks with
    | .error fault => .error fault
    | .ok (v, after) =>
      let last := after.skipBlanks
      if last.rest.isEmpty then .ok v else last.fail .extraData

/-- The value that a text denotes. -/
def read (text : String) : Except Fault Value := readList text.toList

/-! ## Laws -/

theorem skip_rest (c : Cursor) (n : Nat) : (c.skip n).rest = c.rest.drop n := rfl

end WireModel.Json
