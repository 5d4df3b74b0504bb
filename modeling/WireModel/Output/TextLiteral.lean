import WireModel.Text.CharacterName
import WireModel.Text.Hex

/-!
# Text literals in generated modules

A text stands between quotes, one or three at either end, after letters that say how it is to be
read: raw text has no escapes, octets are ASCII only, and formatted text has fields with
expressions in braces. Whether a literal can be read is told from its characters alone, the
expressions of its fields apart, which are given back to be read.
-/

namespace WireModel.Output

/-- What the letters in front of a text say. -/
structure Marks where
  raw : Bool
  octets : Bool
  formatted : Bool

/-- The marks of a text; letters that are none of them are a name. -/
def Marks.ofLetters? (letters : List Char) : Option Marks :=
  match letters.map Char.toLower with
  | [] | ['u'] => some ⟨false, false, false⟩
  | ['r'] => some ⟨true, false, false⟩
  | ['b'] => some ⟨false, true, false⟩
  | ['f'] => some ⟨false, false, true⟩
  | ['b', 'r'] | ['r', 'b'] => some ⟨true, true, false⟩
  | ['f', 'r'] | ['r', 'f'] => some ⟨true, false, true⟩
  | _ => none

/-- A text: its marks, and the characters between its quotes. -/
structure TextLiteral where
  marks : Marks
  body : List Char

namespace TextLiteral

/-! ## Quotes -/

/-- Takes the characters up to the closing quotes. A backslash keeps the character after it from
closing the text, in raw text too. `taken` holds the characters so far, last one first. -/
def takeBody (quote : Char) (long : Bool) :
    List Char → List Char → Option (List Char × List Char)
  | [], _ => none
  | '\\' :: c :: rest, taken => takeBody quote long rest (c :: '\\' :: taken)
  | c :: d :: e :: rest, taken =>
    if c == quote then
      if !long then some (taken.reverse, d :: e :: rest)
      else if d == quote && e == quote then some (taken.reverse, rest)
      else takeBody quote long (d :: e :: rest) (c :: taken)
    else if c == '\n' && !long then none
    else takeBody quote long (d :: e :: rest) (c :: taken)
  | c :: rest, taken =>
    if c == quote && !long then some (taken.reverse, rest)
    else if c == '\n' && !long then none
    else takeBody quote long rest (c :: taken)

/-- Takes a text that starts with its quotes. -/
def take? (marks : Marks) : List Char → Option (TextLiteral × List Char)
  | [] => none
  | quote :: rest => do
    let long := rest.take 2 == [quote, quote]
    let (body, after) ← takeBody quote long (if long then rest.drop 2 else rest) []
    return (⟨marks, body⟩, after)

/-! ## Escapes -/

/-- Whether so many hexadecimal digits stand here, and their number is one of a character. -/
def hasHex (width : Nat) (cs : List Char) : Bool :=
  let digits := cs.take width
  digits.length == width && (Text.hexNumber? digits).any (· ≤ 0x10FFFF)

/-- Whether the name of a character stands here in braces. -/
def hasName : List Char → Bool
  | '\x7b' :: rest =>
    let name := rest.takeWhile (· != '\x7d')
    name.length < rest.length && Text.isCharacterName name
  | _ => false

/-- Whether a backslash may be followed by these characters. One that stands for itself always
may. -/
def isEscape (octets : Bool) (cs : List Char) : Bool :=
  match cs with
  | 'x' :: rest => hasHex 2 rest
  | 'u' :: rest => octets || hasHex 4 rest
  | 'U' :: rest => octets || hasHex 8 rest
  | 'N' :: rest => octets || hasName rest
  | _ => true

/-- Whether all escapes of a text are sound. -/
def areEscapes (octets : Bool) : List Char → Bool
  | '\\' :: c :: rest => isEscape octets (c :: rest) && areEscapes octets rest
  | _ :: rest => areEscapes octets rest
  | [] => true

/-! ## Fields -/

/-- Takes the characters up to a field or to the end of a format, and tells whether they end with
a brace that is written twice. Braces are written twice outside of formats only. `named` tells
whether the characters are in the braces of a character name. -/
def takePlain (raw inFormat : Bool) :
    Bool → List Char → List Char → Option (List Char × Bool × List Char)
  | _, [], taken => some (taken.reverse, false, [])
  | true, c :: rest, taken => takePlain raw inFormat (c != '\x7d') rest (c :: taken)
  | false, '\\' :: 'N' :: '\x7b' :: rest, taken =>
    if raw then brace ['N', '\\'] '\x7b' rest taken
    else takePlain raw inFormat true rest ('\x7b' :: 'N' :: '\\' :: taken)
  | false, '\\' :: c :: rest, taken =>
    if c == '\x7b' || c == '\x7d' then brace ['\\'] c rest taken
    else if raw then takePlain raw inFormat false (c :: rest) ('\\' :: taken)
    else takePlain raw inFormat false rest (c :: '\\' :: taken)
  | false, c :: rest, taken =>
    if c == '\x7b' || c == '\x7d' then brace [] c rest taken
    else takePlain raw inFormat false rest (c :: taken)
where
  /-- A brace after characters that belong to the plain ones. -/
  brace (before : List Char) (c : Char) (rest taken : List Char) :
      Option (List Char × Bool × List Char) :=
    let plain := before ++ taken
    if !inFormat && rest.head? == some c then
      some ((c :: plain).reverse, true, rest.drop 1)
    else if !inFormat && c == '\x7d' then none
    else some (plain.reverse, false, c :: rest)

/-- The bracket that closes another one. -/
def closing? : Char → Option Char
  | '(' => some ')'
  | '[' => some ']'
  | '\x7b' => some '\x7d'
  | _ => none

/-- Signs that end an expression, unless an equals sign follows that makes an operator of them. -/
def endsExpression (c : Char) (rest : List Char) : Bool :=
  c == '\x7d' || c == ':' || ((c == '!' || c == '=') && rest.head? != some '=')

/-- Takes the expression of a field. In it there is no backslash, and no number sign outside of
texts. `quotes` is the open quote, and whether there are three of it; `brackets` holds the
brackets that are missing. -/
def takeExpression : Option (Char × Bool) → List Char → List Char → List Char →
    Option (List Char × List Char)
  | _, _, [], _ => none
  | some (quote, long), brackets, c :: rest, taken =>
    if c == '\\' then none
    else if c != quote then takeExpression (some (quote, long)) brackets rest (c :: taken)
    else if !long then takeExpression none brackets rest (c :: taken)
    else
      match rest with
      | d :: e :: more =>
        if d == quote && e == quote then takeExpression none brackets more (e :: d :: c :: taken)
        else takeExpression (some (quote, long)) brackets (d :: e :: more) (c :: taken)
      | _ => none
  | none, brackets, c :: rest, taken =>
    if c == '\\' || c == '#' then none
    else if c == '\'' || c == '"' then
      match rest with
      | d :: e :: more =>
        if d == c && e == c then
          takeExpression (some (c, true)) brackets more (e :: d :: c :: taken)
        else takeExpression (some (c, false)) brackets (d :: e :: more) (c :: taken)
      | _ => none
    else
      match closing? c, brackets with
      | some close, _ => takeExpression none (close :: brackets) rest (c :: taken)
      | none, [] =>
        if endsExpression c rest then some (taken.reverse, c :: rest)
        else if c == ')' || c == ']' then none
        else if ['=', '!', '<', '>'].contains c && rest.head? == some '=' then
          takeExpression none [] (rest.drop 1) ('=' :: c :: taken)
        else takeExpression none [] rest (c :: taken)
      | none, close :: outer =>
        if c == close then takeExpression none outer rest (c :: taken)
        else if c == ')' || c == ']' || c == '\x7d' then none
        else takeExpression none brackets rest (c :: taken)
  termination_by _ _ cs => cs.length
  decreasing_by all_goals simp_all; try omega

/-- Blanks that may stand around an expression. -/
def isSpace (c : Char) : Bool := c == ' ' || c == '\t' || c == '\n' || c.toNat == 12

/-- What follows the expression of a field, up to its format: an equals sign that shows the
expression too, and the mark of a conversion. -/
def takeConversion (cs : List Char) : Option (List Char) :=
  let shown :=
    match cs with
    | '=' :: rest => rest.dropWhile fun c => isSpace c || c.toNat == 11
    | _ => cs
  match shown with
  | '!' :: mark :: rest => if mark == 's' || mark == 'r' || mark == 'a' then some rest else none
  | '!' :: [] => none
  | _ => some shown

/-- How deep fields may be nested in formats. -/
def maxNesting : Nat := 2

/-- The expressions of formatted characters, and the characters after them: none for a whole text,
and the brace that closes its field for a format. `depth` tells how many formats the characters
are in. A step takes at least one character. -/
def takeFields (raw : Bool) : Nat → Nat → List Char → Option (List (List Char) × List Char)
  | 0, _, _ => none
  | fuel + 1, depth, cs => do
    let (plain, twice, rest) ← takePlain raw (depth != 0) false cs []
    if !raw && !areEscapes false plain then none
    else if twice then takeFields raw fuel depth rest
    else
      match rest with
      | '\x7b' :: field =>
        if maxNesting ≤ depth then none
        else
          let (expression, after) ← takeExpression none [] field []
          if expression.all isSpace then none
          else
            let after ← takeConversion after
            let (nested, after) ←
              match after with
              | ':' :: format => takeFields raw fuel (depth + 1) format
              | _ => some ([], after)
            match after with
            | '\x7d' :: rest =>
              let (more, rest) ← takeFields raw fuel depth rest
              return (expression :: (nested ++ more), rest)
            | _ => none
      | _ => some ([], rest)

/-- The expressions in a text; nothing if it cannot be read. -/
def expressions? (literal : TextLiteral) : Option (List (List Char)) :=
  let ⟨marks, body⟩ := literal
  if marks.formatted then (takeFields marks.raw (body.length + 1) 0 body).map (·.1)
  else if marks.octets && body.any (fun c => 0x80 ≤ c.toNat) then none
  else if marks.raw || areEscapes marks.octets body then some []
  else none

end TextLiteral
end WireModel.Output
