import WireModel.Text.Utf8

/-!
# Pointers into documents

Tokens of JSON pointers, in which a tilde and a slash are escaped, and the percent-decoding
of the fragments that references are written in.
-/

namespace WireModel.Pointer

/-! ## Tokens -/

/-- How a character is written in a token. -/
def escapeChar (c : Char) : List Char :=
  if c == '~' then ['~', '0'] else if c == '/' then ['~', '1'] else [c]

/-- A key as a pointer token. -/
def escape (s : String) : String := String.ofList (s.toList.flatMap escapeChar)

/-- Replaces a tilde and the given digit by a character. -/
def unescapeOne (digit replacement : Char) : List Char → List Char
  | '~' :: c :: rest =>
    if c == digit then replacement :: unescapeOne digit replacement rest
    else '~' :: unescapeOne digit replacement (c :: rest)
  | c :: rest => c :: unescapeOne digit replacement rest
  | [] => []
  termination_by structural cs => cs

/-- The key that a token stands for: slashes first, then tildes. -/
def unescapeList (cs : List Char) : List Char :=
  unescapeOne '0' '~' (unescapeOne '1' '/' cs)

/-- The key that a token stands for. -/
def unescape (s : String) : String := String.ofList (unescapeList s.toList)

/-! ## Fragments -/

/-- The octets of an ASCII text in which a percent sign and two hexadecimal digits stand for
an octet. -/
def percentOctets : List Char → List UInt8
  | '%' :: a :: b :: rest =>
    match Text.hexValue? a, Text.hexValue? b with
    | some high, some low => UInt8.ofNat (16 * high + low) :: percentOctets rest
    | _, _ => '%'.toUInt8 :: percentOctets (a :: b :: rest)
  | c :: rest => c.toUInt8 :: percentOctets rest
  | [] => []
  termination_by structural cs => cs

/-- Decodes each maximal run of ASCII characters; `run` is the current one, last character
first. Malformed octets become replacement characters. -/
def percentDecodeFrom : List Char → List Char → List Char
  | [], run => Text.Utf8.decodeLossy (percentOctets run.reverse)
  | c :: rest, run =>
    if c.toNat < 0x80 then percentDecodeFrom rest (c :: run)
    else Text.Utf8.decodeLossy (percentOctets run.reverse) ++ c :: percentDecodeFrom rest []

/-- A text with its percent sequences decoded; a text without any is left alone. -/
def percentDecode (cs : List Char) : List Char :=
  if cs.contains '%' then percentDecodeFrom cs [] else cs

/-- The parts of a text between slashes. -/
def splitSlash : List Char → List (List Char)
  | [] => [[]]
  | c :: rest =>
    if c == '/' then [] :: splitSlash rest
    else
      match splitSlash rest with
      | [] => [[c]]
      | part :: parts => (c :: part) :: parts

/-- The keys that the part of a pointer fragment after `#/` stands for. -/
def keys (fragment : List Char) : List String :=
  (splitSlash fragment).map fun part => String.ofList (unescapeList (percentDecode part))

/-! ## Laws -/

theorem splitSlash_ne_nil (cs : List Char) : splitSlash cs ≠ [] := by
  cases cs with
  | nil => simp [splitSlash]
  | cons c rest =>
      unfold splitSlash
      split
      · simp
      · split <;> simp

theorem percentDecode_of_not_mem {cs : List Char} (h : '%' ∉ cs) : percentDecode cs = cs := by
  simp [percentDecode, h]

end WireModel.Pointer
