import WireModel.Proofs.Decimal.Shortest
import WireModel.Proofs.Emit.Hinges
import WireModel.Proofs.Emit.Pieces
import WireModel.Proofs.Text.Utf8

/-!
# What literals denote

Literals are read again by the rules of the language of the module. An escape of four digits is one
code point in it, also if that is a surrogate, so a character that is written as a pair of them
comes back as two.

* **`readText_flatMap`**: an escaped text is read as the code units of its characters.
* **`reads_literal`**: the literal of a JSON value is read as the value with its texts in code units.
* **`literals_denote_iff`**: so it denotes the value exactly if no character of its texts and keys
  needs two of them.
-/

namespace WireModel.Emit

/-! ## Reading texts -/

/-- The code point that an escape of one letter stands for. -/
def escapedPoint? (e : Char) : Option Nat :=
  if e == '\\' || e == '"' || e.toNat == 39 then some e.toNat
  else
    match e with
    | 'a' => some 7
    | 'b' => some 8
    | 't' => some 9
    | 'n' => some 10
    | 'v' => some 11
    | 'f' => some 12
    | 'r' => some 13
    | _ => none

/-- How many hexadecimal digits follow the letter of an escape. -/
def escapeWidth? : Char → Option Nat
  | 'x' => some 2
  | 'u' => some 4
  | 'U' => some 8
  | _ => none

/-- Reads the code point that so many hexadecimal digits denote. -/
def readHex (width : Nat) (cs : List Char) : Option (Nat × List Char) :=
  if cs.length < width then none
  else
    match Text.hexNumber? (cs.take width) with
    | some n => if n < 0x110000 then some (n, cs.drop width) else none
    | none => none

/-- Reads one code point of a text. Escapes in octal and by name are left out. -/
def readPoint : List Char → Option (Nat × List Char)
  | '\\' :: e :: rest =>
    match escapeWidth? e with
    | some width => readHex width rest
    | none => (escapedPoint? e).map fun point => (point, rest)
  | c :: rest => if c == '\\' || c == '\n' || c == '\r' then none else some (c.toNat, rest)
  | [] => none

/-- Reads a text up to its closing quote; every step takes a character. -/
def readText : Nat → List Char → Option (List Nat × List Char)
  | 0, _ => none
  | fuel + 1, cs =>
    if cs.head? == some '"' then some ([], cs.tail)
    else
      (readPoint cs).bind fun (point, rest) =>
        (readText fuel rest).map fun (points, after) => (point :: points, after)

/-! ## Reading literals -/

/-- What a literal denotes. A text is a list of code points, among which surrogates may be. -/
inductive Datum where
  | null
  | bool (b : Bool)
  | int (n : Int)
  | float (x : Decimal.Binary64)
  | text (points : List Nat)
  | list (items : List Datum)
  | tuple (items : List Datum)
  | map (entries : List (List Nat × Datum))

/-- Whether digits are an integer: there are not too many of them, and only zero starts with a
zero. -/
def isInteger (digits : List Char) : Bool :=
  digits.length ≤ Decimal.maxDigits && (digits.head? != some '0' || digits.all (· == '0'))

/-- The number that a word without its sign denotes. -/
def number? (negative : Bool) (word : List Char) : Option Datum :=
  match Decimal.digits? word with
  | some digits =>
    if isInteger digits then
      some (.int (if negative then -(Decimal.toNat digits : Int) else Decimal.toNat digits))
    else none
  | none => (Decimal.magnitude? negative word).map .float

/-- What a word denotes: a constant or a number. -/
def word? (word : List Char) : Option Datum :=
  if word = "None".toList then some .null
  else if word = "True".toList then some (.bool true)
  else if word = "False".toList then some (.bool false)
  else if word.head? == some '-' then number? true word.tail
  else number? false word

/-- The characters of words. -/
def isWordChar (c : Char) : Bool := c.isAlphanum || c == '_' || c == '.' || c == '+' || c == '-'

def skipBlanks (cs : List Char) : List Char := cs.dropWhile (· == ' ')

/-- Reads parts with commas between them, up to a bracket. The flag says whether there is a comma. -/
def readSeries (one : List Char → Option (α × List Char)) (close : Char) :
    Nat → List Char → Option (List α × Bool × List Char)
  | 0, _ => none
  | fuel + 1, cs =>
    if (skipBlanks cs).head? == some close then some ([], false, (skipBlanks cs).tail)
    else
      (one (skipBlanks cs)).bind fun (a, rest) =>
        if (skipBlanks rest).head? == some ',' then
          (readSeries one close fuel (skipBlanks rest).tail).map
            fun (others, _, after) => (a :: others, true, after)
        else if (skipBlanks rest).head? == some close then
          some ([a], false, (skipBlanks rest).tail)
        else none

/-- Reads a text key, a colon and what is under the key. -/
def readEntry (one : List Char → Option (Datum × List Char)) (cs : List Char) :
    Option ((List Nat × Datum) × List Char) :=
  match one cs with
  | some (.text key, rest) =>
    if (skipBlanks rest).head? == some ':' then
      (one (skipBlanks (skipBlanks rest).tail)).map fun (d, after) => ((key, d), after)
    else none
  | _ => none

/-- Parentheses make a tuple, but for those around one part without a comma. -/
def parenthesized : List Datum → Bool → Datum
  | [d], false => d
  | items, _ => .tuple items

/-- Sets what is under a key: in its place if the key is there, otherwise at the end. -/
def setEntry (entry : List Nat × Datum) : List (List Nat × Datum) → List (List Nat × Datum)
  | [] => [entry]
  | other :: rest => if other.1 = entry.1 then entry :: rest else other :: setEntry entry rest

/-- The entries of a mapping; of those with one key the last one stands. -/
def collect (entries : List (List Nat × Datum)) : List (List Nat × Datum) :=
  entries.foldl (fun found entry => setEntry entry found) []

/-- Reads a literal; the length of the text is enough fuel. -/
def readDatum : Nat → List Char → Option (Datum × List Char)
  | 0, _ => none
  | fuel + 1, cs =>
    match cs with
    | '"' :: rest => (readText fuel rest).map fun (points, after) => (.text points, after)
    | '[' :: rest =>
      (readSeries (readDatum fuel) ']' fuel rest).map fun (items, _, after) => (.list items, after)
    | '(' :: rest =>
      (readSeries (readDatum fuel) ')' fuel rest).map
        fun (items, comma, after) => (parenthesized items comma, after)
    | '\x7b' :: rest =>
      (readSeries (readEntry (readDatum fuel)) '\x7d' fuel rest).map
        fun (entries, _, after) => (.map (collect entries), after)
    | _ => (word? (cs.takeWhile isWordChar)).map fun d => (d, cs.dropWhile isWordChar)

/-- What a text denotes that is a literal. -/
def readLiteral (text : String) : Option Datum :=
  match readDatum (text.length + 1) text.toList with
  | some (d, []) => some d
  | _ => none

/-! ## Values as data -/

/-- A character as one code point. -/
def codePoints (c : Char) : List Nat := [c.toNat]

/-- A character in code units: one, or two surrogates. -/
def codeUnits (c : Char) : List Nat :=
  if c.toNat < 0x10000 then [c.toNat]
  else [0xD800 + (c.toNat - 0x10000) / 0x400, 0xDC00 + (c.toNat - 0x10000) % 0x400]

mutual

/-- A value as a datum, its texts spelt in some way. What is no value of JSON stands for nothing. -/
def datumOf (spell : Char → List Nat) : Value → Datum
  | .bool b => .bool b
  | .int n => .int n
  | .float x => .float x
  | .str s => .text (s.toList.flatMap spell)
  | .list items => .list (dataOf spell items)
  | .tuple items => .tuple (dataOf spell items)
  | .map entries => .map (entryData spell entries)
  | .null | .unset | .record .. | .knot _ => .null

def dataOf (spell : Char → List Nat) : List Value → List Datum
  | [] => []
  | v :: rest => datumOf spell v :: dataOf spell rest

def entryData (spell : Char → List Nat) :
    List (Value × Value) → List (List Nat × Datum)
  | [] => []
  | (k, v) :: rest =>
    (k.keyText.toList.flatMap spell, datumOf spell v) :: entryData spell rest

end

theorem dataOf_eq_map (spell : Char → List Nat) (items : List Value) :
    dataOf spell items = items.map (datumOf spell) := by
  induction items with
  | nil => rfl
  | cons v rest ih => rw [dataOf, ih, List.map_cons]

/-- An entry as a datum. -/
def entryDatum (spell : Char → List Nat) (entry : Value × Value) : List Nat × Datum :=
  (entry.1.keyText.toList.flatMap spell, datumOf spell entry.2)

theorem entryData_eq_map (spell : Char → List Nat) (entries : List (Value × Value)) :
    entryData spell entries = entries.map (entryDatum spell) := by
  induction entries with
  | nil => rfl
  | cons entry rest ih =>
    rw [entryData, ih, List.map_cons]
    rfl

/-! ## Code units -/

/-- The code units of a text say which text it is: no character is a surrogate. -/
theorem flatMap_codeUnits_injective : ∀ {cs ds : List Char},
    cs.flatMap codeUnits = ds.flatMap codeUnits → cs = ds
  | [], [], _ => rfl
  | [], d :: ds, same => by
    rw [List.flatMap_cons, codeUnits] at same
    split at same <;> cases same
  | c :: cs, [], same => by
    rw [List.flatMap_cons, codeUnits] at same
    split at same <;> cases same
  | c :: cs, d :: ds, same => by
    have first := Text.Utf8.isScalar c
    have second := Text.Utf8.isScalar d
    obtain ⟨here, there⟩ : c.toNat = d.toNat ∧ cs.flatMap codeUnits = ds.flatMap codeUnits := by
      simp only [List.flatMap_cons, codeUnits] at same
      -- one unit and a pair differ at once: the first half of a pair is no character
      split at same <;> split at same <;>
        simp only [List.cons_append, List.nil_append, List.cons.injEq] at same
      · exact same
      · omega
      · omega
      · exact ⟨by omega, same.2.2⟩
    rw [Char.toNat_inj.mp here, flatMap_codeUnits_injective there]

/-- Code units are the code points if no character needs two of them. -/
theorem flatMap_codeUnits_eq_iff {cs : List Char} :
    cs.flatMap codeUnits = cs.flatMap codePoints ↔ ∀ c ∈ cs, c.toNat < 0x10000 := by
  induction cs with
  | nil => simp
  | cons c cs ih =>
    rw [List.forall_mem_cons, ← ih, List.flatMap_cons, List.flatMap_cons, codeUnits, codePoints]
    split
    · rename_i one
      simp [one]
    · rename_i two
      have range := Text.Utf8.isScalar c
      simp only [List.cons_append, List.cons.injEq, two, false_and, iff_false, not_and]
      omega

/-! ## Hexadecimal digits -/

theorem hexNumber?_hex (width n : Nat) :
    Text.hexNumber? (Text.hex width n) = some (n % 16 ^ width) := by
  have digit : ∀ d < 16, Text.hexValue? (Text.hexDigit d) = some d := by decide
  induction width generalizing n with
  | zero => rw [Nat.pow_zero, Nat.mod_one]; rfl
  | succ width ih =>
    have parts := ih (n / 16)
    rw [Text.hexNumber?] at parts ⊢
    rw [Text.hex, List.foldl_append, parts, List.foldl_cons, List.foldl_nil, Option.bind_some,
      digit _ (Nat.mod_lt _ (by omega)), Option.map_some, Nat.pow_succ', Nat.mod_mul]
    congr 1
    omega

theorem readHex_hex {width n : Nat} {rest : List Char} (small : n < 16 ^ width)
    (range : n < 0x110000) : readHex width (Text.hex width n ++ rest) = some (n, rest) := by
  have length := Text.length_hex width n
  rw [readHex, List.length_append, length, if_neg (by omega), List.take_left' length,
    List.drop_left' length, hexNumber?_hex, Nat.mod_eq_of_lt small]
  exact if_pos range

/-! ## Texts -/

/-- Characters that are read as one code point, whatever follows them. -/
structure IsPoint (point : Nat) (cs : List Char) : Prop where
  reads : ∀ rest, readPoint (cs ++ rest) = some (point, rest)
  inside : ∀ rest, (cs ++ rest).head? ≠ some '"'

namespace IsPoint

/-- A backslash and a letter that stands for a character. -/
theorem pair {c e : Char} {point : Nat} (same : c.toNat = point) (letter : escapeWidth? e = none)
    (escaped : escapedPoint? e = some point) : IsPoint c.toNat ['\\', e] where
  reads rest := by
    rw [List.cons_append, List.singleton_append, readPoint, letter, escaped, same]
    rfl
  inside _ := by
    rw [List.cons_append, List.head?_cons]
    decide

theorem unicode {n : Nat} (small : n < 0x10000) : IsPoint n ('\\' :: 'u' :: Text.hex 4 n) where
  reads _ := readHex_hex small (by omega)
  inside _ := by
    rw [List.cons_append, List.head?_cons]
    decide

theorem plain {c : Char} (quote : c ≠ '"') (backslash : c ≠ '\\') (newline : c ≠ '\n')
    (feed : c ≠ '\r') : IsPoint c.toNat [c] where
  reads rest := by
    rw [List.singleton_append, readPoint]
    · simp [backslash, newline, feed]
    · rintro _ _ same
      exact absurd same backslash
  inside rest := by simpa using quote

theorem ne_nil {point : Nat} {cs : List Char} (h : IsPoint point cs) : cs ≠ [] := by
  rintro rfl
  cases h.reads []

/-- What follows a code point is read as if it stood alone. -/
theorem readText_append {point : Nat} {cs : List Char} (h : IsPoint point cs) (fuel : Nat)
    (rest : List Char) : readText (fuel + 1) (cs ++ rest) =
      (readText fuel rest).map fun read => (point :: read.1, read.2) := by
  rw [readText, if_neg (by simpa using h.inside rest), h.reads]
  rfl

/-- A character that is no pair is written as one code point. -/
theorem escapeChar {c : Char} (small : c.toNat < 0x10000) :
    IsPoint c.toNat (Json.escapeChar c) := by
  have point {d : Char} (same : (c == d) = true) : c.toNat = d.toNat :=
    congrArg Char.toNat (beq_iff_eq.mp same)
  -- the cases are those of the writer, in its order
  unfold Json.escapeChar Json.unicodeEscape
  split
  · exact pair (point ‹_›) rfl rfl
  rename_i quote
  split
  · exact pair (point ‹_›) rfl rfl
  rename_i backslash
  split
  · exact pair (point ‹_›) rfl rfl
  rename_i newline
  split
  · exact pair (point ‹_›) rfl rfl
  rename_i feed
  split
  · exact pair (point ‹_›) rfl rfl
  split
  · exact pair (beq_iff_eq.mp ‹_›) rfl rfl
  split
  · exact pair (beq_iff_eq.mp ‹_›) rfl rfl
  split
  · exact plain (by simpa using quote) (by simpa using backslash) (by simpa using newline)
      (by simpa using feed)
  · exact unicode small

end IsPoint

/-- A character that is a pair is written as two escapes. -/
theorem escapeChar_of_pair {c : Char} (two : ¬c.toNat < 0x10000) :
    Json.escapeChar c =
      ('\\' :: 'u' :: Text.hex 4 (0xD800 + (c.toNat - 0x10000) / 0x400)) ++
        ('\\' :: 'u' :: Text.hex 4 (0xDC00 + (c.toNat - 0x10000) % 0x400)) := by
  have other {d : Char} (small : d.toNat < 0x10000) : (c == d) = false := by
    rw [beq_eq_false_iff_ne]
    rintro rfl
    exact two small
  have above {n : Nat} (small : n < 0x10000) : (c.toNat == n) = false := by
    rw [beq_eq_false_iff_ne]
    omega
  have ascii : (decide (0x20 ≤ c.toNat) && decide (c.toNat < 0x7F)) = false := by
    rw [decide_eq_false (show ¬c.toNat < 0x7F by omega), Bool.and_false]
  rw [Json.escapeChar, other (by decide), other (by decide), other (by decide),
    other (by decide), other (by decide), above (by decide), above (by decide), ascii,
    Json.unicodeEscape, if_neg two]
  rfl

/-- **An escaped character** is read as its code units. -/
theorem readText_escapeChar (c : Char) (fuel : Nat) (rest : List Char) :
    readText (fuel + (codeUnits c).length) (Json.escapeChar c ++ rest) =
      (readText fuel rest).map fun read => (codeUnits c ++ read.1, read.2) := by
  rw [codeUnits]
  split
  · rename_i small
    exact (IsPoint.escapeChar small).readText_append fuel rest
  · rename_i two
    have range := Text.Utf8.isScalar c
    have high : 0xD800 + (c.toNat - 0x10000) / 0x400 < 0x10000 := by omega
    have low : 0xDC00 + (c.toNat - 0x10000) % 0x400 < 0x10000 := by omega
    -- each half of the pair takes one step of the reader
    rw [escapeChar_of_pair two, List.append_assoc]
    refine ((IsPoint.unicode high).readText_append (fuel + 1) _).trans ?_
    rw [(IsPoint.unicode low).readText_append fuel rest, Option.map_map]
    rfl

/-- **What is escaped is read** as its code units, up to the closing quote. -/
theorem readText_flatMap (rest : List Char) : ∀ {cs : List Char} {fuel : Nat},
    (cs.flatMap codeUnits).length < fuel →
      readText fuel (cs.flatMap Json.escapeChar ++ '"' :: rest) = some (cs.flatMap codeUnits, rest)
  | [], fuel + 1, _ => rfl
  | c :: cs, fuel, enough => by
    rw [List.flatMap_cons, List.length_append] at enough
    obtain ⟨more, rfl⟩ := Nat.exists_eq_add_of_le' (show (codeUnits c).length ≤ fuel by omega)
    rw [List.flatMap_cons, List.append_assoc, readText_escapeChar,
      readText_flatMap rest (show (cs.flatMap codeUnits).length < more by omega)]
    rfl

/-- There are no more code units than characters in an escape. -/
theorem length_codeUnits_le (cs : List Char) :
    (cs.flatMap codeUnits).length ≤ (cs.flatMap Json.escapeChar).length := by
  rw [List.length_flatMap, List.length_flatMap]
  refine List.sum_le_sum fun c _ => ?_
  rw [codeUnits]
  split
  · rename_i small
    exact List.length_pos_iff.mpr (IsPoint.escapeChar small).ne_nil
  · rename_i two
    simp [escapeChar_of_pair two]

/-! ## Words -/

/-- What follows a word is none of its characters. -/
def EndsWord (rest : List Char) : Prop := rest.head?.all (!isWordChar ·) = true

theorem EndsWord.cons {c : Char} {rest : List Char} (h : isWordChar c = false) :
    EndsWord (c :: rest) := by
  rw [EndsWord, List.head?_cons, Option.all_some, h]
  rfl

/-- A word is read as a whole. -/
theorem takeWhile_isWordChar {word rest : List Char} (all : ∀ c ∈ word, isWordChar c = true)
    (stop : EndsWord rest) : (word ++ rest).takeWhile isWordChar = word ∧
      (word ++ rest).dropWhile isWordChar = rest := by
  rw [List.takeWhile_append_of_pos all, List.dropWhile_append_of_pos all]
  cases rest with
  | nil => exact ⟨List.append_nil _, rfl⟩
  | cons c rest =>
    have other : isWordChar c = false := by simpa [EndsWord] using stop
    rw [List.takeWhile_cons_of_neg (by simp [other]), List.dropWhile_cons_of_neg (by simp [other])]
    exact ⟨List.append_nil _, rfl⟩

/-- A number is no constant. -/
theorem word?_signed {negative : Bool} {word : List Char}
    (starts : word.head?.any Char.isDigit = true) :
    word? ((if negative then ['-'] else []) ++ word) = number? negative word := by
  cases word with
  | nil => cases starts
  | cons d rest =>
    have digit : d.isDigit = true := starts
    have other {c : Char} (letter : c.isDigit = false) : d ≠ c := by
      rintro rfl
      cases digit.symm.trans letter
    cases negative with
    | true => rfl
    | false =>
      -- neither a constant nor a sign starts with a digit
      simp [word?, other]

/-- The digits of an integer are read as it. -/
theorem number?_natDigits {negative : Bool} {n : Nat} (short : n < Decimal.tooLong) :
    number? negative (Decimal.natDigits n) = some (.int (if negative then -(n : Int) else n)) := by
  have few : (Decimal.natDigits n).length ≤ Decimal.maxDigits :=
    Decimal.length_natDigits_le (by decide) short
  have integer : isInteger (Decimal.natDigits n) = true := by
    rw [isInteger, decide_eq_true few, Bool.true_and, Bool.or_eq_true]
    by_cases zero : n = 0
    · rw [zero]
      exact .inr rfl
    · exact .inl (bne_iff_ne.mpr (Decimal.head?_natDigits_ne zero))
  rw [number?, Decimal.digits?_eq (Decimal.natDigits_ne_nil n) (Decimal.isDigit_natDigits n)]
  dsimp only
  rw [if_pos integer, Decimal.toNat_natDigits]

theorem number?_magnitude {x : Decimal.Binary64} (style : Decimal.Style)
    (finite : x.isFinite = true) : number? x.negative (style.magnitude x) = some (.float x) := by
  rw [number?, Decimal.digits?_magnitude style finite,
    Decimal.magnitude?_magnitude style finite]
  rfl

/-! ## Parts -/

/-- The brackets behind parts. -/
def closers : List Char := [']', ')', '\x7d']

/-- Whether a part may start with a character. -/
def startsPart (c : Char) : Bool := c != ' ' && !closers.contains c

/-- A text is read as something, if there is more fuel than characters and it does not go on. -/
structure Reads {α : Type} (one : Nat → List Char → Option (α × List Char)) (s : String) (a : α) :
    Prop where
  starts : s.toList.head?.any startsPart = true
  reads : ∀ {fuel rest}, s.length < fuel → EndsWord rest →
    one fuel (s.toList ++ rest) = some (a, rest)

theorem reads_word {s : String} {d : Datum} (some : s.toList ≠ [])
    (all : s.toList.all isWordChar = true) (word : word? s.toList = Option.some d) :
    Reads readDatum s d := by
  rw [List.all_eq_true] at all
  obtain ⟨first, others, same⟩ := List.exists_cons_of_ne_nil some
  have letter : isWordChar first = true := all first (same ▸ List.mem_cons_self)
  have other {c : Char} (stop : isWordChar c = false) : first ≠ c := by
    rintro rfl
    cases letter.symm.trans stop
  constructor
  · have plain : first ≠ ' ' ∧ first ≠ ']' ∧ first ≠ ')' ∧ first ≠ '\x7d' :=
      ⟨other rfl, other rfl, other rfl, other rfl⟩
    rw [same, List.head?_cons, Option.any_some, startsPart]
    simpa [closers] using plain
  · intro fuel rest enough stop
    obtain ⟨fuel, rfl⟩ := Nat.exists_eq_add_of_lt enough
    obtain ⟨whole, behind⟩ := takeWhile_isWordChar all stop
    -- so the reader takes neither of its other branches
    have next {c : Char} (stop : isWordChar c = false) (rest' : List Char) :
        s.toList ++ rest = c :: rest' → False := by
      rw [same, List.cons_append]
      exact fun eq => other stop (List.cons.inj eq).1
    rw [readDatum]
    · rw [whole, behind, word]
      rfl
    all_goals exact next rfl

theorem reads_quote (s : String) :
    Reads readDatum (Json.quote s) (.text (s.toList.flatMap codeUnits)) where
  starts := by
    rw [Json.quote, String.toList_ofList]
    rfl
  reads {fuel rest} enough _ := by
    rw [Json.quote, String.length_ofList, Json.quoteList, List.length_append,
      List.length_cons] at enough
    obtain ⟨fuel, rfl⟩ := Nat.exists_eq_add_of_lt enough
    -- the fuel is measured in characters of the escaped text, the reader takes one for each unit
    have units := length_codeUnits_le s.toList
    have text : (Json.quote s).toList ++ rest =
        '"' :: (s.toList.flatMap Json.escapeChar ++ '"' :: rest) := by
      rw [Json.quote, String.toList_ofList, Json.quoteList, List.append_assoc, List.cons_append,
        List.singleton_append]
    rw [text, readDatum, readText_flatMap rest (by omega)]
    rfl

section Series

variable {α : Type} {one : Nat → List Char → Option (α × List Char)} {close : Char}

/-- What starts a part is neither blank nor a bracket behind parts. -/
theorem skipBlanks_part {s : String} (starts : s.toList.head?.any startsPart = true)
    (bracket : close ∈ closers) (rest : List Char) :
    skipBlanks (s.toList ++ rest) = s.toList ++ rest ∧
      (s.toList ++ rest).head? ≠ some close := by
  cases same : s.toList with
  | nil =>
    rw [same] at starts
    cases starts
  | cons c others =>
    rw [same, List.head?_cons, Option.any_some, startsPart, Bool.and_eq_true, bne_iff_ne,
      Bool.not_eq_true', ← Bool.not_eq_true, List.contains_iff_mem] at starts
    obtain ⟨blank, plain⟩ := starts
    constructor
    · rw [skipBlanks, List.cons_append, List.dropWhile_cons_of_neg (by simpa using blank)]
    · rw [List.cons_append, List.head?_cons]
      rintro ⟨⟩
      exact plain bracket

/-- The brackets behind parts are read as such. -/
theorem closers_spec (bracket : close ∈ closers) :
    close ≠ ' ' ∧ close ≠ ',' ∧ isWordChar close = false := by
  have all : closers.all (fun c => c != ' ' && c != ',' && !isWordChar c) = true := by decide
  have here := List.all_eq_true.mp all close bracket
  simpa [and_assoc] using here

theorem skipBlanks_cons {c : Char} (other : c ≠ ' ') (rest : List Char) :
    skipBlanks (c :: rest) = c :: rest := by
  rw [skipBlanks, List.dropWhile_cons_of_neg (by simpa using other)]

/-- A blank in front of parts makes no difference. -/
theorem readSeries_blank (fuel n : Nat) (cs : List Char) :
    readSeries (one fuel) close n (' ' :: cs) = readSeries (one fuel) close n cs := by
  have skipped : skipBlanks (' ' :: cs) = skipBlanks cs := rfl
  cases n with
  | zero => rfl
  | succ n => rw [readSeries, readSeries, skipped]

/-- A part and a comma. -/
theorem readSeries_comma {s : String} {a : α} (h : Reads one s a) (bracket : close ∈ closers)
    {fuel n : Nat} (enough : s.length < fuel) (rest : List Char) :
    readSeries (one fuel) close (n + 1) (s.toList ++ ',' :: rest) =
      (readSeries (one fuel) close n rest).map
        fun (others, _, after) => (a :: others, true, after) := by
  obtain ⟨skipped, more⟩ := skipBlanks_part h.starts bracket (',' :: rest)
  rw [readSeries, skipped, if_neg (by simpa using more), h.reads enough (.cons rfl),
    Option.bind_some]
  rfl

/-- A part and a bracket. -/
theorem readSeries_last {s : String} {a : α} (h : Reads one s a) (bracket : close ∈ closers)
    {fuel n : Nat} (enough : s.length < fuel) (rest : List Char) :
    readSeries (one fuel) close (n + 1) (s.toList ++ close :: rest) = some ([a], false, rest) := by
  obtain ⟨skipped, more⟩ := skipBlanks_part h.starts bracket (close :: rest)
  obtain ⟨blank, comma, word⟩ := closers_spec bracket
  rw [readSeries, skipped, if_neg (by simpa using more), h.reads enough (.cons word),
    Option.bind_some]
  simp [skipBlanks_cons blank, comma]

/-- **Parts with commas between them** are read one after another. -/
theorem readSeries_commaSeparated (bracket : close ∈ closers) (rest : List Char) :
    ∀ {parts : List String} {as : List α}, List.Forall₂ (Reads one) parts as →
      ∀ {fuel n : Nat}, (∀ part ∈ parts, part.length < fuel) → parts.length < n →
        readSeries (one fuel) close n ((commaSeparated parts).toList ++ close :: rest) =
          some (as, decide (1 < as.length), rest)
  | [], _, .nil, fuel, n + 1, _, _ => by
    obtain ⟨blank, -, -⟩ := closers_spec bracket
    have none : (commaSeparated []).toList ++ close :: rest = close :: rest := rfl
    rw [none, readSeries, skipBlanks_cons blank, List.head?_cons, if_pos (beq_self_eq_true _)]
    rfl
  | [part], [a], .cons here .nil, fuel, n + 1, enough, _ => by
    have alone : commaSeparated [part] = part := String.intercalate_singleton ..
    rw [alone, readSeries_last here bracket (enough part List.mem_cons_self)]
    rfl
  | part :: next :: parts, a :: b :: as, .cons here others, fuel, n + 1, enough, count => by
    -- the blank behind the comma is skipped by what reads the other parts
    have text : (commaSeparated (part :: next :: parts)).toList ++ close :: rest =
        part.toList ++ ',' :: ' ' :: ((commaSeparated (next :: parts)).toList ++ close :: rest) := by
      rw [commaSeparated, String.intercalate_cons_cons, String.toList_append, String.toList_append,
        List.append_assoc, List.append_assoc]
      rfl
    obtain ⟨first, later⟩ := List.forall_mem_cons.mp enough
    rw [text, readSeries_comma here bracket first, readSeries_blank,
      readSeries_commaSeparated bracket rest others later (Nat.lt_of_succ_lt_succ count)]
    simp

end Series

/-! ## Containers -/

/-- No part is longer than all of them, and there are hardly more parts than characters. -/
theorem length_commaSeparated : ∀ parts : List String,
    (∀ part ∈ parts, part.length ≤ (commaSeparated parts).length) ∧
      parts.length ≤ (commaSeparated parts).length + 1
  | [] => ⟨nofun, Nat.zero_le _⟩
  | [part] => by
    have alone : commaSeparated [part] = part := String.intercalate_singleton ..
    rw [alone]
    exact ⟨by simp, Nat.succ_le_succ (Nat.zero_le _)⟩
  | part :: next :: parts => by
    obtain ⟨each, count⟩ := length_commaSeparated (next :: parts)
    have length : (commaSeparated (part :: next :: parts)).length =
        part.length + 2 + (commaSeparated (next :: parts)).length := by
      rw [commaSeparated, String.intercalate_cons_cons, String.length_append, String.length_append]
      rfl
    rw [length]
    refine ⟨List.forall_mem_cons.mpr ⟨by omega, fun other mem => ?_⟩, ?_⟩
    · have := each other mem
      omega
    · rw [List.length_cons]
      omega

section Enclosed

variable {α : Type} {one : Nat → List Char → Option (α × List Char)} {parts : List String}
  {as : List α}

/-- What stands between brackets is read as the series of its parts. -/
theorem readSeries_enclosed (opening : Char) {closing : Char} (bracket : closing ∈ closers)
    (all : List.Forall₂ (Reads one) parts as) {fuel : Nat}
    (enough : (String.singleton opening ++ commaSeparated parts ++ String.singleton closing).length <
      fuel + 1) (rest : List Char) :
    ∃ series, (String.singleton opening ++ commaSeparated parts ++
        String.singleton closing).toList ++ rest = opening :: series ∧
      readSeries (one fuel) closing fuel series = some (as, decide (1 < as.length), rest) := by
  obtain ⟨each, count⟩ := length_commaSeparated parts
  simp only [String.length_append, String.length_singleton] at enough
  refine ⟨(commaSeparated parts).toList ++ closing :: rest, by simp,
    readSeries_commaSeparated bracket rest all (fun part mem => ?_) (by omega)⟩
  have := each part mem
  omega

end Enclosed

variable {parts : List String} {ds : List Datum}

theorem reads_list (all : List.Forall₂ (Reads readDatum) parts ds) :
    Reads readDatum ("[" ++ commaSeparated parts ++ "]") (.list ds) where
  starts := by
    rw [String.append_assoc, String.toList_append]
    rfl
  reads {fuel rest} enough _ := by
    obtain ⟨fuel, rfl⟩ := Nat.exists_eq_add_one_of_ne_zero (Nat.ne_zero_of_lt enough)
    have bracket : ']' ∈ closers := by decide
    obtain ⟨series, text, read⟩ := readSeries_enclosed '[' bracket all enough rest
    have text : ("[" ++ commaSeparated parts ++ "]").toList ++ rest = '[' :: series := text
    rw [text, readDatum, read]
    rfl

theorem reads_tuple (all : List.Forall₂ (Reads readDatum) parts ds) :
    Reads readDatum (tupleText parts) (.tuple ds) where
  starts := by
    unfold tupleText
    split <;> rw [String.append_assoc, String.toList_append] <;> rfl
  reads {fuel rest} enough _ := by
    obtain ⟨fuel, rfl⟩ := Nat.exists_eq_add_one_of_ne_zero (Nat.ne_zero_of_lt enough)
    have bracket : ')' ∈ closers := by decide
    unfold tupleText at enough ⊢
    split
    · -- a comma stands behind one part alone
      rename_i part
      obtain ⟨d, ds, here, others, rfl⟩ := List.forall₂_cons_left_iff.mp all
      obtain rfl := List.forall₂_nil_left_iff.mp others
      simp only [String.length_append] at enough
      have length : "(".length = 1 ∧ ",)".length = 2 := ⟨rfl, rfl⟩
      obtain ⟨fuel, rfl⟩ : ∃ more, fuel = more + 2 := ⟨fuel - 2, by omega⟩
      have text : ("(" ++ part ++ ",)").toList ++ rest =
          '(' :: (part.toList ++ ',' :: ')' :: rest) := by
        simp
      rw [text, readDatum, readSeries_comma here bracket (by omega)]
      rfl
    · -- any other number of parts: without the comma, a single part would not be a tuple
      rename_i several
      have enough : ("(" ++ commaSeparated parts ++ ")").length < fuel + 1 := by
        split at enough
        · exact absurd rfl (several _)
        · exact enough
      obtain ⟨series, text, read⟩ := readSeries_enclosed '(' bracket all enough rest
      have text : ("(" ++ commaSeparated parts ++ ")").toList ++ rest = '(' :: series := text
      rw [text, readDatum, read]
      cases all with
      | nil => rfl
      | cons _ others =>
        cases others with
        | nil => exact absurd rfl (several _)
        | cons _ _ => simp [parenthesized]

/-- A key that is not there yet comes last. -/
theorem setEntry_of_notMem {entry : List Nat × Datum} {entries : List (List Nat × Datum)}
    (fresh : entry.1 ∉ entries.map Prod.fst) : setEntry entry entries = entries ++ [entry] := by
  induction entries with
  | nil => rfl
  | cons other rest ih =>
    obtain ⟨here, there⟩ := not_or.mp (mt List.mem_cons.mpr fresh)
    rw [setEntry, if_neg (Ne.symm here), ih there, List.cons_append]

theorem collect_of_nodup {entries : List (List Nat × Datum)}
    (distinct : (entries.map Prod.fst).Nodup) : collect entries = entries := by
  have onto (entries : List (List Nat × Datum)) : ∀ found : List (List Nat × Datum),
      ((found ++ entries).map Prod.fst).Nodup →
        entries.foldl (fun found entry => setEntry entry found) found = found ++ entries := by
    induction entries with
    | nil => exact fun found _ => (List.append_nil found).symm
    | cons entry rest ih =>
      intro found distinct
      have fresh : entry.1 ∉ found.map Prod.fst := by
        rw [List.map_append, List.nodup_append] at distinct
        exact fun mem => distinct.2.2 _ mem _ List.mem_cons_self rfl
      have same : found ++ entry :: rest = found ++ [entry] ++ rest := by simp
      rw [List.foldl_cons, setEntry_of_notMem fresh, same]
      rw [same] at distinct
      exact ih _ distinct
  exact onto entries [] distinct

theorem reads_entry {key part : String} {points : List Nat} {d : Datum}
    (told : Reads readDatum key (.text points)) (here : Reads readDatum part d) :
    Reads (fun fuel => readEntry (readDatum fuel)) (key ++ ": " ++ part) (points, d) where
  starts := by
    have starts := told.starts
    rw [String.append_assoc, String.toList_append, List.head?_append]
    cases first : key.toList.head? with
    | none =>
      rw [first] at starts
      cases starts
    | some c => rwa [first] at starts
  reads {fuel rest} enough stop := by
    simp only [String.length_append] at enough
    have text : (key ++ ": " ++ part).toList ++ rest =
        key.toList ++ ':' :: ' ' :: (part.toList ++ rest) := by
      simp
    have colon : skipBlanks (':' :: ' ' :: (part.toList ++ rest)) =
        ':' :: ' ' :: (part.toList ++ rest) := rfl
    have bracket : ']' ∈ closers := by decide
    have blank : skipBlanks (' ' :: (part.toList ++ rest)) = part.toList ++ rest :=
      (skipBlanks_part here.starts bracket rest).1
    rw [text, readEntry, told.reads (by omega) (.cons rfl)]
    dsimp only
    rw [colon, List.head?_cons, if_pos (beq_self_eq_true _), List.tail_cons, blank,
      here.reads (by omega) stop]
    rfl

theorem reads_map {entries : List (List Nat × Datum)}
    (all : List.Forall₂ (Reads fun fuel => readEntry (readDatum fuel)) parts entries)
    (distinct : (entries.map Prod.fst).Nodup) :
    Reads readDatum ("\x7b" ++ commaSeparated parts ++ "\x7d") (.map entries) where
  starts := by
    rw [String.append_assoc, String.toList_append]
    rfl
  reads {fuel rest} enough _ := by
    obtain ⟨fuel, rfl⟩ := Nat.exists_eq_add_one_of_ne_zero (Nat.ne_zero_of_lt enough)
    have bracket : '\x7d' ∈ closers := by decide
    obtain ⟨series, text, read⟩ := readSeries_enclosed '\x7b' bracket all enough rest
    have text : ("\x7b" ++ commaSeparated parts ++ "\x7d").toList ++ rest = '\x7b' :: series := text
    rw [text, readDatum, read, Option.map_some]
    dsimp only
    rw [collect_of_nodup distinct]

/-! ## Values -/

theorem isWordChar_of_mem_numerals {c : Char} (mem : c ∈ Decimal.numerals) :
    isWordChar c = true := by
  have all : Decimal.numerals.all isWordChar = true := by decide
  exact List.all_eq_true.mp all c mem

theorem reads_ofInt {n : Int} (short : Decimal.isWritable n = true) :
    Reads readDatum (Decimal.ofInt n) (.int n) := by
  have text : (Decimal.ofInt n).toList =
      (if decide (n < 0) then ['-'] else []) ++ Decimal.natDigits n.natAbs := by
    rw [Decimal.ofInt]
    split <;> rename_i sign <;> simp [sign, Decimal.ofNat]
  have digits : (Decimal.natDigits n.natAbs).head?.any Char.isDigit = true := by
    obtain ⟨d, others, same⟩ := List.exists_cons_of_ne_nil (Decimal.natDigits_ne_nil n.natAbs)
    have digit := Decimal.isDigit_natDigits n.natAbs d (same ▸ List.mem_cons_self)
    rw [same]
    exact digit
  refine reads_word ?_ (List.all_eq_true.mpr fun c mem => ?_) ?_
  · rw [text]
    exact List.append_ne_nil_of_right_ne_nil _ (Decimal.natDigits_ne_nil _)
  · exact isWordChar_of_mem_numerals (Decimal.numerals_ofInt n mem)
  · have small : n.natAbs < Decimal.tooLong := of_decide_eq_true short
    have same : (if decide (n < 0) = true then -(n.natAbs : Int) else n.natAbs) = n := by
      split <;> rename_i sign <;> simp only [decide_eq_true_eq] at sign <;> omega
    rw [text, word?_signed digits, number?_natDigits small, same]

theorem reads_ofBinary64 {x : Decimal.Binary64} (finite : x.isFinite = true) :
    Reads readDatum (Decimal.Style.plain.ofBinary64 x) (.float x) := by
  have text : (Decimal.Style.plain.ofBinary64 x).toList =
      (if x.negative then ['-'] else []) ++ Decimal.Style.plain.magnitude x := by
    have number : x.isNaN = false ∧ x.isInfinite = false := by
      rw [Decimal.Binary64.isFinite, bne_iff_ne] at finite
      simp [Decimal.Binary64.isNaN, Decimal.Binary64.isInfinite, finite]
    rw [Decimal.Style.ofBinary64, number.1, number.2]
    cases x.negative <;> simp
  have starts := Decimal.starts_magnitude .plain finite
  refine reads_word ?_ (List.all_eq_true.mpr fun c mem => ?_) ?_
  · rw [text]
    refine List.append_ne_nil_of_right_ne_nil _ fun none => ?_
    rw [none] at starts
    cases starts
  · exact isWordChar_of_mem_numerals (Decimal.numerals_ofBinary64 x mem)
  · rw [text, word?_signed starts, number?_magnitude .plain finite]

/-- The keys of a mapping stay distinct in code units. -/
theorem nodup_entryData {entries : List (Value × Value)}
    (json : (Value.map entries).isJson = true) :
    ((entries.map (entryDatum codeUnits)).map Prod.fst).Nodup := by
  have distinct := Value.keyTexts_nodup_of_isJson json
  have injective : Function.Injective fun s : String => s.toList.flatMap codeUnits :=
    fun s t same => String.toList_inj.mp (flatMap_codeUnits_injective same)
  have mapped := distinct.map injective
  rwa [List.map_map] at mapped ⊢

/-- **The literal of a JSON value is read as the value**, its texts in code units. -/
theorem reads_literal {v : Value} (tree : v.Tree) (json : v.isJson = true)
    (finite : ∀ x, (Value.float x).Part v → x.isFinite = true) :
    Yields (literal v) (Reads readDatum · (datumOf codeUnits v)) := by
  induction tree with
  | null => exact .ok (reads_word (by decide) (by decide) rfl)
  | @bool b => cases b <;> exact .ok (reads_word (by decide) (by decide) rfl)
  | @int n =>
    rw [literal]
    split
    · rename_i short
      exact .ok (reads_ofInt short)
    · exact .error
  | @float x => exact .ok (reads_ofBinary64 (finite x .refl))
  | @str s =>
    rw [literal_str]
    exact .ok (reads_quote s)
  | @list items _ ih =>
    rw [literal, literals_eq_mapM, datumOf, dataOf_eq_map]
    have each : ∀ v ∈ items, Yields (literal v) (Reads readDatum · (datumOf codeUnits v)) :=
      fun v mem => ih v mem (Value.isJson_list.mp json v mem) fun x part => finite x (.item mem part)
    exact (Yields.mapM_forall₂ each).bind_pure fun _ all => reads_list all
  | @map entries keys _ ih =>
    rw [literal, entryLiterals_eq_mapM, datumOf, entryData_eq_map]
    have each : ∀ entry ∈ entries, Yields (entryLiteral entry)
        (Reads (fun fuel => readEntry (readDatum fuel)) · (entryDatum codeUnits entry)) := by
      intro entry mem
      obtain ⟨key, text⟩ := keys entry mem
      -- the keys of a JSON value are texts, so their literals are those of texts
      have told : Yields (literal entry.1)
          (Reads readDatum · (.text (key.toList.flatMap codeUnits))) := by
        rw [text, literal_str]
        exact .ok (reads_quote key)
      have here := ih entry mem ((Value.isJson_map.mp json).1 entry mem).2
        fun x part => finite x (.entry mem part)
      have same : entryDatum codeUnits entry =
          (key.toList.flatMap codeUnits, datumOf codeUnits entry.2) := by
        rw [entryDatum, text]
        rfl
      rw [entryLiteral, same]
      exact told.bind fun _ told => here.bind_pure fun _ here => reads_entry told here
    exact (Yields.mapM_forall₂ each).bind_pure
      fun _ all => reads_map all (nodup_entryData json)

/-- A text that is read, whatever follows it, is read as a whole. -/
theorem Reads.readLiteral_eq {s : String} {d : Datum} (h : Reads readDatum s d) :
    readLiteral s = some d := by
  have read : readDatum (s.length + 1) (s.toList ++ []) = some (d, []) :=
    h.reads (Nat.lt_succ_self s.length) rfl
  rw [List.append_nil] at read
  rw [readLiteral, read]

/-! ## What needs no pair -/

/-- Whether each character of a text is one code unit. -/
def fitsUnits (s : String) : Bool := s.toList.all fun c => c.toNat < 0x10000

mutual

/-- Whether each character of the texts and keys of a value is one code unit. -/
def isBasic : Value → Bool
  | .str s => fitsUnits s
  | .list items | .tuple items => areBasic items
  | .map entries => areBasicEntries entries
  | _ => true

def areBasic : List Value → Bool
  | [] => true
  | v :: rest => isBasic v && areBasic rest

def areBasicEntries : List (Value × Value) → Bool
  | [] => true
  | (k, v) :: rest => fitsUnits k.keyText && isBasic v && areBasicEntries rest

end

theorem areBasic_iff {items : List Value} :
    areBasic items = true ↔ ∀ v ∈ items, isBasic v = true := by
  induction items with
  | nil => simp [areBasic]
  | cons v rest ih => simp [areBasic, ih]

theorem areBasicEntries_iff {entries : List (Value × Value)} :
    areBasicEntries entries = true ↔
      ∀ entry ∈ entries, fitsUnits entry.1.keyText = true ∧ isBasic entry.2 = true := by
  induction entries with
  | nil => simp [areBasicEntries]
  | cons entry rest ih => simp [areBasicEntries, ih]

theorem spelling_eq_iff {s : String} :
    s.toList.flatMap codeUnits = s.toList.flatMap codePoints ↔ fitsUnits s = true := by
  rw [flatMap_codeUnits_eq_iff, fitsUnits, List.all_eq_true]
  simp only [decide_eq_true_eq]

/-- A value is the same in code units and in code points if nothing of it needs a pair. -/
theorem datumOf_eq_iff {v : Value} (tree : v.Tree) :
    datumOf codeUnits v = datumOf codePoints v ↔ isBasic v = true := by
  induction tree with
  | null | bool | int | float => exact iff_of_true rfl rfl
  | str => rw [datumOf, datumOf, Datum.text.injEq, spelling_eq_iff, isBasic]
  | list _ ih =>
    rw [datumOf, datumOf, Datum.list.injEq, dataOf_eq_map, dataOf_eq_map,
      List.map_inj_left, isBasic, areBasic_iff]
    exact forall₂_congr ih
  | map _ _ ih =>
    rw [datumOf, datumOf, Datum.map.injEq, entryData_eq_map, entryData_eq_map,
      List.map_inj_left, isBasic, areBasicEntries_iff]
    refine forall₂_congr fun entry mem => ?_
    rw [entryDatum, entryDatum, Prod.mk.injEq, spelling_eq_iff, ih entry mem]

/-! ## Denotation -/

/-- A result is the text of a literal that denotes a datum. -/
def Denotes (result : Except Fault String) (d : Datum) : Prop :=
  ∃ text, result = .ok text ∧ readLiteral text = some d

theorem denotes_iff {result : Except Fault String} {d e : Datum} {told : Prop}
    (written : Writes told result told) (read : Yields result (Reads readDatum · d)) :
    Denotes result e ↔ told ∧ d = e := by
  constructor
  · rintro ⟨text, found, denotes⟩
    rw [(read text found).readLiteral_eq] at denotes
    exact ⟨written.shown text found, Option.some.inj denotes⟩
  · rintro ⟨all, rfl⟩
    obtain ⟨text, found⟩ := written.ok all
    exact ⟨text, found, (read text found).readLiteral_eq⟩

/-- **What literals denote.** A JSON value with finite doubles has a literal exactly if its integers
are not too long. The literal denotes the value with its texts in code units, so it denotes the value
itself exactly if no character of its texts and keys needs two of them. So it is with tuples. -/
theorem literals_denote_iff {values : List Value} (json : ∀ v ∈ values, v.isJson = true)
    (finite : ∀ v ∈ values, ∀ x, (Value.float x).Part v → x.isFinite = true) :
    (∀ v ∈ values, (Denotes (literal v) (datumOf codeUnits v) ↔ v.isTellable = true) ∧
      (Denotes (literal v) (datumOf codePoints v) ↔ v.isTellable = true ∧ isBasic v = true)) ∧
    (Denotes (tupleLiteral values) (.tuple (values.map (datumOf codeUnits))) ↔
      ∀ v ∈ values, v.isTellable = true) ∧
    (Denotes (tupleLiteral values) (.tuple (values.map (datumOf codePoints))) ↔
      ∀ v ∈ values, v.isTellable = true ∧ isBasic v = true) := by
  have tree (v : Value) (mem : v ∈ values) : v.Tree := Value.tree_of_isJson (json v mem)
  have each (v : Value) (mem : v ∈ values) :
      Yields (literal v) (Reads readDatum · (datumOf codeUnits v)) :=
    reads_literal (tree v mem) (json v mem) (finite v mem)
  have tuple : Yields (tupleLiteral values)
      (Reads readDatum · (.tuple (values.map (datumOf codeUnits)))) := by
    rw [tupleLiteral, literals_eq_mapM]
    exact (Yields.mapM_forall₂ each).map fun _ all => reads_tuple all
  have writes : Writes (∀ v ∈ values, v.isTellable = true) (tupleLiteral values)
      (∀ v ∈ values, v.isTellable = true) := (literals_writes tree id).map
  -- what is read is the datum in code units, so a datum in code points has to be the same
  refine ⟨fun v mem => ⟨?_, ?_⟩, ?_, ?_⟩
  · rw [denotes_iff (literal_writes (tree v mem)) (each v mem)]
    exact and_iff_left rfl
  · rw [denotes_iff (literal_writes (tree v mem)) (each v mem), datumOf_eq_iff (tree v mem)]
  · rw [denotes_iff writes tuple]
    exact and_iff_left rfl
  · rw [denotes_iff writes tuple, Datum.tuple.injEq, List.map_inj_left]
    have basic : (∀ v ∈ values, datumOf codeUnits v = datumOf codePoints v) ↔
        ∀ v ∈ values, isBasic v = true := forall₂_congr fun v mem => datumOf_eq_iff (tree v mem)
    rw [basic]
    exact ⟨fun both v mem => ⟨both.1 v mem, both.2 v mem⟩,
      fun all => ⟨fun v mem => (all v mem).1, fun v mem => (all v mem).2⟩⟩

/-- Two values, of which the second one is a character that is a pair. -/
def spelledValues : List Value :=
  [.map [(.str "größe", .list [.int (-1), .float (.zero true)])], .str "😀"]

/-- The first one is denoted, and the second one is not: its literal is that of two surrogates. -/
theorem spelledValues_denoted :
    (∀ v ∈ spelledValues, v.isJson = true) ∧
    (∀ v ∈ spelledValues, ∀ x, (Value.float x).Part v → x.isFinite = true) ∧
    spelledValues.map isBasic = [true, false] ∧
    Denotes (tupleLiteral spelledValues) (.tuple (spelledValues.map (datumOf codeUnits))) ∧
    ¬Denotes (tupleLiteral spelledValues) (.tuple (spelledValues.map (datumOf codePoints))) := by
  have json : ∀ v ∈ spelledValues, v.isJson = true := by decide +kernel
  have finite : ∀ v ∈ spelledValues, ∀ x, (Value.float x).Part v → x.isFinite = true := by
    intro v mem x part
    simp only [spelledValues, List.mem_cons, List.not_mem_nil, or_false] at mem
    rcases mem with rfl | rfl
    · cases part with
      | entry mem part =>
        cases List.mem_singleton.mp mem
        cases part with
        | item mem part =>
          simp only [List.mem_cons, List.not_mem_nil, or_false] at mem
          rcases mem with rfl | rfl
          · cases part
          · cases part
            rfl
    · cases part
  obtain ⟨-, units, points⟩ := literals_denote_iff json finite
  refine ⟨json, finite, by decide +kernel, units.mpr (by decide +kernel), fun denoted => ?_⟩
  have basic := (points.mp denoted (.str "😀") (List.mem_cons_of_mem _ List.mem_cons_self)).2
  exact absurd basic (by decide +kernel)

/-- The literal of a character that is a pair is read as two surrogates, not as the character. -/
theorem literal_splits_character :
    (Value.str "😀").isJson = true ∧ literal (.str "😀") = .ok "\"\\ud83d\\ude00\"" ∧
      readLiteral "\"\\ud83d\\ude00\"" = some (.text [0xD83D, 0xDE00]) ∧
        ¬Denotes (literal (.str "😀")) (datumOf codePoints (.str "😀")) := by
  have written : literal (.str "😀") = .ok "\"\\ud83d\\ude00\"" := by
    rw [literal_str]
    exact congrArg Except.ok (by decide +kernel)
  have read : readLiteral "\"\\ud83d\\ude00\"" = some (.text [0xD83D, 0xDE00]) := rfl
  refine ⟨rfl, written, read, ?_⟩
  rintro ⟨text, found, denotes⟩
  cases written.symm.trans found
  cases read.symm.trans denotes

end WireModel.Emit
