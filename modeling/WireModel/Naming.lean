import WireModel.Text.Identifier
import WireModel.Decimal.Text

/-!
# Names in generated code

Schema and property names are arbitrary texts. `pascalCase` and `attributeName` cut them into
ASCII words; `className` keeps a text that is usable as it stands; `uniqueName` numbers a name
that is already taken.
-/

namespace WireModel.Naming

/-! ## ASCII classes -/

def isLower (c : Char) : Bool := c.isLower

def isUpper (c : Char) : Bool := c.isUpper

/-- ASCII letters and digits. -/
def isWordChar (c : Char) : Bool := c.isAlphanum

/-- Whether the character before is a letter. -/
def followsLetter (previous : Option Char) : Bool := previous.any Char.isAlpha

/-! ## Pascal case -/

/-- Drops everything but letters and digits, and capitalises each letter that does not follow
a letter. -/
def pascalFrom (previous : Option Char) : List Char → List Char
  | [] => []
  | c :: rest =>
    let tail := pascalFrom (some c) rest
    if !isWordChar c then tail
    else if followsLetter previous then c :: tail
    else c.toUpper :: tail

/-- A text in PascalCase. -/
def pascalCase (s : String) : String := String.ofList (pascalFrom none s.toList)

/-! ## Attribute names -/

/-- Whether a capital starts a word: after a lower-case letter or a digit, and between a
capital and a lower-case letter. -/
def startsWord (previous : Option Char) (next : Option Char) : Bool :=
  match previous with
  | none => false
  | some p => isLower p || p.isDigit || (isUpper p && next.any isLower)

/-- Puts an underscore in front of each capital that starts a word. -/
def separateWords (previous : Option Char) : List Char → List Char
  | [] => []
  | c :: rest =>
    let tail := c :: separateWords (some c) rest
    if isUpper c && startsWord previous rest.head? then '_' :: tail else tail

/-- The maximal runs of letters and digits; `word` is the current run, last character first. -/
def wordRuns : List Char → List Char → List (List Char)
  | [], word => if word.isEmpty then [] else [word.reverse]
  | c :: rest, word =>
    if isWordChar c then wordRuns rest (c :: word)
    else if word.isEmpty then wordRuns rest []
    else word.reverse :: wordRuns rest []

/-- The words of a text in lower case, joined by underscores. -/
def joinedWords (cs : List Char) : List Char :=
  (['_'].intercalate (wordRuns (separateWords none cs) [])).map Char.toLower

/-- A body that is empty or starts with a digit is mended. -/
def mendBody : List Char → List Char
  | [] => ['f', 'i', 'e', 'l', 'd']
  | c :: rest => if c.isDigit then 'n' :: c :: rest else c :: rest

/-- A text in snake_case, its leading underscores kept and a reserved word marked by an
underscore at its end. -/
def attributeName (s : String) : String :=
  let leading := s.toList.takeWhile (· == '_')
  let name := String.ofList (leading ++ mendBody (joinedWords (s.toList.dropWhile (· == '_'))))
  if Text.isReserved name then name ++ "_" else name

/-! ## Class names -/

/-- A text itself when it is usable as a name, otherwise its PascalCase, which gets the word
`Model` when it is empty or starts with a digit. -/
def className (s : String) : String :=
  if Text.isUsableName s then s
  else
    match (pascalCase s).toList with
    | [] => "Model"
    | c :: rest => if c.isDigit then "Model" ++ pascalCase s else String.ofList (c :: rest)

/-! ## Distinct names -/

/-- The first of `candidate`, numbered from `index` on, that is not taken. -/
def numbered (candidate : String) (taken : List String) : Nat → Nat → String
  | 0, index => candidate ++ Decimal.ofNat index
  | fuel + 1, index =>
    let name := candidate ++ Decimal.ofNat index
    if taken.contains name then numbered candidate taken fuel (index + 1) else name

/-- The candidate itself, or with the first number from two on that makes it new; as many
numbers as there are taken names suffice. -/
def uniqueName (candidate : String) (taken : List String) : String :=
  if taken.contains candidate then numbered candidate taken taken.length 2 else candidate

/-! ## Laws -/

theorem uniqueName_of_not_mem {candidate : String} {taken : List String}
    (h : candidate ∉ taken) : uniqueName candidate taken = candidate := by
  simp [uniqueName, h]

theorem className_of_isUsableName {s : String} (h : Text.isUsableName s = true) :
    className s = s := by
  simp [className, h]

theorem mendBody_ne_nil (body : List Char) : mendBody body ≠ [] := by
  cases body with
  | nil => simp [mendBody]
  | cons c rest => simp only [mendBody]; split <;> simp

end WireModel.Naming
