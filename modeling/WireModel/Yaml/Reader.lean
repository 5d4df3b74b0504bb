import WireModel.Decimal.Limit
import WireModel.Value.Equality
import WireModel.Yaml.Node

/-!
# Reading YAML text

Plain scalars become null, Booleans and numbers where their text has that form, and strings
otherwise; all other scalars are strings. The key `<<` takes over the entries of other
mappings, in front of those of its own mapping. Of several faults the outermost counts, and the
first one among those at one depth.
-/

namespace WireModel.Yaml

-- powers are those of the core library, whatever else is in scope
attribute [local instance (high)] instPowNat

/-! ## Integers -/

/-- Splits a sign off; minus is true. -/
def splitSign : List Char → Bool × List Char
  | '-' :: rest => (true, rest)
  | '+' :: rest => (false, rest)
  | cs => (false, cs)

/-- The digit of a base that a character is; an underscore is none but may stand among
digits. -/
def digitIn (base : Nat) (c : Char) : Bool :=
  match Text.hexValue? c with
  | some d => d < base
  | none => false

/-- The number that digits of a base denote, underscores left out. -/
def numberIn (base : Nat) (cs : List Char) : Nat :=
  cs.foldl (fun n c => if c == '_' then n else base * n + (Text.hexValue? c).getD 0) 0

/-- Digits of a base and underscores, at least one of either. -/
def areDigits (base : Nat) (cs : List Char) : Bool :=
  !cs.isEmpty && cs.all fun c => c == '_' || digitIn base c

/-- The parts of a text between colons. -/
def splitColon : List Char → List (List Char)
  | [] => [[]]
  | ':' :: rest => [] :: splitColon rest
  | c :: rest =>
    match splitColon rest with
    | [] => [[c]]
    | part :: parts => (c :: part) :: parts

/-- A part of a number in base sixty after the first: one digit, or two up to 59. -/
def isSixtieth : List Char → Bool
  | [d] => d.isDigit
  | [t, d] => '0' ≤ t && t ≤ '5' && d.isDigit
  | _ => false

/-- A decimal number that does not start with zero. -/
def isPositive : List Char → Bool
  | d :: rest => d.isDigit && d != '0' && rest.all fun c => c == '_' || c.isDigit
  | [] => false

/-- The number that digits of a base denote. A text of underscores alone has none, and decimal
digits may be too many. -/
def checkedNumber (base : Nat) (cs : List Char) : Except Fault Nat :=
  let digits := (cs.filter (· != '_')).length
  if digits = 0 then .error (.noDigits base)
  else if base = 10 && Decimal.maxDigits < digits then .error (.overlong digits)
  else .ok (numberIn base cs)

/-- Digits of a base behind the mark of the base. -/
def based? (base : Nat) (digits : List Char) : Option (Except Fault Nat) :=
  if areDigits base digits then some (checkedNumber base digits) else none

/-- A number without its sign. -/
def magnitude? : List Char → Option (Except Fault Nat)
  | ['0'] => some (.ok 0)
  | '0' :: 'b' :: digits => based? 2 digits
  | '0' :: 'x' :: digits => based? 16 digits
  | '0' :: digits => if areDigits 8 digits then some (.ok (numberIn 8 digits)) else none
  | cs =>
    if isPositive cs then some (checkedNumber 10 cs)
    else
      match splitColon cs with
      | first :: more =>
        if isPositive first && !more.isEmpty && more.all isSixtieth then
          some ((checkedNumber 10 first).map fun n =>
            more.foldl (fun n part => 60 * n + Decimal.toNat part) n)
        else none
      | [] => none

/-- The integer of a plain scalar that has the form of one. -/
def integer? (cs : List Char) : Option (Except Fault Int) :=
  let (negative, digits) := splitSign cs
  (magnitude? digits).map fun read => read.map fun n => if negative then -(n : Int) else n

/-! ## Floats -/

/-- An exponent: nothing, or a letter, a sign and digits. -/
def exponent? : List Char → Option Int
  | [] => some 0
  | e :: sign :: digits =>
    if (e == 'e' || e == 'E') && !digits.isEmpty && digits.all Char.isDigit then
      if sign == '-' then some (-(Decimal.toNat digits : Int))
      else if sign == '+' then some (Decimal.toNat digits)
      else none
    else none
  | _ => none

/-- Decimal digits and underscores. -/
def isDigitOrUnderscore (c : Char) : Bool := c == '_' || c.isDigit

/-- The double of whole digits, a fraction and an exponent. -/
def ofParts (whole fraction : List Char) (power : Int) : Decimal.Binary64 :=
  let kept := fraction.filter (· != '_')
  .ofDecimal false (numberIn 10 (whole ++ kept)) (power - kept.length)

/-- A float without its sign: digits with a point among or in front of them, or a number in
base sixty with a point at or before its end. -/
def fraction? (signed : Bool) (cs : List Char) : Option Decimal.Binary64 :=
  let whole := cs.takeWhile isDigitOrUnderscore
  match cs.dropWhile isDigitOrUnderscore with
  | '.' :: rest =>
    let fraction := rest.takeWhile isDigitOrUnderscore
    let power := exponent? (rest.dropWhile isDigitOrUnderscore)
    match whole, fraction with
    | [], [] => none
    | [], d :: _ =>
      if signed || !d.isDigit then none else power.map (ofParts [] fraction)
    | d :: _, _ => if d.isDigit then power.map (ofParts whole fraction) else none
  | _ => none

/-- The sum of parts in base sixty, the last part first. The weight of each has to be a double. -/
def weighted (parts : List Decimal.Binary64) : Except Fault Decimal.Binary64 :=
  let step (sum : Decimal.Binary64 × Nat) (part : Decimal.Binary64) :=
    (sum.1.add (part.mul (.ofInt sum.2)), sum.2 * 60)
  if (Decimal.Binary64.ofInt (60 ^ (parts.length - 1) : Nat)).isFinite then
    .ok (parts.foldl step (.zero false, 1)).1
  else .error .tooManyPlaces

/-- A float in base sixty: whole parts between colons, the last with a point. -/
def sexagesimal? (cs : List Char) : Option (Except Fault Decimal.Binary64) :=
  match splitColon cs with
  | first :: more =>
    match more.reverse with
    | last :: middle =>
      let whole := last.takeWhile (· != '.')
      let fraction := last.drop (whole.length + 1)
      let startsWithDigit := (first.head?.map Char.isDigit).getD false
      if startsWithDigit && first.all isDigitOrUnderscore && (whole :: middle).all isSixtieth &&
          whole.length < last.length && fraction.all isDigitOrUnderscore then
        some <| weighted <| ofParts whole fraction 0 :: (middle.map fun p => ofParts p [] 0) ++
          [ofParts first [] 0]
      else none
    | [] => none
  | [] => none

/-- The not-a-number of this format. -/
def nan : Decimal.Binary64 := .nanOf 1

/-- The float of a plain scalar. -/
def float? (cs : List Char) : Option (Except Fault Decimal.Binary64) :=
  let (negative, magnitude) := splitSign cs
  let signed := magnitude.length < cs.length
  let text := String.ofList magnitude
  let withSign (x : Decimal.Binary64) := if negative then x.neg else x
  if text == ".inf" || text == ".Inf" || text == ".INF" then
    some (.ok (.infinity negative))
  else if !signed && (text == ".nan" || text == ".NaN" || text == ".NAN") then some (.ok nan)
  else
    match fraction? signed magnitude with
    | some x => some (.ok (withSign x))
    | none => (sexagesimal? magnitude).map fun read => read.map withSign

/-! ## Scalars -/

/-- The words for true and false, in lower case, capitalised and in capitals. -/
def boolean? (text : String) : Option Bool :=
  if ["yes", "Yes", "YES", "true", "True", "TRUE", "on", "On", "ON"].contains text then some true
  else if ["no", "No", "NO", "false", "False", "FALSE", "off", "Off", "OFF"].contains text then
    some false
  else none

/-- The ways of writing null. -/
def isNullText (text : String) : Bool := ["", "~", "null", "Null", "NULL"].contains text

/-- The value of a plain scalar. Two texts have a meaning as keys alone. -/
def plainValue (text : String) : Except Fault Value :=
  let cs := text.toList
  if text == "<<" || text == "=" then .error .malformed
  else
    match boolean? text, float? cs, integer? cs with
    | some b, _, _ => .ok (.bool b)
    | none, some read, _ => read.map .float
    | none, none, some read => read.map .int
    | none, none, none => .ok (if isNullText text then .null else .str text)

/-! ## Merged entries -/

mutual

/-- The entries that a mapping merges, and its own. -/
def flatten : List (Node × Node) → Option (List (Node × Node) × List (Node × Node))
  | [] => some ([], [])
  | (.scalar true "<<", n) :: rest => do
    let front ← mergedFrom n
    let (merged, own) ← flatten rest
    some (front ++ merged, own)
  | (.scalar true "=", n) :: rest => do
    let (merged, own) ← flatten rest
    some (merged, (.scalar false "=", n) :: own)
  | entry :: rest => do
    let (merged, own) ← flatten rest
    some (merged, entry :: own)

/-- The entries that a node hands over to the mapping that merges it: those of a mapping, or
those of a sequence of mappings, the first of which counts most. -/
def mergedFrom : Node → Option (List (Node × Node))
  | .mapping entries => (flatten entries).map fun (merged, own) => merged ++ own
  | .sequence items => (mergedFromAll items).map fun all => all.reverse.flatten
  | .knot .. => some []
  | .scalar .. => none

/-- The entries of each mapping of a sequence. -/
def mergedFromAll : List Node → Option (List (List (Node × Node)))
  | [] => some []
  | .mapping entries :: rest => do
    let (merged, own) ← flatten entries
    let more ← mergedFromAll rest
    some ((merged ++ own) :: more)
  | .knot true _ :: rest => mergedFromAll rest
  | _ :: _ => none

end

/-- The entries of a mapping, merged ones first. -/
def entriesOf (entries : List (Node × Node)) : Except Fault (List (Node × Node)) :=
  match flatten entries with
  | some (merged, own) => .ok (merged ++ own)
  | none => .error .malformed

/-! ## Faults -/

/-- The fault of a scalar; collections have none of their own. -/
def scalarFault? : Node → Option Fault
  | .scalar true text =>
    match plainValue text with
    | .ok _ => none
    | .error fault => some fault
  | _ => none

/-- The fault of an entry: keys are scalars. -/
def entryFault? : Node × Node → Option Fault
  | (.scalar plain text, n) => (scalarFault? (.scalar plain text)).orElse fun _ => scalarFault? n
  | _ => some .malformed

/-- The first fault of a node and the scalars directly in it. -/
def shallowFault? : Node → Option Fault
  | .sequence items => items.findSome? scalarFault?
  | .mapping entries =>
    match entriesOf entries with
    | .ok entries => entries.findSome? entryFault?
    | .error fault => some fault
  | n => scalarFault? n

/-- The nodes directly in a node. -/
def inner : Node → List Node
  | .sequence items => items
  | .mapping entries => ((entriesOf entries).toOption.getD []).map (·.2)
  | _ => []

/-- The first fault of some nodes of one depth and of everything below, down to a depth. -/
def firstFault? : Nat → List Node → Option Fault
  | 0, _ => none
  | depth + 1, nodes =>
    if nodes.isEmpty then none
    else (nodes.findSome? shallowFault?).orElse fun _ => firstFault? depth (nodes.flatMap inner)

/-! ## Values -/

/-- The entries that a value hands over to the mapping that merges it. -/
def mergedEntries : Value → List (Value × Value)
  | .map entries => entries
  | .list maps => (maps.filterMap Value.entries?).reverse.flatten
  | _ => []

mutual

/-- The value of a node. -/
def valueOf : Node → Except Fault Value
  | .scalar true text => plainValue text
  | .scalar false text => .ok (.str text)
  | .sequence items => (valuesOf items).map .list
  | .mapping entries => do
    let (merged, own) ← pairsOf entries
    return Value.ofEntries (merged ++ own)
  | .knot mapping _ => .ok (.knot mapping)

def valuesOf : List Node → Except Fault (List Value)
  | [] => .ok []
  | n :: rest => do
    let v ← valueOf n
    let vs ← valuesOf rest
    return v :: vs

/-- The values of the entries that a mapping merges, and of its own. -/
def pairsOf : List (Node × Node) → Except Fault (List (Value × Value) × List (Value × Value))
  | [] => .ok ([], [])
  | (.scalar true "<<", n) :: rest => do
    let v ← valueOf n
    let (merged, own) ← pairsOf rest
    return (mergedEntries v ++ merged, own)
  | (.scalar true "=", n) :: rest => do
    let v ← valueOf n
    let (merged, own) ← pairsOf rest
    return (merged, (.str "=", v) :: own)
  | (k, n) :: rest => do
    let key ← valueOf k
    let v ← valueOf n
    let (merged, own) ← pairsOf rest
    return (merged, (key, v) :: own)

end

/-- The value of a text; a text without a document is null. -/
def read (text : String) : Except Fault Value := do
  let tokens ←
    match tokens? text.toList with
    | some tokens => pure tokens
    | none => throw .malformed
  match ← Node.ofTokens tokens with
  | none => return .null
  | some root =>
    match firstFault? (2 * tokens.length + 1) [root] with
    | some fault => throw fault
    | none => valueOf root

theorem valueOf_empty : valueOf .empty = .ok .null := by rfl

end WireModel.Yaml
