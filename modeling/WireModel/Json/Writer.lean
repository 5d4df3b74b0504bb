import WireModel.Text.Hex
import WireModel.Decimal.Limit
import WireModel.Value.Basic

/-!
# Writing JSON text

Text in ASCII, on one line or indented. Keys that are null, Booleans or numbers are written
as their text; other keys and values that JSON does not have are refused.
-/

namespace WireModel.Json

/-! ## Strings -/

/-- The four-digit escapes of a character: one, or a surrogate pair. -/
def unicodeEscape (n : Nat) : List Char :=
  if n < 0x10000 then '\\' :: 'u' :: Text.hex 4 n
  else
    '\\' :: 'u' :: Text.hex 4 (0xD800 + (n - 0x10000) / 0x400) ++
      '\\' :: 'u' :: Text.hex 4 (0xDC00 + (n - 0x10000) % 0x400)

/-- A character inside a string. -/
def escapeChar (c : Char) : List Char :=
  if c == '"' then ['\\', '"']
  else if c == '\\' then ['\\', '\\']
  else if c == '\n' then ['\\', 'n']
  else if c == '\r' then ['\\', 'r']
  else if c == '\t' then ['\\', 't']
  else if c.toNat == 8 then ['\\', 'b']
  else if c.toNat == 12 then ['\\', 'f']
  else if 0x20 ≤ c.toNat && c.toNat < 0x7F then [c]
  else unicodeEscape c.toNat

/-- A text between double quotes. -/
def quoteList (cs : List Char) : List Char := '"' :: cs.flatMap escapeChar ++ ['"']

/-- A text between double quotes. -/
def quote (s : String) : String := String.ofList (quoteList s.toList)

/-! ## Values -/

/-- Why a value has no JSON text. -/
inductive Refusal where
  | value (kind : String)
  | key (kind : String)
  /-- An integer is too long. -/
  | overlong
  /-- A collection contains itself. -/
  | circular
  deriving DecidableEq

def Refusal.message : Refusal → String
  | .overlong => Decimal.Overlong.written.message
  | .circular => "Circular reference detected"
  | .value kind => "Object of type " ++ kind ++ " is not JSON serializable"
  | .key kind => "keys must be str, int, float, bool or None, not " ++ kind

/-- How containers are laid out: on one line, or one part a line with this indentation. -/
inductive Layout where
  | oneLine
  | indented (width : Nat)

/-- A line break and the indentation of a level. -/
def Layout.newline (width level : Nat) : String :=
  String.ofList ('\n' :: List.replicate (width * level) ' ')

/-- The parts of a container at a level, between brackets. -/
def Layout.enclose (layout : Layout) (level : Nat) (opening closing : String)
    (parts : List String) : String :=
  match parts, layout with
  | [], _ => opening ++ closing
  | _, .oneLine => opening ++ String.intercalate ", " parts ++ closing
  | _, .indented width =>
    opening ++ newline width (level + 1) ++
      String.intercalate ("," ++ newline width (level + 1)) parts ++ newline width level ++ closing

/-- The text of an integer. -/
def integerText (n : Int) : Except Refusal String :=
  if Decimal.isWritable n then .ok (Decimal.ofInt n) else .error .overlong

/-- The text of a key. -/
def keyText : Value → Except Refusal String
  | .str s => .ok s
  | .null => .ok "null"
  | .bool b => .ok (if b then "true" else "false")
  | .int n => integerText n
  | .float x => .ok (Decimal.Style.document.ofBinary64 x)
  | v => .error (.key v.kindName)

mutual

/-- The text of a value at a level of nesting. -/
def write (layout : Layout) (level : Nat) : Value → Except Refusal String
  | .null => .ok "null"
  | .bool b => .ok (if b then "true" else "false")
  | .int n => integerText n
  | .float x => .ok (Decimal.Style.document.ofBinary64 x)
  | .str s => .ok (quote s)
  | .list items | .tuple items => do
    let parts ← writeItems layout (level + 1) items
    return layout.enclose level "[" "]" parts
  | .map entries => do
    let parts ← writeEntries layout (level + 1) entries
    return layout.enclose level "\x7b" "\x7d" parts
  | .knot _ => .error .circular
  | v => .error (.value v.kindName)

def writeItems (layout : Layout) (level : Nat) : List Value → Except Refusal (List String)
  | [] => .ok []
  | v :: rest => do
    let text ← write layout level v
    let texts ← writeItems layout level rest
    return text :: texts

def writeEntries (layout : Layout) (level : Nat) :
    List (Value × Value) → Except Refusal (List String)
  | [] => .ok []
  | (k, v) :: rest => do
    let key ← keyText k
    let text ← write layout level v
    let texts ← writeEntries layout level rest
    return (quote key ++ ": " ++ text) :: texts

end

/-- The text of a value on one line. -/
def writeLine (v : Value) : Except Refusal String := write .oneLine 0 v

/-- The text of a value, two blanks deeper for each level. -/
def writeIndented (v : Value) : Except Refusal String := write (.indented 2) 0 v

end WireModel.Json
