import WireModel.Output.Numeral
import WireModel.Output.TextLiteral
import WireModel.Text.Identifier

/-!
# Tokens of generated modules

A module that is about to be written is cut into tokens to see whether it can be read again.
Indentation becomes explicit: a deeper line opens a block and a shallower one closes blocks.
Between brackets neither line ends nor indentation count.
-/

namespace WireModel.Output

/-- A token. -/
inductive Token where
  | name (text : String)
  /-- A reserved word. -/
  | word (text : String)
  | number (imaginary : Bool)
  | text (literal : TextLiteral)
  | symbol (text : String)
  | newline
  | indent
  | dedent

namespace Token

/-- A name or a reserved word. -/
def ofWord (text : String) : Token := if Text.isReserved text then .word text else .name text

/-! ## Symbols -/

/-- Symbols, longer ones first. -/
def symbols : List String :=
  ["**=", "//=", ">>=", "<<=", "...", "**", "//", ">>", "<<", "<=", ">=", "==", "!=", "->", "+=",
    "-=", "*=", "/=", "%=", "&=", "|=", "^=", "@=", ":=", "+", "-", "*", "/", "%", "@", "&", "|",
    "^", "~", "<", ">", "(", ")", "[", "]", "\x7b", "\x7d", ":", ",", ";", ".", "="]

/-- The symbol at the start of a text. -/
def symbol? (cs : List Char) : Option String := symbols.find? fun s => s.toList.isPrefixOf cs

/-- How deep brackets may be nested. -/
def maxBrackets : Nat := 200

/-- How many blocks may be open, the whole module among them. -/
def maxBlocks : Nat := 100

/-! ## Lines -/

/-- How far a line is indented, with a tabulator that reaches to the next multiple of eight
columns, and with one that is a single column wide. Both have to tell the same of two lines. -/
structure Margin where
  wide : Nat
  narrow : Nat
  deriving DecidableEq

namespace Margin

def zero : Margin := ⟨0, 0⟩

/-- The margin behind a blank; nothing if the character is none. -/
def after? (m : Margin) (c : Char) : Option Margin :=
  if c == ' ' then some ⟨m.wide + 1, m.narrow + 1⟩
  else if c == '\t' then some ⟨(m.wide / 8 + 1) * 8, m.narrow + 1⟩
  else if c.toNat == 12 then some zero
  else none

/-- The margin of a line, and the line from its first character that is no blank. A line that is
continued before that character has the margin of its first part, unless there is none. -/
def measure (m : Margin) (first : Nat) : List Char → Option (Margin × List Char)
  | '\\' :: '\n' :: c :: rest =>
    measure m (if first == 0 then m.wide else first) (c :: rest)
  | c :: rest =>
    match m.after? c with
    | some next => measure next first rest
    | none =>
      if c == '\\' then none else some (if first == 0 then m else ⟨first, first⟩, c :: rest)
  | [] => some (m, [])

end Margin

/-- What is read so far: the margins of the open blocks and the closing brackets that are
missing, innermost first, and the tokens, last one first. -/
structure Scan where
  margins : List Margin
  brackets : List Char
  tokens : List Token

namespace Scan

def push (s : Scan) (t : Token) : Scan := { s with tokens := t :: s.tokens }

/-- Closes the blocks that are deeper than a line, which has to fit one that was opened. -/
def closeBlocks (m : Margin) : List Margin → List Token → Option Scan
  | [], _ => none
  | top :: outer, tokens =>
    if m.wide < top.wide then closeBlocks m outer (.dedent :: tokens)
    else if m == top then some ⟨top :: outer, [], tokens⟩
    else none

/-- Opens or closes blocks at the start of a line. -/
def startLine (s : Scan) (m : Margin) : Option Scan :=
  let top := s.margins.headD .zero
  if top.wide < m.wide then
    if top.narrow < m.narrow && s.margins.length < maxBlocks then
      some { s with margins := m :: s.margins, tokens := .indent :: s.tokens }
    else none
  else closeBlocks m s.margins s.tokens

/-- Closes all blocks at the end. -/
def finish (s : Scan) : Option (List Token) :=
  if s.brackets.isEmpty then
    some (s.tokens.reverse ++ List.replicate (s.margins.length - 1) .dedent)
  else none

/-- Adds a symbol; a closing bracket has to fit the last open one. -/
def addSymbol (s : Scan) (c : Char) (text : String) : Option Scan :=
  let added := s.push (.symbol text)
  match TextLiteral.closing? c with
  | some close =>
    if s.brackets.length < maxBrackets then some { added with brackets := close :: s.brackets }
    else none
  | none =>
    if c == ')' || c == ']' || c == '\x7d' then
      match s.brackets with
      | close :: outer => if close == c then some { added with brackets := outer } else none
      | [] => none
    else some added

/-- Takes a name, a reserved word, or a text whose marks are one. -/
def addWord (s : Scan) (cs : List Char) : Option (Scan × List Char) :=
  let word := cs.takeWhile Numeral.joinsNames
  let after := cs.drop word.length
  let quoted := after.head? == some '"' || after.head? == some '\''
  match (if quoted then Marks.ofLetters? word else none) with
  | some marks => (TextLiteral.take? marks after).map fun (t, rest) => (s.push (.text t), rest)
  | none =>
    if Text.isIdentifierList word then some (s.push (ofWord (String.ofList word)), after) else none

/-- Takes the token that starts with the first of some characters, which is no blank. -/
def addToken (s : Scan) (c : Char) (rest : List Char) : Option (Scan × List Char) :=
  if c.isDigit || (c == '.' && rest.head?.any Char.isDigit) then
    (Numeral.take? (c :: rest)).map fun (imaginary, after) => (s.push (.number imaginary), after)
  else if Numeral.joinsNames c || c == '"' || c == '\'' then s.addWord (c :: rest)
  else do
    let text ← symbol? (c :: rest)
    let added ← s.addSymbol c text
    return (added, rest.drop (text.length - 1))

end Scan

/-- Cuts text into tokens. `start` tells whether a line starts here. -/
def scan : Nat → Bool → Scan → List Char → Option (List Token)
  | 0, _, _, _ => none
  | _, _, s, [] => s.finish
  | fuel + 1, true, s, cs =>
    match Margin.zero.measure 0 cs with
    | none => none
    | some (_, []) => s.finish
    | some (_, '\n' :: rest) => scan fuel true s rest
    | some (_, '#' :: rest) => scan fuel true s ((rest.dropWhile (· != '\n')).drop 1)
    | some (m, rest) => (s.startLine m).bind fun started => scan fuel false started rest
  | fuel + 1, false, s, c :: rest =>
    if (Margin.zero.after? c).isSome then scan fuel false s rest
    else if c == '#' then scan fuel false s (rest.dropWhile (· != '\n'))
    else if c == '\n' then
      if s.brackets.isEmpty then scan fuel true (s.push .newline) rest else scan fuel false s rest
    else if c == '\\' then
      match rest with
      | '\n' :: d :: more => scan fuel false s (d :: more)
      | _ => none
    else (s.addToken c rest).bind fun (added, rest) => scan fuel false added rest

/-- Line ends of every kind as newlines, with one at the end. After a carriage return and a newline
at the end there is one more, so that a last line that ends with them can be continued. -/
def unifyNewlines : List Char → List Char
  | [] => []
  | ['\r', '\n'] => ['\n', '\n']
  | '\r' :: '\n' :: rest => '\n' :: unifyNewlines rest
  | [c] => if c == '\n' || c == '\r' then ['\n'] else [c, '\n']
  | c :: rest => (if c == '\r' then '\n' else c) :: unifyNewlines rest

/-- The tokens of a module; nothing if it cannot be cut into tokens. Every step takes at least
one character or starts a line, so twice their number of steps is enough. -/
def ofList? (cs : List Char) : Option (List Token) :=
  let lines := unifyNewlines cs
  scan (2 * lines.length + 2) true ⟨[.zero], [], []⟩ lines

theorem ofList?_nil : ofList? [] = some [] := by rfl

end Token
end WireModel.Output
