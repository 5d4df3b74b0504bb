import WireModel.Yaml.Scalar

/-!
# Tokens of YAML text

Block structure becomes explicit in the tokens: a deeper column opens a block and a shallower
one closes it. What may turn out to be a key is remembered until a colon confirms it; then
the tokens that open a mapping are put in front of it. A key that has to be one and is not
confirmed makes the text malformed.
-/

namespace WireModel.Yaml

/-- A token. -/
inductive Token where
  | documentStart
  | documentEnd
  | blockSequenceStart
  | blockMappingStart
  | blockEnd
  | flowSequenceStart
  | flowSequenceEnd
  | flowMappingStart
  | flowMappingEnd
  | flowEntry
  | blockEntry
  | key
  | value
  | anchor (name : String)
  | aliasOf (name : String)
  | scalar (plain : Bool) (text : String)
  /-- A scalar with a code that no character has. Nothing behind it is read. -/
  | noCharacter (code : Nat)
  deriving DecidableEq

/-- Something that may turn out to be a key. -/
structure Candidate where
  /-- The number of tokens in front of it. -/
  place : Nat
  required : Bool
  index : Nat
  line : Nat
  column : Nat

/-- The state of the scan. Candidates are kept per flow level. -/
structure Scan where
  cursor : Cursor
  tokens : Array Token := #[]
  indent : Int := -1
  outer : List Int := []
  flowLevel : Nat := 0
  keyAllowed : Bool := true
  candidates : List (Nat × Candidate) := []

namespace Scan

def inFlow (s : Scan) : Bool := s.flowLevel != 0

def push (s : Scan) (t : Token) : Scan := { s with tokens := s.tokens.push t }

/-! ## Candidates -/

/-- Whether a candidate can no longer be a key: it is on another line, or too far behind. -/
def isStale (s : Scan) (k : Candidate) : Bool :=
  k.line != s.cursor.line || 1024 < s.cursor.index - k.index

/-- Forgets candidates that can no longer be keys. -/
def dropStale (s : Scan) : Option Scan :=
  if s.candidates.any fun (_, k) => s.isStale k && k.required then none
  else some { s with candidates := s.candidates.filter fun (_, k) => !s.isStale k }

/-- Forgets the candidate of this flow level. -/
def dropCandidate (s : Scan) : Option Scan :=
  match s.candidates.lookup s.flowLevel with
  | none => some s
  | some k =>
    if k.required then none
    else some { s with candidates := s.candidates.filter (·.1 != s.flowLevel) }

/-- Remembers that a key may start here. -/
def saveCandidate (s : Scan) : Option Scan :=
  if s.keyAllowed then
    s.dropCandidate.map fun s =>
      let required := !s.inFlow && s.indent == (s.cursor.column : Int)
      let k : Candidate :=
        ⟨s.tokens.size, required, s.cursor.index, s.cursor.line, s.cursor.column⟩
      { s with candidates := (s.flowLevel, k) :: s.candidates }
  else some s

/-! ## Indentation -/

/-- Closes the blocks that are deeper than a column. -/
def unwindTo (column : Int) : List Int → Scan → Scan
  | [], s => s
  | i :: outer, s =>
    if column < s.indent then
      unwindTo column outer { s.push .blockEnd with indent := i, outer := outer }
    else s

/-- Closes the blocks that are deeper than a column, outside of flow collections. -/
def unwind (s : Scan) (column : Int) : Scan :=
  if s.inFlow then s else unwindTo column s.outer s

/-- Opens a block at a column that is deeper than the current one. -/
def openBlock (s : Scan) (column : Int) (t : Token) : Scan :=
  if s.indent < column then { s.push t with indent := column, outer := s.indent :: s.outer }
  else s

/-! ## Single tokens -/

/-- Adds the token of an indicator and goes past it. -/
def indicator (s : Scan) (t : Token) (length : Nat) (keyAllowed : Bool) : Scan :=
  { s.push t with cursor := s.cursor.skip length, keyAllowed := keyAllowed }

def documentMark (s : Scan) (t : Token) : Option Scan :=
  (s.unwind (-1)).dropCandidate.map fun s => s.indicator t 3 false

def openFlow (s : Scan) (t : Token) : Option Scan :=
  s.saveCandidate.map fun s =>
    let s := s.indicator t 1 true
    { s with flowLevel := s.flowLevel + 1 }

def closeFlow (s : Scan) (t : Token) : Option Scan :=
  if s.flowLevel = 0 then none
  else
    s.dropCandidate.map fun s =>
      let s := s.indicator t 1 false
      { s with flowLevel := s.flowLevel - 1 }

def flowEntry (s : Scan) : Option Scan :=
  s.dropCandidate.map fun s => s.indicator .flowEntry 1 true

/-- The dash of a block sequence. -/
def blockEntry (s : Scan) : Option Scan :=
  if !s.inFlow && !s.keyAllowed then none
  else
    let s := if s.inFlow then s else s.openBlock s.cursor.column .blockSequenceStart
    s.dropCandidate.map fun s => s.indicator .blockEntry 1 true

/-- The question mark of an explicit key. -/
def explicitKey (s : Scan) : Option Scan :=
  if !s.inFlow && !s.keyAllowed then none
  else
    let s := if s.inFlow then s else s.openBlock s.cursor.column .blockMappingStart
    s.dropCandidate.map fun s => s.indicator .key 1 (!s.inFlow)

/-- Puts tokens in front of a candidate that turned out to be a key. -/
def confirm (s : Scan) (k : Candidate) : Scan :=
  let s := { s with candidates := s.candidates.filter (·.1 != s.flowLevel) }
  let opens := !s.inFlow && s.indent < (k.column : Int)
  let front := if opens then #[Token.blockMappingStart, .key] else #[.key]
  let tokens := s.tokens.extract 0 k.place ++ front ++ s.tokens.extract k.place s.tokens.size
  if opens then { s with tokens := tokens, indent := k.column, outer := s.indent :: s.outer }
  else { s with tokens := tokens }

/-- The colon in front of a value. -/
def valueMark (s : Scan) : Option Scan :=
  match s.candidates.lookup s.flowLevel with
  | some k => some ((s.confirm k).indicator .value 1 false)
  | none =>
    if !s.inFlow && !s.keyAllowed then none
    else
      let s := if s.inFlow then s else s.openBlock s.cursor.column .blockMappingStart
      s.dropCandidate.map fun s => s.indicator .value 1 (!s.inFlow)

/-- Characters of anchor names. -/
def isNameChar (c : Char) : Bool := c.isAlphanum || c == '-' || c == '_'

/-- An anchor or an alias. -/
def name (s : Scan) (token : String → Token) : Option Scan := do
  let s ← s.saveCandidate
  let (cs, after) := s.cursor.next.takeWhile isNameChar
  let following := after.peek
  if cs.isEmpty || !(isSpaceOrEnd following || "?:,]\x7d%@".toList.contains following ||
      following.toNat == 0x60) then none
  else some { s.push (token (String.ofList cs)) with cursor := after, keyAllowed := false }

def blockScalar (s : Scan) (folded : Bool) : Option Scan := do
  let s ← s.dropCandidate
  let (text, after) ← (Yaml.blockScalar folded s.indent s.cursor).toOption
  some { s.push (.scalar false (String.ofList text)) with cursor := after, keyAllowed := true }

def quoted (s : Scan) (double : Bool) : Option Scan := do
  let s ← s.saveCandidate
  match quotedScalar double s.cursor with
  | .ok (text, after) =>
    some { s.push (.scalar false (String.ofList text)) with cursor := after, keyAllowed := false }
  | .error (.noCharacter code) => some (s.push (.noCharacter code))
  | .error _ => none

def plain (s : Scan) : Option Scan :=
  s.saveCandidate.map fun s =>
    let read := plainScalar s.inFlow (s.indent + 1) s.cursor
    { s.push (.scalar true (String.ofList read.text)) with
      cursor := read.after, keyAllowed := read.broken }

/-! ## The scan -/

/-- Characters that no plain scalar starts with unless text follows at once. -/
def isIndicator (c : Char) : Bool :=
  "-?:,[]\x7b\x7d#&*!|>'\"%@".toList.contains c || c.toNat == 0x60

/-- Whether a plain scalar starts here. -/
def startsPlain (s : Scan) : Bool :=
  let c := s.cursor.peek
  !(isSpaceOrEnd c || isIndicator c) ||
    (!isSpaceOrEnd (s.cursor.peek 1) && (c == '-' || (!s.inFlow && (c == '?' || c == ':'))))

/-- Goes to the next token, past blanks, comments and line ends. -/
def toNextToken : Nat → Scan → Scan
  | 0, s => s
  | fuel + 1, s =>
    let c := s.cursor.skipWhile (· == ' ')
    let c := if c.peek == '#' then c.skipWhile (!isBreakOrEnd ·) else c
    if isBreak c.peek then
      toNextToken fuel { s with cursor := c.takeBreak.2, keyAllowed := s.keyAllowed || !s.inFlow }
    else { s with cursor := c }

/-- Takes one token at a cursor that stands on it. -/
def take (s : Scan) : Option Scan :=
  let c := s.cursor
  let ch := c.peek
  let separate := isSpaceOrEnd (c.peek 1)
  if c.column == 0 && c.atSeparator then
    s.documentMark (if ch == '-' then .documentStart else .documentEnd)
  else if ch == '[' then s.openFlow .flowSequenceStart
  else if ch == '\x7b' then s.openFlow .flowMappingStart
  else if ch == ']' then s.closeFlow .flowSequenceEnd
  else if ch == '\x7d' then s.closeFlow .flowMappingEnd
  else if ch == ',' then s.flowEntry
  else if ch == '-' && separate then s.blockEntry
  else if ch == '?' && (s.inFlow || separate) then s.explicitKey
  else if ch == ':' && (s.inFlow || separate) then s.valueMark
  else if ch == '*' then s.name .aliasOf
  else if ch == '&' then s.name .anchor
  else if ch == '|' && !s.inFlow then s.blockScalar false
  else if ch == '>' && !s.inFlow then s.blockScalar true
  else if ch == '\'' then s.quoted false
  else if ch == '"' then s.quoted true
  else if s.startsPlain then s.plain
  else none

/-- Whether the last token is one behind which nothing is read. -/
def isBroken (s : Scan) : Bool :=
  match s.tokens.back? with
  | some (.noCharacter _) => true
  | _ => false

/-- Takes tokens up to the end of the text. -/
def run : Nat → Scan → Option (List Token)
  | 0, _ => none
  | fuel + 1, s =>
    if s.isBroken then some s.tokens.toList
    else match (toNextToken (s.cursor.rest.length + 1) s).dropStale with
    | none => none
    | some s =>
      let s := s.unwind s.cursor.column
      if s.cursor.rest.isEmpty then (s.unwind (-1)).dropCandidate.map (·.tokens.toList)
      else
        match s.take with
        | none => none
        | some s => run fuel s

end Scan

/-- The tokens of a text, a byte order mark in front of it left out. -/
def tokens? (text : List Char) : Option (List Token) :=
  if text.all isAllowed then
    let start : Cursor := ⟨text, 0, 0, 0⟩
    let start := if start.peek.toNat == 0xFEFF then start.next else start
    Scan.run (text.length + 1) { cursor := start }
  else none

end WireModel.Yaml
