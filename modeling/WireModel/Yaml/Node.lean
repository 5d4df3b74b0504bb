import WireModel.Yaml.Token

/-!
# The tree of a YAML text

Tokens grouped into sequences and mappings. An anchor names the node behind it for the rest of
the document, and an alias stands for that node. An alias inside the node itself is a knot, since
what it stands for is not complete; where entries are merged, the complete node replaces the knot
once.
-/

namespace WireModel.Yaml

/-- A node: a scalar, plain or not, or a collection. -/
inductive Node where
  | scalar (plain : Bool) (text : String)
  | sequence (items : List Node)
  | mapping (entries : List (Node × Node))
  /-- A mapping, or a sequence, at a place within itself, with the name of its anchor. -/
  | knot (mapping : Bool) (anchor : String)

/-- The scalar of a place that holds none. -/
def Node.empty : Node := .scalar true ""

/-- The tokens that are left, and the nodes that anchors name; for a node that is not complete
yet its knot. -/
structure Grouping where
  tokens : List Token
  anchors : List (String × Node) := []

abbrev Group := StateT Grouping (Except Fault)

namespace Group

def fail {α : Type} : Group α := throw .malformed

/-- The next token. -/
def peek : Group (Option Token) := do
  match (← get).tokens.head? with
  | some (.noCharacter code) => throw (.noCharacter code)
  | token => return token

def drop : Group Unit := modify fun s => { s with tokens := s.tokens.drop 1 }

/-- Drops the next token if it is the given one, and says whether it was. -/
def accept (t : Token) : Group Bool := do
  if (← peek) = some t then
    drop
    return true
  else return false

/-- Whether the next token is one of the given ones. -/
def sees (ts : List Token) : Group Bool := do
  return (← peek).any ts.contains

def expect (t : Token) : Group Unit := do
  unless ← accept t do fail

def named (name : String) : Group Node := do
  match (← get).anchors.lookup name with
  | some node => return node
  | none => fail

/-- Gives a name to a node. -/
def define (name : String) (node : Node) : Group Unit :=
  modify fun s => { s with anchors := (name, node) :: s.anchors }

/-- Gives a name that no other node has to the knot of the node that follows. -/
def reserve (name : String) : Group Unit := do
  if (← get).anchors.any (·.1 == name) then fail
  define name (.knot (← sees [.flowMappingStart, .blockMappingStart]) name)

end Group

/-- Where a node may stand: in a flow collection, in a block, or after a key, where the dashes
of a sequence need no deeper column. -/
inductive Place where
  | flow
  | block
  | afterKey
  deriving DecidableEq

open Group

mutual

/-- Groups a node. The number of tokens bounds the depth of the recursion. -/
def node : Nat → Place → Group Node
  | 0, _ => fail
  | fuel + 1, place => do
    match ← peek with
    | some (.aliasOf name) =>
      drop
      named name
    | some (.anchor name) =>
      drop
      reserve name
      let result ← content fuel place true
      define name result
      return result
    | _ => content fuel place false

/-- Groups a node behind its anchor, if it has one. -/
def content : Nat → Place → Bool → Group Node
  | 0, _, _ => fail
  | fuel + 1, place, anchored => do
    match ← peek with
    | some (.scalar plain text) =>
      drop
      return .scalar plain text
    | some .flowSequenceStart =>
      drop
      return .sequence (← flowItems fuel true)
    | some .flowMappingStart =>
      drop
      return .mapping (← flowEntries fuel true)
    | some .blockSequenceStart =>
      if place = .flow then absent anchored
      else
        drop
        return .sequence (← blockItems fuel)
    | some .blockMappingStart =>
      if place = .flow then absent anchored
      else
        drop
        return .mapping (← blockEntries fuel)
    | some .blockEntry =>
      if place = .afterKey then return .sequence (← shallowItems fuel) else absent anchored
    | _ => absent anchored

/-- Groups a node, or the empty scalar if one of the given tokens comes next. -/
def nodeUnless : Nat → Place → List Token → Group Node
  | 0, _, _ => fail
  | fuel + 1, place, stops => do
    if ← sees stops then return .empty else node fuel place

/-- The items of a block sequence, up to its end. -/
def blockItems : Nat → Group (List Node)
  | 0 => fail
  | fuel + 1 => do
    if ← accept .blockEntry then
      let item ← nodeUnless fuel .block [.blockEntry, .blockEnd]
      return item :: (← blockItems fuel)
    else
      expect .blockEnd
      return []

/-- The items of a sequence whose dashes are no deeper than the key in front of it. -/
def shallowItems : Nat → Group (List Node)
  | 0 => fail
  | fuel + 1 => do
    if ← accept .blockEntry then
      let item ← nodeUnless fuel .block [.blockEntry, .key, .value, .blockEnd]
      return item :: (← shallowItems fuel)
    else return []

/-- The entries of a block mapping, up to its end. -/
def blockEntries : Nat → Group (List (Node × Node))
  | 0 => fail
  | fuel + 1 => do
    if ← accept .key then
      let key ← nodeUnless fuel .afterKey [.key, .value, .blockEnd]
      let value ← blockValue fuel
      return (key, value) :: (← blockEntries fuel)
    else
      expect .blockEnd
      return []

/-- The value of a block mapping's entry. -/
def blockValue : Nat → Group Node
  | 0 => fail
  | fuel + 1 => do
    if ← accept .value then nodeUnless fuel .afterKey [.key, .value, .blockEnd]
    else return .empty

/-- The items of a flow sequence, up to its end; an item with a key is a mapping of its own. -/
def flowItems : Nat → Bool → Group (List Node)
  | 0, _ => fail
  | fuel + 1, first => do
    if ← accept .flowSequenceEnd then return []
    else
      unless first do expect .flowEntry
      if ← accept .key then
        let key ← nodeUnless fuel .flow [.value, .flowEntry, .flowSequenceEnd]
        let value ← flowValue fuel [.flowEntry, .flowSequenceEnd]
        return .mapping [(key, value)] :: (← flowItems fuel false)
      else if ← accept .flowSequenceEnd then return []
      else
        let item ← node fuel .flow
        return item :: (← flowItems fuel false)

/-- The entries of a flow mapping, up to its end. -/
def flowEntries : Nat → Bool → Group (List (Node × Node))
  | 0, _ => fail
  | fuel + 1, first => do
    if ← accept .flowMappingEnd then return []
    else
      unless first do expect .flowEntry
      if ← accept .key then
        let key ← nodeUnless fuel .flow [.value, .flowEntry, .flowMappingEnd]
        let value ← flowValue fuel [.flowEntry, .flowMappingEnd]
        return (key, value) :: (← flowEntries fuel false)
      else if ← accept .flowMappingEnd then return []
      else
        let key ← node fuel .flow
        return (key, .empty) :: (← flowEntries fuel false)

/-- The value of an entry in a flow collection. -/
def flowValue : Nat → List Token → Group Node
  | 0, _ => fail
  | fuel + 1, stops => do
    if ← accept .value then nodeUnless fuel .flow stops else return .empty

/-- What stands where no node does: the empty scalar if it has an anchor. -/
def absent (anchored : Bool) : Group Node := if anchored then return .empty else fail

end

/-- Drops the marks at the end of a document; nothing may follow them. -/
def endOfText : Group Unit := do
  let s ← get
  let rest := s.tokens.dropWhile (· = .documentEnd)
  unless rest.isEmpty do fail

/-- The node of a text that holds one document; a text without any holds none. -/
def document (fuel : Nat) : Group (Option Node) := do
  match ← peek with
  | none => return none
  | some .documentStart =>
    drop
    let next ← peek
    let root ←
      if next.isNone || next = some .documentStart || next = some .documentEnd then pure .empty
      else node fuel .block
    endOfText
    return some root
  | _ =>
    let root ← node fuel .block
    endOfText
    return some root

/-! ## Knots whose entries are merged -/

/-- The node that a knot stands for. -/
def Node.complete (anchors : List (String × Node)) : Node → Node
  | .knot isMapping anchor => (anchors.lookup anchor).getD (.knot isMapping anchor)
  | n => n

mutual

/-- Replaces the knots in a node whose entries are merged. -/
def Node.untied (anchors : List (String × Node)) : Node → Node
  | .sequence items => .sequence (untiedItems anchors items)
  | .mapping entries => .mapping (untiedEntries anchors entries)
  | n => n

def Node.untiedItems (anchors : List (String × Node)) : List Node → List Node
  | [] => []
  | n :: rest => n.untied anchors :: untiedItems anchors rest

def Node.untiedEntries (anchors : List (String × Node)) :
    List (Node × Node) → List (Node × Node)
  | [] => []
  | (.scalar true "<<", .sequence items) :: rest =>
    (.scalar true "<<", .sequence ((untiedItems anchors items).map (·.complete anchors))) ::
      untiedEntries anchors rest
  | (.scalar true "<<", n) :: rest =>
    (.scalar true "<<", (n.untied anchors).complete anchors) :: untiedEntries anchors rest
  | (k, n) :: rest => (k.untied anchors, n.untied anchors) :: untiedEntries anchors rest

end

/-- The node that tokens make up. -/
def Node.ofTokens (tokens : List Token) : Except Fault (Option Node) :=
  ((document (4 * tokens.length + 4)).run { tokens := tokens }).map fun (root, rest) =>
    root.map (·.untied rest.anchors)

end WireModel.Yaml
