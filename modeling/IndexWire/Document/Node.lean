import IndexWire.Document.Token

/-!
# Nodes

A document as a tree: scalars, sequences and mappings. `Node.ofTokens` reads the tree of the only
document in a sequence of tokens; a name that stands for a node named before becomes that node.
-/

namespace IndexWire

namespace Document

inductive Node where
  /-- A scalar; what a plain one means depends on its content. -/
  | scalar (content : Text) (isPlain : Bool)
  | sequence (items : List Node)
  | mapping (pairs : List (Node × Node))

namespace Node

instance : Inhabited Node := ⟨scalar [] true⟩

/-- The scalar that stands where nothing is written. -/
def blank : Node := scalar [] true

/-- The tokens to be read, and the nodes that have names. -/
structure Reading where
  tokens : List Token
  /-- Why there are no more tokens, where that is not the end of the text. -/
  failure : Option Error
  /-- The nodes that have names, and the names of nodes that are being read. -/
  named : List (Text × Option Node) := []

abbrev Reader := StateT Reading (Except Error)

/-- The next token; where there should be one and none could be read, that is the reason to fail. -/
def peek : Reader (Option Token) := do
  match (← get).tokens, (← get).failure with
  | token :: _, _ => return some token
  | [], none => return none
  | [], some failure => throw failure

def drop : Reader Unit := modify fun reading => { reading with tokens := reading.tokens.tail }

/-- Moves over the next token if it is the given one, and tells whether it was. -/
def accept (token : Token) : Reader Bool := do
  if (← peek) = some token then
    drop
    return true
  else return false

/-- Moves over the next token, which has to be the given one. -/
def expect (token : Token) : Reader Unit := do
  if !(← accept token) then throw .malformed

/-- Whether the next token is one of the given ones. -/
def atAny (tokens : List Token) : Reader Bool := do
  match ← peek with
  | some token => return tokens.contains token
  | none => return false

/-- What is said of a node before it: a name and a tag. -/
structure Properties where
  name : Option Text := none
  tag : Option Text := none

/-- Reads a name and a tag in either order. -/
def properties : Reader Properties := do
  let anchor : Reader (Option Text) := do
    match ← peek with
    | some (.anchor name) => drop; return some name
    | _ => return none
  let tag : Reader (Option Text) := do
    match ← peek with
    | some (.tag name) => drop; return some name
    | _ => return none
  match ← anchor with
  | some name => return { name, tag := ← tag }
  | none =>
    match ← tag with
    | some found => return { name := ← anchor, tag := some found }
    | none => return {}

def lookUp (name : Text) : Reader Node := do
  match ((← get).named.find? fun entry => entry.1 = name).bind Prod.snd with
  | some node => return node
  | none => throw .malformed

/-- Notes that a node with a name is being read; no two nodes have one name. -/
def reserve (name : Option Text) : Reader Unit := do
  match name with
  | none => return
  | some name =>
    if (← get).named.any fun entry => entry.1 = name then throw .malformed
    modify fun reading => { reading with named := (name, none) :: reading.named }

/-- Gives a node the name that is said of it. -/
def remember (name : Option Text) (node : Node) : Reader Node := do
  match name with
  | none => return node
  | some name =>
    modify fun reading => { reading with named := (name, some node) :: reading.named }
    return node

/-- The scalar with a tag: the tag of texts makes a text of it, any other has no meaning here. -/
def tagged (tag : Option Text) (node : Node) : Reader Node := do
  match tag, node with
  | none, node => return node
  | some name, .scalar content _ =>
    if name = Text.ofString "!" then return .scalar content true
    else if name = Text.ofString "!!str" then return .scalar content false
    else throw .malformed
  | some name, node => if name = Text.ofString "!" then return node else throw .malformed

mutual

/-- Reads a node. Only in a block may it be told by indentation, or be a sequence that has none. -/
def node (inBlock allowsBare : Bool) : (fuel : Nat) → Reader Node
  | 0 => throw .malformed
  | fuel + 1 => do
    if let some (.alias name) ← peek then
      drop
      return ← lookUp name
    let said ← properties
    reserve said.name
    let found ← do
      match ← peek with
      | some .blockEntry =>
        if allowsBare then
          pure (some (.sequence (← entries true fuel)))
        else pure none
      | some (.scalar content isPlain) => drop; pure (some (.scalar content isPlain))
      | some .flowSequenceStart => drop; pure (some (.sequence (← flowItems true fuel)))
      | some .flowMappingStart => drop; pure (some (.mapping (← flowPairs true fuel)))
      | some .blockSequenceStart =>
        if inBlock then drop; pure (some (.sequence (← entries false fuel))) else pure none
      | some .blockMappingStart =>
        if inBlock then drop; pure (some (.mapping (← blockPairs fuel))) else pure none
      | _ => pure none
    match found with
    | some node => remember said.name (← tagged said.tag node)
    | none =>
      if said.name.isSome || said.tag.isSome then remember said.name (← tagged said.tag blank)
      else throw .malformed

/-- Reads the entries after dashes; `isBare` tells that no token closes them. -/
def entries (isBare : Bool) : (fuel : Nat) → Reader (List Node)
  | 0 => throw .malformed
  | fuel + 1 => do
    if ← accept .blockEntry then
      let ends :=
        if isBare then [.blockEntry, .key, .value, .blockEnd] else [.blockEntry, .blockEnd]
      let item ← if ← atAny ends then pure blank else node true false fuel
      return item :: (← entries isBare fuel)
    else
      if !isBare then expect .blockEnd
      return []

/-- Reads the pairs of a mapping that is told by indentation. -/
def blockPairs : (fuel : Nat) → Reader (List (Node × Node))
  | 0 => throw .malformed
  | fuel + 1 => do
    if ← accept .key then
      let part : Reader Node := do
        if ← atAny [.key, .value, .blockEnd] then pure blank else node true true fuel
      let key ← part
      let value ← if ← accept .value then part else pure blank
      return (key, value) :: (← blockPairs fuel)
    else
      expect .blockEnd
      return []

/-- Reads the items between brackets, with a comma before each but the first. -/
def flowItems (isFirst : Bool) : (fuel : Nat) → Reader (List Node)
  | 0 => throw .malformed
  | fuel + 1 => do
    if ← accept .flowSequenceEnd then return []
    if !isFirst then
      expect .flowEntry
      if ← accept .flowSequenceEnd then return []
    let item ←
      if ← accept .key then
        let key ←
          if ← atAny [.value, .flowEntry, .flowSequenceEnd] then pure blank
          else node false false fuel
        let value ← flowValue .flowSequenceEnd fuel
        pure (.mapping [(key, value)])
      else node false false fuel
    return item :: (← flowItems false fuel)

/-- Reads the pairs between braces, with a comma before each but the first. -/
def flowPairs (isFirst : Bool) : (fuel : Nat) → Reader (List (Node × Node))
  | 0 => throw .malformed
  | fuel + 1 => do
    if ← accept .flowMappingEnd then return []
    if !isFirst then
      expect .flowEntry
      if ← accept .flowMappingEnd then return []
    let pair ←
      if ← accept .key then
        let key ←
          if ← atAny [.value, .flowEntry, .flowMappingEnd] then pure blank
          else node false false fuel
        let value ← flowValue .flowMappingEnd fuel
        pure (key, value)
      else
        let key ← node false false fuel
        pure (key, blank)
    return pair :: (← flowPairs false fuel)

/-- Reads the value of a pair between brackets or braces. -/
def flowValue (close : Token) : (fuel : Nat) → Reader Node
  | 0 => throw .malformed
  | fuel + 1 => do
    if ← accept .value then
      if ← atAny [.flowEntry, close] then pure blank else node false false fuel
    else pure blank

end

/-- Moves over tokens that end a document. -/
def skipDocumentEnds : (fuel : Nat) → Reader Unit
  | 0 => return
  | fuel + 1 => do if ← accept .documentEnd then skipDocumentEnds fuel

/-- Reads the lines that direct how the document is read. -/
def directives : (fuel : Nat) → Reader (List Directive)
  | 0 => return []
  | fuel + 1 => do
    match ← peek with
    | some (.directive found) =>
      drop
      return found :: (← directives fuel)
    | _ => return []

/-- Reads the lines before a document that has some; gives no document where nothing follows. -/
def opening (fuel : Nat) : Reader Bool := do
  let found ← directives fuel
  if !Directive.agree found then throw .malformed
  if (← peek).isNone && found.isEmpty then return false
  expect .documentStart
  return true

/-- Whether a directive comes next, or the end of the tokens. -/
def atDirectiveOrEnd : Reader Bool := do
  match ← peek with
  | some (.directive _) => return true
  | found => return found.isNone

/-- Reads the only document, if there is one, to the end of the tokens. -/
def document (fuel : Nat) : Reader (Option Node) := do
  let root ← do
    if (← atDirectiveOrEnd) || (← atAny [.documentStart]) then
      if !(← opening fuel) then return none
      if (← atDirectiveOrEnd) || (← atAny [.documentStart, .documentEnd]) then pure blank
      else node true false fuel
    else node true false fuel
  skipDocumentEnds fuel
  if (← peek).isSome then throw .malformed
  return some root

/--
The tree of the only document in a sequence of tokens; there is none if there are no tokens. Tokens
that do not make a tree are found before a failure to read the tokens after them.
-/
def ofTokens (tokens : List Token) (failure : Option Error) : Except Error (Option Node) :=
  (·.1) <$> (document (2 * tokens.length + 4)).run { tokens, failure }

end Node

end Document

end IndexWire
