import IndexWire.Document.Scalar

/-!
# Tokens

A document as a sequence of tokens. Indentation becomes tokens that open and close blocks. A key is
recognised only at the colon after it, so the place where a key may have begun is remembered, and
its token is put there afterwards.
-/

namespace IndexWire

namespace Document

/-- What a line says that directs how the document is read. -/
inductive Directive where
  /-- The version of the format, by the first of its two numbers. -/
  | version (major : Nat)
  /-- What a handle of tags stands for. -/
  | handle (name : Text)
  | other
deriving DecidableEq

inductive Token where
  /-- A line that directs how the document is read. -/
  | directive (directive : Directive)
  /-- Three dashes. -/
  | documentStart
  /-- Three dots. -/
  | documentEnd
  /-- The first entry of a sequence that is told by indentation. -/
  | blockSequenceStart
  /-- The first key of a mapping that is told by indentation. -/
  | blockMappingStart
  /-- The end of an indentation. -/
  | blockEnd
  /-- An opening bracket. -/
  | flowSequenceStart
  /-- A closing bracket. -/
  | flowSequenceEnd
  /-- An opening brace. -/
  | flowMappingStart
  /-- A closing brace. -/
  | flowMappingEnd
  /-- A dash before an entry. -/
  | blockEntry
  /-- A comma. -/
  | flowEntry
  /-- A question mark before a key, or the place of a key that has none. -/
  | key
  /-- A colon before a value. -/
  | value
  /-- A name that stands for a node named before. -/
  | alias (name : Text)
  /-- A name for the next node. -/
  | anchor (name : Text)
  /-- The tag of the next node. -/
  | tag (name : Text)
  | scalar (content : Text) (isPlain : Bool)
deriving DecidableEq

/-- Why a text is not a document. -/
abbrev Error := Quoted.Error

def isDigit (number : Nat) : Bool := 0x30 ≤ number && number ≤ 0x39

/-- Whether a number is that of a character of names: a letter, a digit, a dash or a low line. -/
def isNamePart (number : Nat) : Bool :=
  isDigit number || (0x41 ≤ number && number ≤ 0x5A) || (0x61 ≤ number && number ≤ 0x7A)
    || among "-_" number

namespace Directive

/-- Reads two numbers with a point between them. -/
def version? (cursor : Cursor) : Option (Directive × Cursor) :=
  let (major, cursor) := cursor.span isDigit
  let (minor, after) := cursor.step.span isDigit
  if major.isEmpty || minor.isEmpty || !among "." (cursor.peek 0) then none
  else
    let number := major.foldl (fun number digit => number * 10 + (digit.value - 0x30)) 0
    some (.version number, after)

/-- Reads a handle between exclamation marks, or one of them alone, and the text it stands for. -/
def handle? (cursor : Cursor) : Option (Directive × Cursor) :=
  let (name, closing) := cursor.step.span isNamePart
  let isAlone := name.isEmpty && closing.peek 0 = 0x20
  let after := if isAlone then closing else closing.step
  let meaning := after.skip (· = 0x20)
  let rest := meaning.skip fun number =>
    isNamePart number || among ";/?:@&=+$,.!~*'()[]%" number
  if !among "!" (cursor.peek 0) || !(isAlone || among "!" (closing.peek 0))
      || after.peek 0 ≠ 0x20 || rest.index = meaning.index then
    none
  else some (.handle (if isAlone then name else name ++ Text.ofString "!"), rest)

/-- Reads what stands on a line after a percent sign, up to a comment or the end of the line. -/
def read? (cursor : Cursor) : Option (Directive × Cursor) := do
  let endsWord (cursor : Cursor) : Bool := cursor.peek 0 = 0x20 || isBreakOrEnd (cursor.peek 0)
  let (name, cursor) := cursor.span isNamePart
  if name.isEmpty || !endsWord cursor then none
  else
    let content := cursor.skip (· = 0x20)
    let (directive, cursor) ←
      if Text.is name "YAML" then version? content
      else if Text.is name "TAG" then handle? content
      else some (.other, content.skip (!isBreakOrEnd ·))
    let last := cursor.skip (· = 0x20)
    let last := if among "#" (last.peek 0) then last.skip (!isBreakOrEnd ·) else last
    if endsWord cursor && isBreakOrEnd (last.peek 0) then some (directive, last) else none

def isVersion : Directive → Bool
  | version _ => true
  | _ => false

/-- Whether directives may stand together: none is told twice, and the version is a first one. -/
def agree (directives : List Directive) : Bool :=
  let told := directives.filter (· ≠ other)
  told.Nodup && (told.filter isVersion).all (· = version 1) && (told.filter isVersion).length ≤ 1

end Directive

/-- A place where a key may have begun. -/
structure KeyPlace where
  /-- The number of tokens before it. -/
  token : Nat
  /-- Whether nothing but a key can stand there. -/
  isRequired : Bool
  cursor : Cursor

/-- The tokens read so far, and what the next ones depend on. -/
structure Lexer where
  cursor : Cursor
  /-- The tokens read so far, last first. -/
  taken : List Token := []
  /-- How many tokens have been read so far. -/
  count : Nat := 0
  /-- The column of the innermost block; less than zero outside of all blocks. -/
  indent : Int := -1
  /-- The columns of the blocks around it. -/
  outer : List Int := []
  /-- How many brackets and braces are open. -/
  flow : Nat := 0
  /-- Whether a key may begin here. -/
  allowsKey : Bool := true
  /-- The place where a key may have begun, for each number of open brackets and braces. -/
  keys : List (Nat × KeyPlace) := []

/-- The outcome of reading a token. -/
abbrev Reading := Except Error Lexer

namespace Lexer

/-- Adds a token after a number of tokens. -/
def insert (lexer : Lexer) (place : Nat) (token : Token) : Lexer :=
  { lexer with
    taken := lexer.taken.insertIdx (lexer.count - place) token
    count := lexer.count + 1 }

def push (lexer : Lexer) (token : Token) : Lexer := lexer.insert lexer.count token

/-- Adds a token of a number of code points. -/
def take (lexer : Lexer) (length : Nat) (token : Token) : Lexer :=
  { lexer.push token with cursor := lexer.cursor.advance length }

def tokens (lexer : Lexer) : List Token := lexer.taken.reverse

def inFlow (lexer : Lexer) : Bool := lexer.flow > 0

/-- The place where a key of the innermost collection may have begun. -/
def key? (lexer : Lexer) : Option KeyPlace :=
  (lexer.keys.find? fun key => key.1 = lexer.flow).map Prod.snd

/-- Forgets the place where a key may have begun; a key that had to be there is missing. -/
def dropKey (lexer : Lexer) : Reading :=
  if (lexer.key?.map (·.isRequired)).getD false then .error .malformed
  else .ok { lexer with keys := lexer.keys.filter fun key => key.1 ≠ lexer.flow }

/-- Remembers that a key may begin here. -/
def saveKey (lexer : Lexer) : Reading := do
  if !lexer.allowsKey then return lexer
  let isRequired := !lexer.inFlow && lexer.indent = lexer.cursor.column
  let place : KeyPlace := ⟨lexer.count, isRequired, lexer.cursor⟩
  let lexer ← lexer.dropKey
  return { lexer with keys := (lexer.flow, place) :: lexer.keys }

/-- Whether a key that may have begun at a place cannot end here: it is on one line, and short. -/
def isStale (lexer : Lexer) (place : KeyPlace) : Bool :=
  place.cursor.line ≠ lexer.cursor.line || lexer.cursor.index - place.cursor.index > 1024

/-- Forgets the places of keys that cannot end here. -/
def dropStaleKeys (lexer : Lexer) : Reading :=
  if lexer.keys.any fun key => lexer.isStale key.2 && key.2.isRequired then .error .malformed
  else .ok { lexer with keys := lexer.keys.filter fun key => !lexer.isStale key.2 }

/-- The tokens before the first place where a key may still turn out to have begun. -/
def settled (lexer : Lexer) : List Token :=
  let places := (lexer.keys.filter fun key => !lexer.isStale key.2).map fun key => key.2.token
  lexer.tokens.take (places.foldl min lexer.count)

/-- Closes the blocks that are indented further than a column. -/
def closeBlocks (lexer : Lexer) (column : Int) : Lexer :=
  if lexer.inFlow then lexer else go lexer.outer lexer.indent lexer
where
  /-- Closes the innermost block and goes on with those around it. -/
  go : List Int → Int → Lexer → Lexer
    | [], indent, lexer =>
      if indent > column then { lexer.push .blockEnd with indent := -1, outer := [] }
      else { lexer with indent, outer := [] }
    | next :: outer, indent, lexer =>
      if indent > column then go outer next (lexer.push .blockEnd)
      else { lexer with indent, outer := next :: outer }

/-- Opens a block at a column that is indented further; the token that opens it goes to a place. -/
def openBlock (lexer : Lexer) (column : Int) (place : Nat) (token : Token) : Lexer :=
  if !lexer.inFlow && lexer.indent < column then
    { lexer.insert place token with
      indent := column
      outer := lexer.indent :: lexer.outer }
  else lexer

/-- Moves over spaces, comments and line breaks to the next token. -/
def skipGaps : (fuel : Nat) → Lexer → Lexer
  | 0, lexer => lexer
  | fuel + 1, lexer =>
    let cursor :=
      if lexer.cursor.index = 0 && lexer.cursor.peek 0 = 0xFEFF then lexer.cursor.step
      else lexer.cursor
    let cursor := cursor.skip (· = 0x20)
    let cursor := if among "#" (cursor.peek 0) then cursor.skip (!isBreakOrEnd ·) else cursor
    if isBreak (cursor.peek 0) then
      skipGaps fuel
        { lexer with cursor := cursor.lineBreak.2, allowsKey := lexer.allowsKey || !lexer.inFlow }
    else { lexer with cursor }

/-- Reads a line of three dashes or dots. -/
def border (lexer : Lexer) (token : Token) : Reading := do
  let lexer ← (lexer.closeBlocks (-1)).dropKey
  return { lexer with allowsKey := false }.take 3 token

/-- Reads a line that directs how the document is read. -/
def directive (lexer : Lexer) : Reading := do
  let lexer ← (lexer.closeBlocks (-1)).dropKey
  match Directive.read? lexer.cursor.step with
  | some (found, cursor) => return { lexer with cursor, allowsKey := false }.push (.directive found)
  | none => throw .malformed

def openFlow (lexer : Lexer) (token : Token) : Reading := do
  let lexer ← lexer.saveKey
  return { lexer with flow := lexer.flow + 1, allowsKey := true }.take 1 token

def closeFlow (lexer : Lexer) (token : Token) : Reading := do
  let lexer ← lexer.dropKey
  if lexer.flow = 0 then throw .malformed
  return { lexer with flow := lexer.flow - 1, allowsKey := false }.take 1 token

def flowEntry (lexer : Lexer) : Reading := do
  let lexer ← { lexer with allowsKey := true }.dropKey
  return lexer.take 1 .flowEntry

def blockEntry (lexer : Lexer) : Reading := do
  if !lexer.inFlow && !lexer.allowsKey then throw .malformed
  let lexer := lexer.openBlock lexer.cursor.column lexer.count .blockSequenceStart
  let lexer ← { lexer with allowsKey := true }.dropKey
  return lexer.take 1 .blockEntry

def explicitKey (lexer : Lexer) : Reading := do
  if !lexer.inFlow && !lexer.allowsKey then throw .malformed
  let lexer := lexer.openBlock lexer.cursor.column lexer.count .blockMappingStart
  let lexer ← { lexer with allowsKey := !lexer.inFlow }.dropKey
  return lexer.take 1 .key

/--
Reads a colon before a value. If a key may have begun before it, the key's token is put there.
-/
def value (lexer : Lexer) : Reading := do
  match lexer.key? with
  | some place =>
    let lexer :=
      { lexer.insert place.token .key with
        keys := lexer.keys.filter fun key => key.1 ≠ lexer.flow
        allowsKey := false }
    let lexer := lexer.openBlock place.cursor.column place.token .blockMappingStart
    return lexer.take 1 .value
  | none =>
    if !lexer.inFlow && !lexer.allowsKey then throw .malformed
    let lexer := lexer.openBlock lexer.cursor.column lexer.count .blockMappingStart
    let lexer ← { lexer with allowsKey := !lexer.inFlow }.dropKey
    return lexer.take 1 .value

def nodeName (lexer : Lexer) (token : Text → Token) : Reading := do
  let lexer ← lexer.saveKey
  let (name, cursor) := lexer.cursor.step.span isNamePart
  let next := cursor.peek 0
  if name.isEmpty || !(isGap next || among "?:,]\x7d%@\x60" next) then throw .malformed
  return { lexer with cursor, allowsKey := false }.push (token name)

def tag (lexer : Lexer) : Reading := do
  let lexer ← lexer.saveKey
  let (name, cursor) := lexer.cursor.span (!isGap ·)
  return { lexer with cursor, allowsKey := false }.push (.tag name)

def quoted (lexer : Lexer) (isDouble : Bool) : Reading := do
  let lexer ← lexer.saveKey
  let (content, cursor) ← quotedScalar isDouble lexer.cursor
  return { lexer with cursor, allowsKey := false }.push (.scalar content false)

def block (lexer : Lexer) : Reading := do
  let lexer ← { lexer with allowsKey := true }.dropKey
  match blockScalar lexer.indent lexer.cursor with
  | some (content, cursor) => return { lexer with cursor }.push (.scalar content false)
  | none => throw .malformed

def plain (lexer : Lexer) : Reading := do
  let lexer ← lexer.saveKey
  let found := plainScalar lexer.inFlow (lexer.indent + 1) lexer.cursor
  return { lexer with cursor := found.cursor, allowsKey := found.crossesLine }.push
    (.scalar found.content true)

/-- Whether a plain scalar may begin here. -/
def startsPlain (lexer : Lexer) : Bool :=
  let number := lexer.cursor.peek 0
  !(isGap number || among "-?:,[]\x7b\x7d#&*!|>'\"%@\x60" number)
    || (!isGap (lexer.cursor.peek 1)
      && (among "-" number || (!lexer.inFlow && among "?:" number)))

def next (lexer : Lexer) : Reading := do
  let lexer ← lexer.dropStaleKeys
  let lexer := lexer.closeBlocks lexer.cursor.column
  let cursor := lexer.cursor
  let is (characters : String) : Bool := among characters (cursor.peek 0)
  let beforeGap := isGap (cursor.peek 1)
  if cursor.column = 0 && is "%" then lexer.directive
  else if cursor.column = 0 && cursor.startsWith "---" then lexer.border .documentStart
  else if cursor.column = 0 && cursor.startsWith "..." then lexer.border .documentEnd
  else if is "[" then lexer.openFlow .flowSequenceStart
  else if is "\x7b" then lexer.openFlow .flowMappingStart
  else if is "]" then lexer.closeFlow .flowSequenceEnd
  else if is "\x7d" then lexer.closeFlow .flowMappingEnd
  else if is "," then lexer.flowEntry
  else if is "-" && beforeGap then lexer.blockEntry
  else if is "?" && (lexer.inFlow || beforeGap) then lexer.explicitKey
  else if is ":" && (lexer.inFlow || beforeGap) then lexer.value
  else if is "*" then lexer.nodeName .alias
  else if is "&" then lexer.nodeName .anchor
  else if is "!" then lexer.tag
  else if is "|>" && !lexer.inFlow then lexer.block
  else if is "'" then lexer.quoted false
  else if is "\"" then lexer.quoted true
  else if lexer.startsPlain then lexer.plain
  else throw .malformed

/-- Reads what the end of the text stands for. -/
def finish (lexer : Lexer) : Reading := do
  let lexer ← lexer.dropStaleKeys
  { lexer with flow := 0 }.closeBlocks (-1) |>.dropKey

/-- Reads tokens to the end of the text, or up to where none can be read. -/
def run : (fuel : Nat) → Lexer → List Token × Option Error
  | 0, lexer => (lexer.settled, some .malformed)
  | fuel + 1, lexer =>
    let here := lexer.skipGaps lexer.cursor.bound
    if here.cursor.rest.isEmpty then
      match here.finish with
      | .ok ended => (ended.tokens, none)
      | .error error => (lexer.settled, some error)
    else
      match here.next with
      | .ok later => run fuel later
      | .error error => (lexer.settled, some error)

end Lexer

/-- Whether a document may hold a code point. -/
def isAdmissible (point : CodePoint) : Bool :=
  let number := point.value
  number = 0x09 || number = 0x0A || number = 0x0D || number = 0x85
    || (0x20 ≤ number && number ≤ 0x7E) || (0xA0 ≤ number && number ≤ 0xD7FF)
    || (0xE000 ≤ number && number ≤ 0xFFFD) || 0x10000 ≤ number

/--
The tokens of a text. Where a token cannot be read, the tokens before it come with the reason; a key
that may have begun among them holds back the tokens from its place on.
-/
def Token.ofText (text : Text) : List Token × Option Error :=
  if text.all isAdmissible then Lexer.run (text.length + 1) { cursor := { rest := text } }
  else ([], some .malformed)

end Document

end IndexWire
