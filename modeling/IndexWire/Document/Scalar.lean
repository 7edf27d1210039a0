import IndexWire.Document.Cursor
import IndexWire.Text.Quoted

/-!
# Scalars

The three written forms of a scalar: plain, between quotes, and as a block of lines. Each reader
starts at the first code point of the scalar and gives its content and the place after it. Line
breaks inside a scalar fold: one becomes a space, and each further one stays a line break.
-/

namespace IndexWire

namespace Document

/-- The line breaks and what they fold to: the first break, and the breaks after it. -/
def foldBreaks (first : Text) (later : Text) : Text :=
  if first ≠ [.ofChar '\n'] then first ++ later
  else if later.isEmpty then [.ofChar ' ']
  else later

/--
Moves over blanks and further line breaks after a first one, and gives the breaks. There is no
result where a border between documents follows.
-/
def breaks? (blank : Nat → Bool) : (fuel : Nat) → Cursor → Option (Text × Cursor)
  | 0, cursor => some ([], cursor)
  | fuel + 1, cursor =>
    if cursor.isBorder then none
    else
      let cursor := cursor.skip blank
      if isBreak (cursor.peek 0) then
        let (newline, cursor) := cursor.lineBreak
        (breaks? blank fuel cursor).map fun (later, cursor) => (newline ++ later, cursor)
      else some ([], cursor)

namespace Plain

/-- Whether a plain scalar may not hold the code point here. -/
def stops (inFlow : Bool) (cursor : Cursor) : Bool :=
  let number := cursor.peek 0
  isGap number
    || (among ":" number
      && (isGap (cursor.peek 1) || (inFlow && among ",[]\x7b\x7d" (cursor.peek 1))))
    || (inFlow && among ",?[]\x7b\x7d" number)

/-- The code points up to where a plain scalar stops. -/
def word (inFlow : Bool) : (fuel : Nat) → Cursor → Text × Cursor
  | 0, cursor => ([], cursor)
  | fuel + 1, cursor =>
    match cursor.rest with
    | [] => ([], cursor)
    | point :: _ =>
      if stops inFlow cursor then ([], cursor)
      else
        let (later, cursor) := word inFlow fuel cursor.step
        (point :: later, cursor)

/-- What follows a word of a plain scalar. -/
structure Gap where
  /-- What the blanks and line breaks fold to. -/
  content : Text
  cursor : Cursor
  crossesLine : Bool
  /-- Whether a border between documents follows. -/
  atBorder : Bool

/-- Moves over the blanks and line breaks after a word. -/
def gap (cursor : Cursor) : Gap :=
  let (blanks, cursor) := cursor.span (· = 0x20)
  if isBreak (cursor.peek 0) then
    let (newline, cursor) := cursor.lineBreak
    match breaks? (· = 0x20) cursor.bound cursor with
    | none => ⟨[], cursor, true, true⟩
    | some (later, cursor) => ⟨foldBreaks newline later, cursor, true, false⟩
  else ⟨blanks, cursor, false, false⟩

structure Result where
  content : Text
  cursor : Cursor
  /-- Whether the last gap crossed a line, so that a key may follow. -/
  crossesLine : Bool

/-- Reads words and the gaps between them; `before` is the gap before the next word. -/
def scan (inFlow : Bool) (indent : Int) (before : Text) (crossesLine : Bool) :
    (fuel : Nat) → Cursor → Result
  | 0, cursor => ⟨[], cursor, crossesLine⟩
  | fuel + 1, cursor =>
    if among "#" (cursor.peek 0) then ⟨[], cursor, crossesLine⟩
    else
      let (content, cursor) := word inFlow cursor.bound cursor
      if content.isEmpty then ⟨[], cursor, crossesLine⟩
      else
        let after := gap cursor
        if after.content.isEmpty || among "#" (after.cursor.peek 0)
            || (!inFlow && (after.cursor.column : Int) < indent) then
          ⟨before ++ content, after.cursor, after.crossesLine⟩
        else
          let rest := scan inFlow indent after.content after.crossesLine fuel after.cursor
          ⟨before ++ content ++ rest.content, rest.cursor, rest.crossesLine⟩

end Plain

/-- The plain scalar that starts here, inside an indentation. -/
def plainScalar (inFlow : Bool) (indent : Int) (cursor : Cursor) : Plain.Result :=
  Plain.scan inFlow indent [] false cursor.bound cursor

namespace Quoted

/-- What a letter after a backslash stands for. -/
def letter? (number : Nat) : Option Nat :=
  [('0', 0x00), ('a', 0x07), ('b', 0x08), ('t', 0x09), ('\t', 0x09), ('n', 0x0A), ('v', 0x0B),
    ('f', 0x0C), ('r', 0x0D), ('e', 0x1B), (' ', 0x20), ('"', 0x22), ('\\', 0x5C), ('/', 0x2F),
    ('N', 0x85), ('_', 0xA0), ('L', 0x2028), ('P', 0x2029)].findSome? fun (letter, meaning) =>
      if letter.toNat = number then some meaning else none

/-- How many hexadecimal digits follow a letter after a backslash. -/
def digitCount? (number : Nat) : Option Nat :=
  if among "x" number then some 2
  else if among "u" number then some 4
  else if among "U" number then some 8
  else none

/-- Why a quoted scalar cannot be read. -/
inductive Error where
  /-- It does not have the form of a quoted scalar. -/
  | malformed
  /-- It has the number of no code point. -/
  | noCodePoint
  /-- It has a number of more than 31 bits in the place of one of a code point. -/
  | numberTooWide
deriving DecidableEq

abbrev Result := Except Error (Text × Cursor)

def escape (cursor : Cursor) : Result :=
  let number := cursor.peek 0
  match letter? number, digitCount? number with
  | some meaning, _ => .ok ([.ofNat meaning], cursor.step)
  | none, some count =>
    let digits := cursor.step.rest.take count
    match Text.hexNumber? digits with
    | some code =>
      if digits.length < count then .error .malformed
      else if code < 0x110000 then .ok ([.ofNat code], cursor.advance (count + 1))
      else .error (if code < 0x80000000 then .noCodePoint else .numberTooWide)
    | none => .error .malformed
  | none, none =>
    if isBreak number then
      let (_, cursor) := cursor.lineBreak
      match breaks? (fun blank => blank = 0x20 || blank = 0x09) cursor.bound cursor with
      | some found => .ok found
      | none => .error .malformed
    else .error .malformed

/-- Moves over blanks and line breaks between quotes. -/
def gap (cursor : Cursor) : Result :=
  let blank (number : Nat) : Bool := number = 0x20 || number = 0x09
  let (blanks, cursor) := cursor.span blank
  if cursor.rest.isEmpty then .error .malformed
  else if isBreak (cursor.peek 0) then
    let (newline, cursor) := cursor.lineBreak
    match breaks? blank cursor.bound cursor with
    | none => .error .malformed
    | some (later, cursor) => .ok (foldBreaks newline later, cursor)
  else .ok (blanks, cursor)

/-- Reads up to and over the closing quote. -/
def scan (isDouble : Bool) : (fuel : Nat) → Cursor → Result
  | 0, _ => .error .malformed
  | fuel + 1, cursor => do
    let number := cursor.peek 0
    let isSingleQuote := among "'" number
    if cursor.rest.isEmpty then throw .malformed
    if isSingleQuote && !isDouble && among "'" (cursor.peek 1) then
      let (later, cursor) ← scan isDouble fuel (cursor.advance 2)
      return (.ofNat number :: later, cursor)
    if (isSingleQuote && !isDouble) || (among "\"" number && isDouble) then return ([], cursor.step)
    let (content, cursor) ←
      if isDouble && among "\\" number then escape cursor.step
      else if isGap number then gap cursor
      else pure ([.ofNat number], cursor.step)
    let (later, cursor) ← scan isDouble fuel cursor
    return (content ++ later, cursor)

end Quoted

def quotedScalar (isDouble : Bool) (cursor : Cursor) : Quoted.Result :=
  Quoted.scan isDouble cursor.bound cursor.step

namespace Block

inductive Ending where
  /-- All go but one. -/
  | clip
  /-- All go. -/
  | strip
  /-- All stay. -/
  | keep
deriving DecidableEq

/-- What the first line of a block says. -/
structure Header where
  /-- What happens to the last line breaks. -/
  ending : Ending := .clip
  /-- How far the lines are indented. -/
  indent : Option Nat := none

/-- The ending that a sign stands for. -/
def ending? (number : Nat) : Option Ending :=
  if among "+" number then some .keep else if among "-" number then some .strip else none

/-- The digit from one to nine that says how far lines are indented. -/
def indent? (number : Nat) : Option Nat :=
  if 0x31 ≤ number && number ≤ 0x39 then some (number - 0x30) else none

/-- Reads the first line of a block after its marker. -/
def header (cursor : Cursor) : Option (Header × Cursor) :=
  let (found, cursor) : Header × Cursor :=
    match ending? (cursor.peek 0), indent? (cursor.peek 0) with
    | some ending, _ =>
      match indent? (cursor.peek 1) with
      | some indent => (⟨ending, some indent⟩, cursor.advance 2)
      | none => (⟨ending, none⟩, cursor.step)
    | none, some indent =>
      match ending? (cursor.peek 1) with
      | some ending => (⟨ending, some indent⟩, cursor.advance 2)
      | none => (⟨.clip, some indent⟩, cursor.step)
    | none, none => ({}, cursor)
  if !(cursor.peek 0 = 0x20 || isBreakOrEnd (cursor.peek 0)) then none
  else
    let cursor := cursor.skip (· = 0x20)
    let cursor := if among "#" (cursor.peek 0) then cursor.skip (!isBreakOrEnd ·) else cursor
    if isBreakOrEnd (cursor.peek 0) then some (found, cursor.lineBreak.2) else none

/--
Moves over empty lines before the first line of a block; gives the breaks and the widest column.
-/
def lead : (fuel widest : Nat) → Cursor → Text × Nat × Cursor
  | 0, widest, cursor => ([], widest, cursor)
  | fuel + 1, widest, cursor =>
    if cursor.peek 0 = 0x20 then lead fuel (max widest (cursor.column + 1)) cursor.step
    else if isBreak (cursor.peek 0) then
      let (newline, cursor) := cursor.lineBreak
      let (later, found) := lead fuel widest cursor
      (newline ++ later, found)
    else ([], widest, cursor)

/-- Moves over empty lines up to the indentation of a block; gives the breaks. -/
def emptyLines (indent : Nat) : (fuel : Nat) → Cursor → Text × Cursor
  | 0, cursor => ([], cursor)
  | fuel + 1, cursor =>
    let blanks := (cursor.rest.take (indent - cursor.column)).takeWhile (·.value = 0x20)
    let cursor := cursor.advance blanks.length
    if isBreak (cursor.peek 0) then
      let (newline, cursor) := cursor.lineBreak
      let (later, cursor) := emptyLines indent fuel cursor
      (newline ++ later, cursor)
    else ([], cursor)

/-- Whether a space or a tab is here. -/
def atBlank (cursor : Cursor) : Bool := cursor.peek 0 = 0x20 || cursor.peek 0 = 0x09

/-- Reads the lines of a block; `before` are the line breaks before the next line. -/
def scan (folds : Bool) (ending : Ending) (indent : Nat) (before : Text) :
    (fuel : Nat) → Cursor → Text × Cursor
  | 0, cursor => ([], cursor)
  | fuel + 1, cursor =>
    let startsWord := !atBlank cursor
    let (line, cursor) := cursor.span (!isBreakOrEnd ·)
    let (newline, cursor) := cursor.lineBreak
    let (breaks, cursor) := emptyLines indent cursor.bound cursor
    if cursor.column = indent && !cursor.rest.isEmpty then
      let between :=
        if folds && newline = [.ofChar '\n'] && startsWord && !atBlank cursor then
          if breaks.isEmpty then [.ofChar ' '] else []
        else newline
      let (later, cursor) := scan folds ending indent breaks fuel cursor
      (before ++ line ++ between ++ later, cursor)
    else
      let last :=
        match ending with
        | .strip => []
        | .clip => newline
        | .keep => newline ++ breaks
      (before ++ line ++ last, cursor)

end Block

/-- The block of lines that starts here, inside an indentation. -/
def blockScalar (indent : Int) (cursor : Cursor) : Option (Text × Cursor) := do
  let folds := among ">" (cursor.peek 0)
  let (header, cursor) ← Block.header cursor.step
  let least := (max 1 (indent + 1)).toNat
  let (breaks, width, cursor) :=
    match header.indent with
    | some extra =>
      let width := least + extra - 1
      let (breaks, cursor) := Block.emptyLines width cursor.bound cursor
      (breaks, width, cursor)
    | none =>
      let (breaks, widest, cursor) := Block.lead cursor.bound 0 cursor
      (breaks, max least widest, cursor)
  if cursor.column = width && !cursor.rest.isEmpty then
    return Block.scan folds header.ending width breaks cursor.bound cursor
  else return (if header.ending = .keep then breaks else [], cursor)

end Document

end IndexWire
