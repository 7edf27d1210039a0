import IndexWire.Text.CodePoint

/-!
# Cursors

A place in the text of a document: what is left of the text, and the line and the column. The end of
the text is seen as a null, which no document holds.
-/

namespace IndexWire

namespace Document

/-- Whether a number is that of a line break. -/
def isBreak (number : Nat) : Bool :=
  number = 0x0A || number = 0x0D || number = 0x85 || number = 0x2028 || number = 0x2029

/-- Whether a number is that of a line break or stands for the end of the text. -/
def isBreakOrEnd (number : Nat) : Bool := number = 0 || isBreak number

/--
Whether a number is that of a space, a tab or a line break, or stands for the end of the text.
-/
def isGap (number : Nat) : Bool := number = 0x20 || number = 0x09 || isBreakOrEnd number

/-- Whether a number is that of one of the characters of a string. -/
def among (characters : String) (number : Nat) : Bool :=
  characters.toList.any fun character => character.toNat = number

/-- A place in the text of a document. -/
structure Cursor where
  /-- The text from here on. -/
  rest : Text
  /-- How many code points the whole text has. -/
  size : Nat := rest.length
  /-- How many code points stand before. -/
  index : Nat := 0
  /-- How many lines stand before. -/
  line : Nat := 0
  /-- How many code points of the line stand before. -/
  column : Nat := 0

namespace Cursor

/-- More steps than lead from here to the end of the text. -/
def bound (cursor : Cursor) : Nat := cursor.size + 1

/-- The number of the code point some places ahead. -/
def peek (cursor : Cursor) (ahead : Nat) : Nat := ((cursor.rest[ahead]?).map (·.value)).getD 0

def step (cursor : Cursor) : Cursor :=
  match cursor.rest with
  | [] => cursor
  | point :: rest =>
    let next := (rest.head?.map (·.value)).getD 0
    if isBreak point.value && !(point.value = 0x0D && next = 0x0A) then
      { cursor with rest, index := cursor.index + 1, line := cursor.line + 1, column := 0 }
    else
      { cursor with
        rest
        index := cursor.index + 1
        column := if point.value = 0xFEFF then cursor.column else cursor.column + 1 }

def advance (cursor : Cursor) : Nat → Cursor
  | 0 => cursor
  | count + 1 => cursor.step.advance count

/-- Moves over the code points whose numbers satisfy a test, and gives them. -/
def span (cursor : Cursor) (test : Nat → Bool) : Text × Cursor :=
  let taken := cursor.rest.takeWhile fun point => test point.value
  (taken, cursor.advance taken.length)

/-- Moves over the code points whose numbers satisfy a test. -/
def skip (cursor : Cursor) (test : Nat → Bool) : Cursor := (cursor.span test).2

/-- Moves over a line break, if there is one here, and gives what it stands for. -/
def lineBreak (cursor : Cursor) : Text × Cursor :=
  let number := cursor.peek 0
  if number = 0x0D && cursor.peek 1 = 0x0A then ([.ofChar '\n'], cursor.advance 2)
  else if number = 0x2028 || number = 0x2029 then ([.ofNat number], cursor.step)
  else if isBreak number then ([.ofChar '\n'], cursor.step)
  else ([], cursor)

/-- Whether three code points and a gap after them stand here. -/
def startsWith (cursor : Cursor) (marker : String) : Bool :=
  cursor.rest.take 3 = Text.ofString marker && isGap (cursor.peek 3)

/-- Whether a line of three dashes or three dots, which parts documents, begins here. -/
def isBorder (cursor : Cursor) : Bool := cursor.startsWith "---" || cursor.startsWith "..."

end Cursor

end Document

end IndexWire
