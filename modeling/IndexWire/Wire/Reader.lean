import IndexWire.Sink.Request

/-!
# Reading values back

The reader of the wire format. A `Shape` tells what kind of value comes next, and `Shape.read` reads
one such value from the front of a byte string; what remains starts right after it. `Request.shape`
and `Request.datum` say what a reader finds where a request has been written: integers come back
reduced to their width, and texts without surrogates.
-/

namespace IndexWire

namespace Wire

inductive Shape where
  /-- A count of bytes that the reader knows. -/
  | bytes (count : Nat)
  /-- A signed integer in a count of bytes. -/
  | word (count : Nat)
  /-- A signed 32-bit integer of variable length. -/
  | vint
  /-- A 64-bit integer of variable length that is not negative. -/
  | vlong
  /-- A signed 32-bit integer in zigzag form. -/
  | zint32
  /-- A signed 64-bit integer in zigzag form. -/
  | zint64
  | string
  | stringMap
  | stringSet
deriving DecidableEq

inductive Datum where
  | bytes (content : Bytes)
  | int (value : Int)
  | text (content : Text)
  | entries (pairs : List (Text × Text))
  | elements (texts : List Text)
deriving DecidableEq

/-- Why no value can be read. -/
inductive Failure where
  /-- The bytes end before the value does. -/
  | ended
  /-- A count is negative, or bytes encode no text. -/
  | malformed
deriving DecidableEq

/-- Reads a value from the front of a byte string, and gives it with the bytes after it. -/
abbrev Parser (α : Type) := Bytes → Except Failure (α × Bytes)

def readBytes (count : Nat) : Parser Bytes := fun bytes =>
  if count ≤ bytes.length then .ok (bytes.take count, bytes.drop count) else .error .ended

/-- Reads a signed integer in a count of bytes. -/
def readWord (count : Nat) : Parser Int := fun bytes =>
  match FixedWidth.decode count bytes with
  | some (number, rest) => .ok (Word.signed (8 * count) number, rest)
  | none => .error .ended

def readVarint : Parser Nat := fun bytes =>
  match Varint.decode bytes with
  | some (number, rest) => .ok (number, rest)
  | none => .error .ended

/-- Reads a number of variable length as a signed integer of a width. -/
def readSigned (width : Nat) : Parser Int := fun bytes =>
  (readVarint bytes).map fun (number, rest) => (Word.signed width number, rest)

/-- Reads a number of variable length as the zigzag form of an integer of a width. -/
def readZigzag (width : Nat) : Parser Int := fun bytes =>
  (readVarint bytes).map fun (number, rest) => (Word.unzigzag width number, rest)

/-- A count that has been read. -/
def checkCount (count : Int) : Except Failure Nat :=
  if 0 ≤ count then .ok count.toNat else .error .malformed

/-- Reads a text: the count of its bytes, and the bytes. -/
def readText : Parser Text := fun bytes => do
  let (count, rest) ← readSigned 32 bytes
  let (content, rest) ← readBytes (← checkCount count) rest
  match Utf8.decode content with
  | .ok text => .ok (text, rest)
  | .error _ => .error .malformed

/-- Reads a count of values one after another. -/
def readMany {α : Type} (read : Parser α) : (count : Nat) → Parser (List α)
  | 0, bytes => .ok ([], bytes)
  | count + 1, bytes => do
    let (first, rest) ← read bytes
    let (later, rest) ← readMany read count rest
    return (first :: later, rest)

def readPair : Parser (Text × Text) := fun bytes => do
  let (key, rest) ← readText bytes
  let (value, rest) ← readText rest
  return ((key, value), rest)

/-- Reads a count and then as many values. -/
def readCounted {α : Type} (read : Parser α) : Parser (List α) := fun bytes => do
  let (count, rest) ← readWord 4 bytes
  readMany read (← checkCount count) rest

namespace Shape

def read (shape : Shape) : Parser Datum := fun input =>
  match shape with
  | bytes count => (readBytes count input).map fun (content, rest) => (.bytes content, rest)
  | word count => (readWord count input).map fun (value, rest) => (.int value, rest)
  | vint => (readSigned 32 input).map fun (value, rest) => (.int value, rest)
  | vlong => (readVarint input).map fun (value, rest) => (.int value, rest)
  | zint32 => (readZigzag 32 input).map fun (value, rest) => (.int value, rest)
  | zint64 => (readZigzag 64 input).map fun (value, rest) => (.int value, rest)
  | string => (readText input).map fun (content, rest) => (.text content, rest)
  | stringMap => (readCounted readPair input).map fun (pairs, rest) => (.entries pairs, rest)
  | stringSet => (readCounted readText input).map fun (texts, rest) => (.elements texts, rest)

def readAll : List Shape → Parser (List Datum)
  | [], input => .ok ([], input)
  | shape :: later, input => do
    let (first, rest) ← shape.read input
    let (others, rest) ← readAll later rest
    return (first :: others, rest)

end Shape

end Wire

namespace Request

open Wire

/-- How many bytes a range has. -/
def rangeCount (data : Bytes) (offset : Int) (length : Option Int) : Int :=
  length.getD (data.length - offset)

/-- The shape of what a request writes. -/
def shape : Request → Shape
  | byte _ => .bytes 1
  | bytes data offset length => .bytes (rangeCount data offset length).toNat
  | int16 _ => .word 2
  | int32 _ => .word 4
  | int64 _ => .word 8
  | vint _ => .vint
  | vlong _ => .vlong
  | zint32 _ => .zint32
  | zint64 _ => .zint64
  | string _ => .string
  | stringMap _ => .stringMap
  | stringSet _ => .stringSet

/-- A text as a reader finds it; a value that is no text is never written. -/
def textDatum (value : Value) : Text := Text.repair (value.text?.getD [])

/-- What a reader finds where a request has been written under the policy `replace`. -/
def datum : Request → Datum
  | byte value => .bytes [UInt8.ofNat (Word.unsigned 8 value)]
  | bytes data offset length =>
    .bytes ((data.drop offset.toNat).take (rangeCount data offset length).toNat)
  | int16 value => .int (Word.signed 16 value)
  | int32 value => .int (Word.signed 32 value)
  | int64 value => .int (Word.signed 64 value)
  | vint value => .int (Word.signed 32 value)
  | vlong value => .int value
  | zint32 value => .int (Word.signed 32 value)
  | zint64 value => .int (Word.signed 64 value)
  | string value => .text (textDatum value)
  | stringMap entries =>
    .entries (entries.map fun entry => (textDatum entry.1, textDatum entry.2))
  | stringSet value => .elements ((value.elements?.getD []).map textDatum)

end Request

end IndexWire
