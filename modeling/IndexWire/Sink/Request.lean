import IndexWire.Encoding
import IndexWire.FixedWidth
import IndexWire.Notice
import IndexWire.Word

/-!
# Requests

The values that a sink is asked to write, and the plan of each: the pieces handed to the
destination in order, and the fault that ends the request after them, if there is one. A request
that is refused has no pieces, except that a map or a set may be refused at one of its texts, after
the pieces before it.
-/

namespace IndexWire

/-- What a destination takes at once. -/
inductive Piece where
  | byte (value : UInt8)
  | range (content : Bytes)
deriving DecidableEq

namespace Piece

/-- The bytes of a piece. -/
def bytes : Piece → Bytes
  | byte value => [value]
  | range content => content

end Piece

/-- The pieces of a request in order, and the fault after them if the request is refused. -/
structure Plan where
  pieces : List Piece := []
  /-- Why nothing comes after the pieces. -/
  fault : Option Fault := none
deriving DecidableEq

namespace Plan

/-- A request that is refused before anything is written. -/
def refused (fault : Fault) : Plan := { fault := some fault }

/-- Bytes in a row; there is no piece of no bytes. -/
def range (bytes : Bytes) : Plan := { pieces := if bytes.isEmpty then [] else [.range bytes] }

/-- One plan and then another, unless the first is refused. -/
def andThen (first second : Plan) : Plan :=
  match first.fault with
  | some _ => first
  | none => ⟨first.pieces ++ second.pieces, second.fault⟩

/-- Plans one after another, up to the first that is refused. -/
def inOrder (plans : List Plan) : Plan := plans.foldr andThen {}

/-- All bytes of a plan. -/
def bytes (plan : Plan) : Bytes := plan.pieces.flatMap Piece.bytes

/-- An integer in a fixed count of bytes. -/
def word (count : Nat) (value : Int) : Plan :=
  if Word.Fits (8 * count) value then
    range (FixedWidth.encode count (Word.unsigned (8 * count) value))
  else refused (.outOfWidth value (8 * count))

/-- The unsigned reading of a 32-bit integer in one to five bytes. -/
def vint (value : Int) : Plan :=
  if Word.Fits 32 value then range (Varint.encode (Word.unsigned 32 value))
  else refused (.outOfWidth value 32)

/-- The unsigned reading of 64 bits in one to ten bytes. -/
def unsignedLong (value : Int) : Plan := range (Varint.encode (Word.unsigned 64 value))

/-- An integer that is not negative and has at most 63 bits, in one to nine bytes. -/
def vlong (value : Int) : Plan :=
  if 0 ≤ value ∧ value < Nat.pow 2 63 then unsignedLong value else refused (.outOfLong value)

/-- The zigzag form of a 32-bit integer in one to five bytes. -/
def zint32 (value : Int) : Plan :=
  if Word.Fits 32 value then vint (Word.zigzag 32 value) else refused (.outOfWidth value 32)

/-- The zigzag form of a 64-bit integer in one to ten bytes. -/
def zint64 (value : Int) : Plan :=
  if Word.Fits 64 value then unsignedLong (Word.zigzag 64 value)
  else refused (.outOfWidth value 64)

/-- A text as the count of its bytes and the bytes. -/
def text (policy : SurrogatePolicy) (content : Text) : Plan :=
  match encodeText policy content with
  | .error fault => refused fault
  | .ok data => (vint data.length).andThen (range data)

/-- A value that has to be a text. -/
def string (policy : SurrogatePolicy) (value : Value) : Plan :=
  match value with
  | .text content => text policy content
  | other => refused (.notText other.kind)

/-- The count of a collection and then its texts. -/
def counted (policy : SurrogatePolicy) (count : Nat) (texts : List Value) : Plan :=
  (word 4 count).andThen (inOrder (texts.map (string policy)))

/-- The fault of a map entry that is not made of two texts. -/
def entryFault? (entry : Value × Value) : Option Fault :=
  match entry with
  | (.text _, .text _) => none
  | (key, value) => some (.entryNotText key.kind value.kind)

/-- A map as the count of its entries and each key followed by its value. -/
def stringMap (policy : SurrogatePolicy) (entries : List (Value × Value)) : Plan :=
  match entries.findSome? entryFault? with
  | some fault => refused fault
  | none => counted policy entries.length (entries.flatMap fun entry => [entry.1, entry.2])

/-- The fault of a set element that is not a text. -/
def elementFault? : Value → Option Fault
  | .text _ => none
  | other => some (.elementNotText other.kind)

/-- A set as the count of its elements and each of them. -/
def stringSet (policy : SurrogatePolicy) (value : Value) : Plan :=
  match value.elements? with
  | none => refused (.noElements value.kind)
  | some elements =>
    match elements.findSome? elementFault? with
    | some fault => refused fault
    | none => counted policy elements.length elements

/--
A range of a byte string. Without a length the range goes to the end of the string; a range that is
not inside the string is refused.
-/
def slice (data : Bytes) (offset : Int) (length : Option Int) : Plan :=
  let count := length.getD (data.length - offset)
  if offset < 0 ∨ count < 0 ∨ offset + count > data.length then
    refused (.rangeOutside offset count data.length)
  else range (data.slice offset (offset + count))

end Plan

/-- What a sink is asked to write. -/
inductive Request where
  /-- The low eight bits of an integer. -/
  | byte (value : Int)
  /-- A range of a byte string; one of any other view is written by `Sink.writeItems`. -/
  | bytes (data : Bytes) (offset : Int) (length : Option Int)
  | int16 (value : Int)
  | int32 (value : Int)
  | int64 (value : Int)
  /-- A 32-bit integer of variable length. -/
  | vint (value : Int)
  /-- A 63-bit integer of variable length. -/
  | vlong (value : Int)
  /-- A signed 32-bit integer of variable length. -/
  | zint32 (value : Int)
  /-- A signed 64-bit integer of variable length. -/
  | zint64 (value : Int)
  | string (value : Value)
  | stringMap (entries : List (Value × Value))
  | stringSet (value : Value)

/-- The name of the method that makes a request. -/
def Request.method : Request → String
  | byte _ => "write_byte"
  | bytes _ _ _ => "write_bytes"
  | int16 _ => "write_int16"
  | int32 _ => "write_int32"
  | int64 _ => "write_int64"
  | vint _ => "write_vint"
  | vlong _ => "write_vlong"
  | zint32 _ => "write_zint32"
  | zint64 _ => "write_zint64"
  | string _ => "write_string"
  | stringMap _ => "write_string_map"
  | stringSet _ => "write_string_set"

/-- The names of the methods that make requests. -/
def Request.methods : List String :=
  ["write_byte", "write_bytes", "write_int16", "write_int32", "write_int64", "write_vint",
    "write_vlong", "write_zint32", "write_zint64", "write_string", "write_string_map",
    "write_string_set"]

/-- The pieces in which a request is written, and its fault. -/
def Request.plan (policy : SurrogatePolicy) : Request → Plan
  | byte value => { pieces := [.byte (UInt8.ofNat (Word.unsigned 8 value))] }
  | bytes data offset length => .slice data offset length
  | int16 value => .word 2 value
  | int32 value => .word 4 value
  | int64 value => .word 8 value
  | vint value => .vint value
  | vlong value => .vlong value
  | zint32 value => .zint32 value
  | zint64 value => .zint64 value
  | string value => .string policy value
  | stringMap entries => .stringMap policy entries
  | stringSet value => .stringSet policy value

end IndexWire
