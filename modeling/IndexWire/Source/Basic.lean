import IndexWire.Notice
import IndexWire.Store.Basic
import IndexWire.Store.Memory

/-!
# Sources

What bytes are copied from: bytes in memory, or a stream that may give fewer bytes than it is asked
for. `readInto` fills a range of a buffer; reading from a stream asks again until the range is full
or the stream ends.
-/

namespace IndexWire

inductive Content where
  | own (bytes : Bytes)
  /-- A shared buffer, whose changes are seen. -/
  | shared (buffer : BufferId)
deriving DecidableEq

/-- The bytes that there are at the moment. -/
def Content.bytes (store : Store) : Content → Bytes
  | own bytes => bytes
  | shared id => (store.buffer id).bytes

/-- How a scripted device answers one read. -/
inductive Reply where
  /-- It gives the next bytes, but no more than a limit if there is one. -/
  | give (limit : Option Nat)
  | nothing
  | fail (fault : Fault)
deriving DecidableEq

/-- A device that gives bytes as it is told to. -/
structure Reader where
  /-- All bytes of the device. -/
  data : Content
  /-- Whether the device has a view of a shared buffer, which keeps its size. -/
  isView : Bool := false
  /-- How many bytes have been given. -/
  position : Nat := 0
  /-- The answers to the next reads. -/
  replies : List Reply := []
  /-- The answer to every later read. -/
  later : Reply := .give none
  /-- The position from which on every read fails. -/
  failAt : Option Nat := none
  /-- The fault of a read from that position on. -/
  failure : Fault := .closed
  /-- How many bytes each read asked for, latest first. -/
  asked : List Nat := []
deriving DecidableEq

namespace Reader

/-- How many bytes each read asked for, oldest first. -/
def requests (reader : Reader) : List Nat := reader.asked.reverse

/-- The next bytes, at most `count` of them. -/
def give (store : Store) (reader : Reader) (count : Nat) : Reader × Except Fault Bytes :=
  let bytes := ((reader.data.bytes store).drop reader.position).take count
  ({ reader with position := reader.position + bytes.length }, .ok bytes)

/-- Asks for `wanted` bytes; no bytes mean that the device has ended. -/
def read (store : Store) (reader : Reader) (wanted : Nat) : Reader × Except Fault Bytes :=
  let noted := { reader with asked := wanted :: reader.asked }
  if reader.failAt.any fun position => reader.position ≥ position then
    (noted, .error reader.failure)
  else
    let answered := { noted with replies := reader.replies.drop 1 }
    match reader.replies.headD reader.later with
    | .give limit => answered.give store (min wanted (limit.getD wanted))
    | .nothing => (answered, .ok [])
    | .fail fault => (answered, .error fault)

end Reader

inductive Input where
  | reader (reader : Reader)
  /-- A file of the store, from a position on. -/
  | file (location : Location) (position : Nat)
deriving DecidableEq

namespace Input

/-- Asks for `wanted` bytes. -/
def read (store : Store) : Input → (wanted : Nat) → Input × Except Fault Bytes
  | reader device, wanted =>
    let (changed, answer) := device.read store wanted
    (reader changed, answer)
  | file location position, wanted =>
    let bytes := ((store.directory.content location).drop position).take wanted
    (file location (position + bytes.length), .ok bytes)

/--
Reads until `filled` bytes have become `wanted` bytes, and puts each chunk at the cursor of the
target. There is `room` for so many bytes; a chunk that is larger is lost. Where the target is a
shared buffer, `shared` tells which one, and each read sees what the reads before it have left
there.
-/
def fill (store : Store) (input : Input) (shared : Option BufferId) (target : Memory)
    (room wanted filled : Nat) : Attempt (Input × Memory) :=
  if _unfinished : filled < wanted then
    match input.read store (wanted - filled) with
    | (input, .error fault) => .failed (input, target) fault
    | (input, .ok []) => .failed (input, target) (.streamEnded filled wanted)
    | (input, .ok (head :: tail)) =>
      let size := tail.length + 1
      if size ≤ room then
        let changed := target.put (head :: tail)
        let store := shared.elim store fun id => store.refresh id changed.buffer
        input.fill store shared changed (room - size) wanted (filled + size)
      else .failed (input, target) .sizesDiffer
  else { state := (input, target) }
termination_by wanted - filled

end Input

inductive Source where
  /-- Bytes in memory, from a position on. -/
  | memory (content : Content) (position : Int)
  | stream (input : Input)
deriving DecidableEq

namespace Source

/-- A source in memory that starts inside its bytes. -/
def ofContent (store : Store) (content : Content) (offset : Int) : Except Fault Source :=
  let size := (content.bytes store).length
  if 0 ≤ offset ∧ offset ≤ size then .ok (memory content offset)
  else .error (.startOutside offset size)

/-- How many bytes a source in memory has left. -/
def remaining (store : Store) (content : Content) (position : Int) : Int :=
  (content.bytes store).length - position

def readByte (store : Store) (content : Content) (position : Int) : Except Fault (UInt8 × Source) :=
  let bytes := content.bytes store
  if position ≥ bytes.length then .error .pastEnd
  else if position < -(Nat.pow 2 63 : Int) then .error .positionTooLarge
  else
    let index := if position < 0 then position + bytes.length else position
    if index < 0 then .error .beyondView
    else .ok ((bytes[index.toNat]?).getD 0, memory content (position + 1))

/--
Fills `length` bytes of a buffer from an offset on. Bounds outside the buffer are clipped. Where the
buffer is a shared one, `shared` tells which.
-/
def readInto (store : Store) (source : Source) (shared : Option BufferId) (target : Buffer)
    (offset length : Int) : Attempt (Source × Buffer) :=
  match source with
  | memory content position =>
    let left := remaining store content position
    if length > left then .failed (source, target) (.tooFewLeft length left)
    else
      let bytes := (content.bytes store).slice position (position + length)
      match target.splice offset (offset + length) bytes with
      | .ok changed => { state := (memory content (position + length), changed) }
      | .error fault => .failed (source, target) fault
  | stream input =>
    let first := Bytes.clip target.bytes.length offset
    let size := Bytes.clip target.bytes.length (offset + length) - first
    (input.fill store shared (.ofBytes target.bytes first) size length.toNat 0).map
      fun (changed, filled) => (stream changed, { target with bytes := filled.buffer })

end Source

end IndexWire
