import IndexWire.Sink.Request
import IndexWire.Store.FileWriter
import IndexWire.Store.Memory

/-!
# Destinations

Where the pieces of a request go: a buffer that grows, a window of a shared buffer, a stream, a
counter, or a recorder. `put` hands one piece to a destination; `deliver` hands over pieces in
order and stops at the first that is not taken.
-/

namespace IndexWire

/-- A window of a shared buffer, with a cursor inside it. -/
structure Region where
  buffer : BufferId
  start : Nat
  stop : Nat
  position : Nat
deriving DecidableEq

namespace Region

/-- How many bytes the window still takes. -/
def remaining (region : Region) : Nat := region.stop - region.position

/-- A window of a buffer; without a length it goes to the end. -/
def ofBuffer (id : BufferId) (size : Nat) (offset : Int) (length : Option Int) :
    Except Fault Region :=
  let count := length.getD (size - offset)
  if offset < 0 ∨ count < 0 ∨ offset + count > size then
    .error (.regionOutside offset count size)
  else .ok ⟨id, offset.toNat, (offset + count).toNat, offset.toNat⟩

/-- Puts a byte at the cursor. -/
def putByte (region : Region) (buffer : Buffer) (byte : UInt8) : Except Fault (Region × Buffer) :=
  if region.position ≥ region.stop then .error .regionFull
  else
    (buffer.set region.position byte).map fun changed =>
      ({ region with position := region.position + 1 }, changed)

/-- Puts bytes at the cursor. -/
def putRange (region : Region) (buffer : Buffer) (bytes : Bytes) : Except Fault (Region × Buffer) :=
  if bytes.length > region.remaining then
    .error (.regionTooSmall bytes.length region.remaining)
  else
    (buffer.splice region.position (region.position + bytes.length : Nat) bytes).map fun changed =>
      ({ region with position := region.position + bytes.length }, changed)

/-- Puts a piece at the cursor. -/
def put (region : Region) (buffer : Buffer) : Piece → Except Fault (Region × Buffer)
  | .byte byte => region.putByte buffer byte
  | .range bytes => region.putRange buffer bytes

/-- Moves the cursor to a position of the buffer inside the window, or to the window's start. -/
def reset (region : Region) (offset : Option Int) : Except Fault Region :=
  let target := offset.getD region.start
  if region.start ≤ target ∧ target ≤ region.stop then .ok { region with position := target.toNat }
  else .error (.cursorOutside target region.start region.stop)

end Region

/--
A device that takes bytes as it is told to: it may have a budget of bytes beyond which it refuses,
and it may keep no more than the first bytes of each write.
-/
structure Writer where
  /-- The bytes kept, last first. -/
  taken : Bytes := []
  /-- The size of each write asked for, latest first. -/
  asked : List Nat := []
  flushes : Nat := 0
  isClosed : Bool := false
  /-- How many bytes the device keeps at most. -/
  budget : Option Nat := none
  /-- The fault of a write beyond the budget. -/
  refusal : Fault := .closed
  /-- How many bytes of one write the device keeps at most. -/
  limit : Option Nat := none
deriving DecidableEq

namespace Writer

/-- The bytes kept. -/
def kept (writer : Writer) : Bytes := writer.taken.reverse

/-- The size of each write asked for, oldest first. -/
def writes (writer : Writer) : List Nat := writer.asked.reverse

/-- Takes bytes, or refuses them as a whole. -/
def write (writer : Writer) (bytes : Bytes) : Attempt Writer :=
  if writer.isClosed then .failed writer .closed
  else
    let noted := { writer with asked := bytes.length :: writer.asked }
    if writer.budget.any fun budget => writer.taken.length + bytes.length > budget then
      .failed noted writer.refusal
    else
      let kept := bytes.take (writer.limit.getD bytes.length)
      { state := { noted with taken := kept.reverse ++ writer.taken } }

/-- Flushes the device. -/
def flush (writer : Writer) : Attempt Writer :=
  if writer.isClosed then .failed writer .closed
  else { state := { writer with flushes := writer.flushes + 1 } }

end Writer

/-- What a stream writes to. -/
inductive Device where
  | writer (writer : Writer)
  | file (file : FileWriter)
deriving DecidableEq

namespace Device

/-- Writes bytes to a device. -/
def write (store : Store) : Device → Bytes → Attempt (Store × Device)
  | writer device, bytes => (device.write bytes).map fun written => (store, writer written)
  | file device, bytes =>
    if device.isClosed then .failed (store, file device) .closed
    else
      let (store, written) := device.write store bytes
      { state := (store, file written) }

/-- Flushes a device. -/
def flush (store : Store) : Device → Attempt (Store × Device)
  | writer device => device.flush.map fun flushed => (store, writer flushed)
  | file device =>
    if device.isClosed then .failed (store, file device) .closed
    else
      let (store, flushed) := device.flush store
      { state := (store, file flushed) }

/-- Closes a device, which may be closed already. -/
def close (store : Store) : Device → Store × Device
  | writer device => (store, writer { device with isClosed := true })
  | file device =>
    let (store, closed) := device.close store
    (store, file closed)

end Device

/-- A stream, with a count of the bytes written to it. -/
structure Stream where
  /-- The name of the stream in notices. -/
  name : Text
  /-- The size of all writes that did not fail. -/
  written : Nat := 0
  device : Device
deriving DecidableEq

namespace Stream

/-- Writes bytes to the stream and counts them. -/
def put (stream : Stream) (store : Store) (bytes : Bytes) : Attempt (Store × Stream) :=
  let attempt := stream.device.write store bytes
  match attempt.fault with
  | some fault => .failed (attempt.state.1, { stream with device := attempt.state.2 }) fault
  | none =>
    { state :=
        (attempt.state.1,
          { stream with device := attempt.state.2, written := stream.written + bytes.length }) }

/-- Flushes the stream. -/
def flush (stream : Stream) (store : Store) : Attempt (Store × Stream) :=
  (stream.device.flush store).map fun (store, device) => (store, { stream with device })

/-- What is reported when the stream has been closed. -/
def closedNotice (stream : Stream) : Notice where
  level := .debug
  logger := Text.ofString "bytesink.sinks"
  message :=
    Text.ofString "closed stream sink " ++ stream.name ++ Text.ofString " after "
      ++ Text.ofNat stream.written ++ Text.ofString " bytes"

/-- Closes the stream and reports how many bytes were written to it. -/
def close (stream : Stream) (store : Store) : Attempt (Store × Stream) :=
  let (store, device) := stream.device.close store
  { state := (store, { stream with device }), notices := [stream.closedNotice] }

end Stream

/-- A destination that keeps every piece it is handed, up to a budget of bytes. -/
structure Recorder where
  /-- The bytes taken, last first. -/
  taken : Bytes := []
  /-- Every piece handed over, latest first. -/
  handed : List Piece := []
  /-- How many bytes are taken at most. -/
  budget : Option Nat := none
  /-- The fault of a piece beyond the budget. -/
  refusal : Fault := .closed
deriving DecidableEq

namespace Recorder

/-- The bytes taken. -/
def data (recorder : Recorder) : Bytes := recorder.taken.reverse

/-- Every piece handed over, oldest first. -/
def calls (recorder : Recorder) : List Piece := recorder.handed.reverse

/-- Takes a piece, or refuses it as a whole. -/
def put (recorder : Recorder) (piece : Piece) : Attempt Recorder :=
  let noted := { recorder with handed := piece :: recorder.handed }
  if recorder.budget.any fun budget => recorder.taken.length + piece.bytes.length > budget then
    .failed noted recorder.refusal
  else { state := { noted with taken := piece.bytes.reverse ++ recorder.taken } }

end Recorder

/-- Where the pieces of a request go. -/
inductive Destination where
  /-- A buffer that grows. -/
  | memory (memory : Memory)
  /-- A count of the bytes, which are not kept. -/
  | counter (count : Nat)
  | region (region : Region)
  | stream (stream : Stream)
  | recorder (recorder : Recorder)
deriving DecidableEq

namespace Destination

/-- Hands a piece to a destination. -/
def put (store : Store) : Destination → Piece → Attempt (Store × Destination)
  | memory target, piece => { state := (store, memory (target.put piece.bytes)) }
  | counter count, piece => { state := (store, counter (count + piece.bytes.length)) }
  | region target, piece =>
    match target.put (store.buffer target.buffer) piece with
    | .ok (changed, buffer) => { state := (store.setBuffer target.buffer buffer, region changed) }
    | .error fault => .failed (store, region target) fault
  | stream target, piece =>
    (target.put store piece.bytes).map fun (changed, written) => (changed, stream written)
  | recorder target, piece => (target.put piece).map fun taken => (store, recorder taken)

/-- Hands pieces to a destination in order, up to the first that is not taken. -/
def deliver (store : Store) (destination : Destination) : List Piece → Attempt (Store × Destination)
  | [] => { state := (store, destination) }
  | piece :: rest =>
    let attempt := destination.put store piece
    match attempt.fault with
    | some _ => attempt
    | none => deliver attempt.state.1 attempt.state.2 rest

/-- How many bytes a destination has taken. -/
def count : Destination → Nat
  | memory target => target.position
  | counter count => count
  | region target => target.position - target.start
  | stream target => target.written
  | recorder target => target.taken.length

/-- Closes a stream; the other destinations need no closing. -/
def close (store : Store) : Destination → Attempt (Store × Destination)
  | stream target => (target.close store).map fun (store, closed) => (store, stream closed)
  | other => { state := (store, other) }

end Destination

end IndexWire
