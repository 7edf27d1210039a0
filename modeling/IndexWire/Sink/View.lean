import IndexWire.Sink.Basic

/-!
# Views

What is written need not be a byte string: a view may have items of several bytes, and its items
need not stand one after another. A range of a view is told in items. A destination takes the bytes
of the range, but counts its items, also where it asks how much room there is and how far its cursor
moves. For a view whose items are bytes that is all the same, and `Request.bytes` writes what it
shows.
-/

namespace IndexWire

/-- Items of one size that are seen in memory. -/
structure View where
  /-- The number of bytes in an item. -/
  itemSize : Nat
  items : List Bytes
  /-- Whether each item stands right behind the one before it. -/
  isPacked : Bool := true
  itemSize_pos : 0 < itemSize
  length_item : ∀ item ∈ items, item.length = itemSize

namespace View

/-- The number of items. -/
def count (view : View) : Nat := view.items.length

/-- The bytes of all items. -/
def bytes (view : View) : Bytes := view.items.flatten

/-- Some of the items in a row. -/
def part (view : View) (start count : Nat) : View :=
  { view with
    items := (view.items.drop start).take count
    length_item := fun item mem =>
      view.length_item item (List.mem_of_mem_drop (List.mem_of_mem_take mem)) }

/--
A range of the items. Without a length the range goes to the end; one that is not inside the view is
refused.
-/
def range (view : View) (offset : Int) (length : Option Int) : Except Fault View :=
  let count := length.getD (view.count - offset)
  if offset < 0 ∨ count < 0 ∨ offset + count > view.count then
    .error (.rangeOutside offset count view.count)
  else .ok (view.part offset.toNat count.toNat)

/-- Whether the bytes of all items stand one after another; those of one item always do. -/
def isContiguous (view : View) : Bool := view.isPacked || view.count ≤ 1

end View

/-- Puts the bytes of items at the cursor, in the place of as many bytes as there are items. -/
def Region.putItems (region : Region) (buffer : Buffer) (items : View) :
    Except Fault (Region × Buffer) :=
  if items.count > region.remaining then
    .error (.regionTooSmall items.count region.remaining)
  else
    (buffer.splice region.position (region.position + items.count : Nat) items.bytes).map
      fun changed => ({ region with position := region.position + items.count }, changed)

/-- Writes the bytes of items to a device; a file takes only bytes that stand one after another. -/
def Device.writeItems (store : Store) : Device → View → Attempt (Store × Device)
  | .writer device, items => Device.write store (.writer device) items.bytes
  | .file device, items =>
    if items.isContiguous then Device.write store (.file device) items.bytes
    else .failed (store, .file device) .notPacked

/-- Writes items to the stream and counts them. -/
def Stream.putItems (stream : Stream) (store : Store) (items : View) : Attempt (Store × Stream) :=
  let attempt := stream.device.writeItems store items
  match attempt.fault with
  | some fault => .failed (attempt.state.1, { stream with device := attempt.state.2 }) fault
  | none =>
    { state :=
        (attempt.state.1,
          { stream with device := attempt.state.2, written := stream.written + items.count }) }

/-- Hands items to a destination. -/
def Destination.putItems (store : Store) : Destination → View → Attempt (Store × Destination)
  | .memory target, items => { state := (store, .memory (target.overlay items.count items.bytes)) }
  | .counter count, items => { state := (store, .counter (count + items.count)) }
  | .region target, items =>
    match target.putItems (store.buffer target.buffer) items with
    | .ok (changed, buffer) => { state := (store.setBuffer target.buffer buffer, .region changed) }
    | .error fault => .failed (store, .region target) fault
  | .stream target, items =>
    (target.putItems store items).map fun (changed, written) => (changed, .stream written)
  | .recorder target, items =>
    (target.put (.range items.bytes)).map fun taken => (store, .recorder taken)

namespace Sink

/-- Writes a range of the items of a view; nothing is written where it has no items. -/
def writeItems (store : Store) (sink : Sink) (view : View) (offset : Int) (length : Option Int) :
    Attempt (Store × Sink) :=
  match view.range offset length with
  | .error fault => .failed (store, sink) fault
  | .ok range =>
    if range.items.isEmpty then { state := (store, sink) }
    else
      (sink.destination.putItems store range).map fun (changed, destination) =>
        (changed, { sink with destination })

/-- A call that writes: a value, or a range of the items of a view. -/
inductive Writing where
  | value (request : Request)
  | items (view : View) (offset : Int) (length : Option Int)

/-- Makes a call that writes. -/
def perform (store : Store) (sink : Sink) : Writing → Attempt (Store × Sink)
  | .value request => sink.write store request
  | .items view offset length => sink.writeItems store view offset length

/-- Makes calls one after another, whether they fail or not, and gives the outcome of each. -/
def performAll (store : Store) (sink : Sink) : List Writing → Store × Sink × List (Option Fault)
  | [] => (store, sink, [])
  | writing :: rest =>
    let attempt := sink.perform store writing
    let (store, sink, faults) := attempt.state.2.performAll attempt.state.1 rest
    (store, sink, attempt.fault :: faults)

end Sink

end IndexWire
