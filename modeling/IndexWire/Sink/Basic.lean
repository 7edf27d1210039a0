import IndexWire.Sink.Destination
import IndexWire.Source.Basic

/-!
# Sinks

A sink writes values to a destination under a surrogate policy. `write` makes one request; `copy`
moves bytes from a source through a scratch buffer, one block after another. What was delivered
before a failure stays delivered.
-/

namespace IndexWire

/-- The number of bytes in a block of a copy. -/
def blockSize : Nat := 16384

/-- A destination with the policy of its texts and the scratch buffer of its copies. -/
structure Sink where
  policy : SurrogatePolicy
  /-- The buffer that copies go through, once there has been a copy. -/
  scratch : Option Bytes := none
  destination : Destination
deriving DecidableEq

namespace Sink

/-- Delivers the pieces of a plan, and then reports the fault of the plan if it has one. -/
def carryOut (store : Store) (sink : Sink) (plan : Plan) : Attempt (Store × Sink) :=
  let attempt := sink.destination.deliver store plan.pieces
  { state := (attempt.state.1, { sink with destination := attempt.state.2 })
    fault := attempt.fault.or plan.fault
    notices := attempt.notices }

/-- Writes what is requested. -/
def write (store : Store) (sink : Sink) (request : Request) : Attempt (Store × Sink) :=
  sink.carryOut store (request.plan sink.policy)

/-- Makes requests one after another, whether they fail or not, and gives the outcome of each. -/
def writeAll (store : Store) (sink : Sink) : List Request → Store × Sink × List (Option Fault)
  | [] => (store, sink, [])
  | request :: rest =>
    let attempt := sink.write store request
    let (store, sink, faults) := attempt.state.2.writeAll attempt.state.1 rest
    (store, sink, attempt.fault :: faults)

/-- The sink with a scratch buffer. -/
def withScratch (sink : Sink) : Sink :=
  { sink with scratch := some (sink.scratch.getD (List.replicate blockSize 0)) }

end Sink

/-- What takes part in a copy. -/
structure Transfer where
  store : Store
  sink : Sink
  source : Source

namespace Transfer

/-- Reads `count` bytes into the scratch buffer of the sink. -/
def load (transfer : Transfer) (count : Nat) : Attempt Transfer :=
  let scratch := transfer.sink.scratch.getD []
  let loaded := transfer.source.readInto transfer.store none { bytes := scratch } 0 count
  loaded.map fun (source, buffer) =>
    { transfer with source, sink := { transfer.sink with scratch := some buffer.bytes } }

/-- Writes the first `count` bytes of the scratch buffer to the sink. -/
def unload (transfer : Transfer) (count : Nat) : Attempt Transfer :=
  let scratch := transfer.sink.scratch.getD []
  (transfer.sink.write transfer.store (.bytes scratch 0 (some count))).map fun (store, sink) =>
    { transfer with store, sink }

/-- Moves `left` bytes in blocks, up to the first block that cannot be read or written. -/
def moveBlocks (transfer : Transfer) (left : Nat) : Attempt Transfer :=
  if _unfinished : 0 < left then
    let count := min left blockSize
    let loaded := transfer.load count
    match loaded.fault with
    | some _ => loaded
    | none =>
      let unloaded := loaded.state.unload count
      match unloaded.fault with
      | some _ => unloaded
      | none => unloaded.state.moveBlocks (left - count)
  else { state := transfer }
termination_by left
decreasing_by
  simp only [blockSize]
  omega

/--
Moves one byte after another, as often as `count` tells, up to the first that cannot be moved.
-/
def moveBytes (transfer : Transfer) : (count : Nat) → Attempt Transfer
  | 0 => { state := transfer }
  | count + 1 =>
    let read := transfer.source.readInto transfer.store none { bytes := [0] } 0 1
    match read.fault with
    | some fault => .failed { transfer with source := read.state.1 } fault
    | none =>
      let byte := read.state.2.bytes.headD 0
      let written := transfer.sink.write transfer.store (.byte byte.toNat)
      let moved : Transfer := ⟨written.state.1, written.state.2, read.state.1⟩
      match written.fault with
      | some fault => .failed moved fault
      | none => moved.moveBytes count

/-- What a copy reports when it is done. -/
def copyNotice (count : Nat) : Notice where
  level := .debug
  logger := Text.ofString "bytesink.sink"
  message :=
    Text.ofString s!"copied {count} bytes in {(count + blockSize - 1) / blockSize} chunk(s)"

/-- Copies `count` bytes from a source to the sink. -/
def copy (transfer : Transfer) (count : Int) : Attempt Transfer :=
  if count < 0 then .failed transfer (.negativeCount count)
  else
    let moved := { transfer with sink := transfer.sink.withScratch }.moveBlocks count.toNat
    match moved.fault with
    | some _ => moved
    | none => { moved with notices := moved.notices ++ [copyNotice count.toNat] }

end Transfer

end IndexWire
