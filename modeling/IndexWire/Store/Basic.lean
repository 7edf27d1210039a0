import IndexWire.Bytes
import IndexWire.Directory.Basic

/-!
# Store

What several sinks and sources may share: byte buffers that each of them sees change, and the files
of a directory. A buffer that is viewed is pinned, and a pinned buffer keeps its size.
-/

namespace IndexWire

/-- A byte buffer that can change, and how many views of it there are. -/
structure Buffer where
  bytes : Bytes
  pins : Nat := 0
deriving DecidableEq

namespace Buffer

/-- Replaces the bytes between two bounds, unless that changes the size of a pinned buffer. -/
def splice (buffer : Buffer) (start stop : Int) (replacement : Bytes) : Except Fault Buffer :=
  let changed := buffer.bytes.splice start stop replacement
  if changed.length ≠ buffer.bytes.length ∧ buffer.pins ≠ 0 then .error .pinned
  else .ok { buffer with bytes := changed }

/-- Puts one byte at a position inside the buffer. -/
def set (buffer : Buffer) (position : Nat) (byte : UInt8) : Except Fault Buffer :=
  if position < buffer.bytes.length then .ok { buffer with bytes := buffer.bytes.set position byte }
  else .error .beyondBuffer

end Buffer

/-- The place of a buffer in a store. -/
abbrev BufferId := Nat

structure Store where
  /-- The buffers in the order in which they were made. -/
  buffers : List Buffer := []
  directory : Directory := {}

namespace Store

/-- The buffer at a place; an empty one where there is none. -/
def buffer (store : Store) (id : BufferId) : Buffer := (store.buffers[id]?).getD { bytes := [] }

def setBuffer (store : Store) (id : BufferId) (buffer : Buffer) : Store :=
  { store with buffers := store.buffers.set id buffer }

/-- The store in which a buffer holds the given bytes. -/
def refresh (store : Store) (id : BufferId) (bytes : Bytes) : Store :=
  store.setBuffer id { store.buffer id with bytes }

/-- The store with a new buffer, and its place. -/
def addBuffer (store : Store) (bytes : Bytes) : Store × BufferId :=
  ({ store with buffers := store.buffers ++ [{ bytes }] }, store.buffers.length)

/-- The store with one more view of a buffer. -/
def pin (store : Store) (id : BufferId) : Store :=
  let buffer := store.buffer id
  store.setBuffer id { buffer with pins := buffer.pins + 1 }

/-- The store with one view of a buffer less. -/
def unpin (store : Store) (id : BufferId) : Store :=
  let buffer := store.buffer id
  store.setBuffer id { buffer with pins := buffer.pins - 1 }

def appendFile (store : Store) (location : Location) (bytes : Bytes) : Store :=
  { store with directory := store.directory.append location bytes }

/-- The store with bytes put over those of a file from a position on. -/
def overwriteFile (store : Store) (location : Location) (position : Nat) (bytes : Bytes) : Store :=
  { store with directory := store.directory.overwrite location position bytes }

end Store

end IndexWire
