import IndexWire.Store.Basic

/-!
# Writing files

A file that is open for writing collects small writes: bytes wait until there are too many of them,
and reach the file then, or when the writer is flushed. Larger writes reach the file at once. A
writer that appends puts bytes at the end of the file as it is at that moment; any other puts them
after the bytes that it has put there before, whatever has been written there by others meanwhile.
-/

namespace IndexWire

structure FileWriter where
  location : Location
  /-- Where the next bytes go; without a position they go to the end. -/
  position : Option Nat := none
  /-- The bytes that have not reached the file yet. -/
  pending : Bytes := []
  isClosed : Bool := false
deriving DecidableEq

namespace FileWriter

/-- How many bytes wait at most. -/
def capacity : Nat := 4096

def commit (store : Store) (writer : FileWriter) (bytes : Bytes) : Store × FileWriter :=
  match writer.position with
  | none => (store.appendFile writer.location bytes, writer)
  | some position =>
    (store.overwriteFile writer.location position bytes,
      { writer with position := some (position + bytes.length) })

def flush (store : Store) (writer : FileWriter) : Store × FileWriter :=
  let (store, written) := writer.commit store writer.pending
  (store, { written with pending := [] })

/-- Takes bytes: they wait, if they and those that wait already are few enough. -/
def write (store : Store) (writer : FileWriter) (bytes : Bytes) : Store × FileWriter :=
  if writer.pending.length + bytes.length ≤ capacity then
    (store, { writer with pending := writer.pending ++ bytes })
  else
    let (store, flushed) := writer.flush store
    if bytes.length ≤ capacity then (store, { flushed with pending := bytes })
    else flushed.commit store bytes

/-- Flushes the writer, which then takes no more bytes. -/
def close (store : Store) (writer : FileWriter) : Store × FileWriter :=
  let (store, flushed) := writer.flush store
  (store, { flushed with isClosed := true })

end FileWriter

end IndexWire
