import IndexWire.Bytes

/-!
# Memory

A byte buffer with a cursor inside it. Bytes are put at the cursor, over what stands there, and the
buffer grows where they go beyond its end. The buffer is kept in two parts, so that putting bytes
costs no more than their number: `value` is the part before the cursor, and `buffer` is the whole.
-/

namespace IndexWire

/-- A buffer that grows, parted at a cursor inside it. -/
structure Memory where
  /-- The bytes before the cursor, last first. -/
  before : Bytes := []
  /-- The bytes from the cursor on. -/
  after : Bytes := []
deriving DecidableEq

namespace Memory

/-- Bytes with the cursor at a position. -/
def ofBytes (bytes : Bytes) (position : Nat) : Memory where
  before := (bytes.take position).reverse
  after := bytes.drop position

/-- Puts bytes at the cursor, over what is there. -/
def put (memory : Memory) (bytes : Bytes) : Memory where
  before := bytes.reverse ++ memory.before
  after := memory.after.drop bytes.length

/--
Puts bytes in the place of `count` bytes from the cursor on, and moves the cursor by `count`; what
is more than that stands behind the cursor then.
-/
def overlay (memory : Memory) (count : Nat) (bytes : Bytes) : Memory where
  before := (bytes.take count).reverse ++ memory.before
  after := bytes.drop count ++ memory.after.drop count

def value (memory : Memory) : Bytes := memory.before.reverse

def position (memory : Memory) : Nat := memory.before.length

def buffer (memory : Memory) : Bytes := memory.value ++ memory.after

/-- Moves the cursor to the start; the buffer stays. -/
def reset (memory : Memory) : Memory := { after := memory.buffer }

/-- The cursor stands at the end of the value. -/
theorem length_value (memory : Memory) : memory.value.length = memory.position := by
  simp [value, position]

/-- Whatever the position, no byte is lost. -/
@[simp]
theorem buffer_ofBytes (bytes : Bytes) (position : Nat) :
    (ofBytes bytes position).buffer = bytes := by
  simp [ofBytes, buffer, value]

/-- What is put stands after what was there. -/
@[simp]
theorem value_put (memory : Memory) (bytes : Bytes) :
    (memory.put bytes).value = memory.value ++ bytes := by
  simp [put, value]

@[simp]
theorem value_overlay (memory : Memory) (count : Nat) (bytes : Bytes) :
    (memory.overlay count bytes).value = memory.value ++ bytes.take count := by
  simp [overlay, value]

/-- Bytes that are put take the place of as many others. -/
theorem overlay_length (memory : Memory) (bytes : Bytes) :
    memory.overlay bytes.length bytes = memory.put bytes := by
  simp [overlay, put]

end Memory

end IndexWire
