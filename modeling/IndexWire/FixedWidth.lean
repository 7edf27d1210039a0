import IndexWire.Varint

/-!
# Fixed-width numbers

A number in a fixed count of bytes, most significant byte first. `encode` keeps the low bytes of
the number; `value` is the number that a string of bytes denotes.
-/

namespace IndexWire

namespace FixedWidth

/-- The low `count` bytes of a number, most significant byte first. -/
def encode : (count : Nat) → (number : Nat) → Bytes
  | 0, _ => []
  | count + 1, number => UInt8.ofNat (number / Nat.pow 256 count) :: encode count number

/-- The number denoted by a string of bytes, most significant byte first. -/
def value (bytes : Bytes) : Nat :=
  bytes.foldl (fun high byte => high * 256 + byte.toNat) 0

/-- Reads a number of `count` bytes, or `none` when fewer are left. -/
def decode (count : Nat) (bytes : Bytes) : Option (Nat × Bytes) :=
  if count ≤ bytes.length then some (value (bytes.take count), bytes.drop count) else none

@[simp] theorem length_encode (count number : Nat) : (encode count number).length = count := by
  induction count with
  | zero => rfl
  | succ count ih => simp [encode, ih]

end FixedWidth

end IndexWire
