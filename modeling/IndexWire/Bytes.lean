/-!
# Byte strings

Byte strings with the slices that reads and writes of a range are made of. A bound of a slice may be
any integer: a negative one counts from the end, and one beyond the string is clipped to it.
-/

namespace IndexWire

/-- A string of bytes. -/
abbrev Bytes := List UInt8

namespace Bytes

/-- The position in a string of `size` bytes that a bound denotes. -/
def clip (size : Nat) (bound : Int) : Nat :=
  if bound < 0 then (bound + size).toNat else min bound.toNat size

/-- The bytes from one bound up to another; none when the bounds are out of order. -/
def slice (bytes : Bytes) (start stop : Int) : Bytes :=
  (bytes.take (clip bytes.length stop)).drop (clip bytes.length start)

/--
The string in which the bytes between two bounds are replaced by others, which may be more or fewer.
When the bounds are out of order, the new bytes are inserted at the first one.
-/
def splice (bytes : Bytes) (start stop : Int) (replacement : Bytes) : Bytes :=
  let first := clip bytes.length start
  bytes.take first ++ replacement ++ bytes.drop (max first (clip bytes.length stop))

theorem clip_le (size : Nat) (bound : Int) : clip size bound ≤ size := by
  unfold clip
  split <;> omega

/-- Inside the string a bound denotes itself. -/
theorem clip_of_le {size position : Nat} (inside : position ≤ size) :
    clip size position = position := by
  unfold clip
  split <;> omega

/-- A bound that is not negative is clipped at the end alone. -/
theorem clip_natCast (size position : Nat) : clip size position = min position size := by
  unfold clip
  split <;> omega

/-- A splice that starts inside the string replaces what is there of a range. -/
theorem splice_of_le {bytes : Bytes} {start length : Nat} (inside : start ≤ bytes.length)
    (replacement : Bytes) :
    bytes.splice start (start + length : Nat) replacement
      = bytes.take start ++ replacement ++ bytes.drop (start + length) := by
  simp only [splice, clip_of_le inside]
  rcases Nat.le_total (start + length) bytes.length with within | beyond
  · rw [clip_of_le within, Nat.max_eq_right (Nat.le_add_right start length)]
  · rw [clip_natCast, Nat.min_eq_right beyond, Nat.max_eq_right inside,
      List.drop_of_length_le (Nat.le_refl bytes.length), List.drop_of_length_le beyond]

/-- Between bounds inside the string, a slice has the bytes between them. -/
theorem slice_of_le {bytes : Bytes} {start length : Nat} (inside : start + length ≤ bytes.length) :
    bytes.slice start (start + length : Nat) = (bytes.drop start).take length := by
  unfold slice
  rw [clip_of_le inside, clip_of_le (by omega), List.drop_take]
  congr 1
  omega

/-- Replacing bytes by equally many, at bounds inside the string, keeps the length. -/
theorem length_splice_of_le {bytes replacement : Bytes} {start : Nat}
    (inside : start + replacement.length ≤ bytes.length) :
    (bytes.splice start (start + replacement.length : Nat) replacement).length = bytes.length := by
  unfold splice
  rw [clip_of_le (by omega), clip_of_le inside]
  simp only [List.length_append, List.length_take, List.length_drop]
  omega

end Bytes

end IndexWire
