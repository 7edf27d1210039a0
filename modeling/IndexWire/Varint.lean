import IndexWire.Bytes
import IndexWire.Word

/-!
# Variable-length numbers

A natural number is written in groups of seven bits, low group first; every byte but the last has
its high bit set. `encode` writes a number, `size` counts the bytes without writing them, and
`decode` reads one back. `wordSize` is the size of what the low bits of an integer are. `WellFormed`
and `value` say what such a string is and which number it denotes, whether or not it is the
shortest.
-/

namespace IndexWire

namespace Varint

/-- The bytes of a number: the low seven bits first, the high bit set on all but the last byte. -/
def encode (number : Nat) : Bytes :=
  if number < 128 then [UInt8.ofNat number]
  else UInt8.ofNat (number % 128 + 128) :: encode (number / 128)
termination_by number

/-- The number of groups of seven bits that a number fills; zero fills one. -/
def size (number : Nat) : Nat :=
  if number < 128 then 1 else size (number / 128) + 1
termination_by number

/-- The number of bytes that the low `width` bits of an integer fill. -/
def wordSize (width : Nat) (value : Int) : Nat := size (Word.unsigned width value)

/-- A string that ends at its first byte without the high bit. -/
def WellFormed : Bytes → Prop
  | [] => False
  | [last] => last.toNat < 128
  | group :: rest => 128 ≤ group.toNat ∧ WellFormed rest

/-- The little-endian sum of the seven-bit groups. -/
def value : Bytes → Nat
  | [] => 0
  | group :: rest => group.toNat % 128 + 128 * value rest

/-- Reads one number and returns it with the rest, or `none` when the bytes end too soon. -/
def decode : Bytes → Option (Nat × Bytes)
  | [] => none
  | group :: rest =>
    if group.toNat < 128 then some (group.toNat, rest)
    else (decode rest).map fun (high, remaining) => (group.toNat - 128 + 128 * high, remaining)

theorem encode_of_lt {number : Nat} (small : number < 128) :
    encode number = [UInt8.ofNat number] := by
  rw [encode, if_pos small]

theorem encode_of_le {number : Nat} (large : 128 ≤ number) :
    encode number = UInt8.ofNat (number % 128 + 128) :: encode (number / 128) := by
  rw [encode, if_neg (by omega)]

theorem length_encode (number : Nat) : (encode number).length = size number := by
  fun_induction encode number with
  | case1 number small => rw [size, if_pos small]; rfl
  | case2 number large ih =>
    rw [size, if_neg large]
    simp [ih]

/-- Reading what was written gives the number back and stops where the rest begins. -/
theorem decode_encode_append (number : Nat) (rest : Bytes) :
    decode (encode number ++ rest) = some (number, rest) := by
  fun_induction encode number with
  | case1 number small =>
    simp only [List.cons_append, List.nil_append, decode, UInt8.toNat_ofNat']
    rw [Nat.mod_eq_of_lt (by omega), if_pos small]
  | case2 number large ih =>
    simp only [List.cons_append, decode, UInt8.toNat_ofNat']
    rw [Nat.mod_eq_of_lt (by omega), if_neg (by omega), ih]
    simp only [Option.map_some, Option.some.injEq, Prod.mk.injEq, and_true]
    omega

end Varint

end IndexWire
