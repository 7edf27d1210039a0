/-!
# Words

Integers of any size read as words of a fixed number of bits. `unsigned` and `signed` are the two
readings of the low bits of an integer; `zigzag` and `unzigzag` move between the signed reading and
an unsigned number that is small when the magnitude is small.
-/

namespace IndexWire

namespace Word

/-- The low `width` bits of an integer, read as an unsigned number. -/
def unsigned (width : Nat) (value : Int) : Nat :=
  (value % Nat.pow 2 width).toNat

/-- The low `width` bits of an integer, read as a two's complement number. -/
def signed (width : Nat) (value : Int) : Int :=
  let low := unsigned width value
  if low < Nat.pow 2 (width - 1) then low else (low : Int) - Nat.pow 2 width

/--
The zigzag form of the low `width` bits of an integer: `0, -1, 1, -2` become `0, 1, 2, 3`.
The word is doubled and then inverted when its sign bit is set.
-/
def zigzag (width : Nat) (value : Int) : Nat :=
  let word := BitVec.ofInt width value
  ((word <<< 1) ^^^ word.sshiftRight (width - 1)).toNat

/-- The signed number whose zigzag form is given by the low `width` bits of an integer. -/
def unzigzag (width : Nat) (value : Int) : Int :=
  let word := BitVec.ofInt width value
  ((word >>> 1) ^^^ -(word &&& 1)).toInt

/-- An integer fits a width when its signed or its unsigned reading of that width is itself. -/
def Fits (width : Nat) (value : Int) : Prop :=
  -(Nat.pow 2 (width - 1) : Int) ≤ value ∧ value < Nat.pow 2 width

instance (width : Nat) (value : Int) : Decidable (Fits width value) :=
  inferInstanceAs (Decidable (_ ∧ _))

end Word

end IndexWire
