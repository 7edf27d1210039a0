import IndexWire.FixedWidth
import IndexWire.Word
import Mathlib.Tactic.Ring

/-!
# Numbers as bytes

The arithmetic behind the integers of the wire format. A value is known to a reader by the low bits
of it that were written: its signed reading depends on them alone, and the zigzag form of a word and
the fixed-width form of a number can both be undone.
-/

namespace IndexWire

namespace Word

theorem cast_unsigned (width : Nat) (value : Int) :
    (unsigned width value : Int) = value % 2 ^ width := by
  have nonnegative : 0 ≤ value % 2 ^ width :=
    Int.emod_nonneg value (Int.ne_of_gt (Int.pow_pos (by decide)))
  rw [unsigned, Nat.pow_eq, Nat.cast_pow, Nat.cast_ofNat, Int.toNat_of_nonneg nonnegative]

/-- The unsigned reading is a word. -/
theorem unsigned_lt (width : Nat) (value : Int) : unsigned width value < 2 ^ width := by
  have below : value % 2 ^ width < 2 ^ width := Int.emod_lt_of_pos value (Int.pow_pos (by decide))
  rw [← cast_unsigned] at below
  exact_mod_cast below

theorem unsigned_of_lt {width number : Nat} (small : number < 2 ^ width) :
    unsigned width number = number := by
  have cast := cast_unsigned width number
  rw [Int.emod_eq_of_lt (by omega) (by exact_mod_cast small)] at cast
  exact_mod_cast cast

theorem fits_iff (width : Nat) (value : Int) :
    Fits width value ↔ -2 ^ (width - 1) ≤ value ∧ value < 2 ^ width := by
  simp only [Fits, Nat.pow_eq, Nat.cast_pow, Nat.cast_ofNat]

/-- The signed reading does not change when the value is replaced by its unsigned reading. -/
theorem signed_unsigned (width : Nat) (value : Int) :
    signed width (unsigned width value) = signed width value := by
  simp only [signed, unsigned_of_lt (unsigned_lt width value)]

theorem signed_of_low {width : Nat} {value : Int}
    (low : unsigned width value < 2 ^ (width - 1)) :
    signed width value = unsigned width value :=
  if_pos low

theorem signed_of_high {width : Nat} {value : Int}
    (high : 2 ^ (width - 1) ≤ unsigned width value) :
    signed width value = unsigned width value - 2 ^ width := by
  rw [signed, Nat.pow_eq, Nat.pow_eq, if_neg (Nat.not_lt.mpr high), Nat.cast_pow, Nat.cast_ofNat]

theorem signed_of_lt {width number : Nat} (small : number < 2 ^ (width - 1)) :
    signed width number = number := by
  have wide : number < 2 ^ width :=
    Nat.lt_of_lt_of_le small (Nat.pow_le_pow_right (by decide) (Nat.sub_le width 1))
  have itself := unsigned_of_lt wide
  rw [signed_of_low (by rw [itself]; exact small), itself]

theorem two_pow_eq_double {width : Nat} (positive : 0 < width) :
    2 ^ width = 2 * 2 ^ (width - 1) := by
  rw [← Nat.pow_succ', Nat.succ_eq_add_one, Nat.sub_add_cancel positive]

theorem toNat_ofInt (width : Nat) (value : Int) :
    (BitVec.ofInt width value).toNat = unsigned width value := by
  simp [unsigned]

/-- An arithmetic shift that leaves only the sign of a word gives no bit or all of them. -/
theorem sshiftRight_sign {width : Nat} (word : BitVec width) :
    word.sshiftRight (width - 1)
      = if word.msb then BitVec.allOnes width else BitVec.ofNat width 0 := by
  ext index inside
  have moved : (word.sshiftRight (width - 1))[index] = word.msb := by
    rw [BitVec.getElem_sshiftRight inside]
    split
    · have first : index = 0 := by omega
      subst first
      rw [BitVec.msb_eq_getLsbD_last, BitVec.getLsbD_eq_getElem (by omega)]
      rfl
    · rfl
  rw [moved]
  cases word.msb <;> simp

/-- The zigzag form of a word whose sign bit is clear is twice its unsigned reading. -/
theorem zigzag_of_low {width : Nat} (positive : 0 < width) {value : Int}
    (low : unsigned width value < 2 ^ (width - 1)) :
    zigzag width value = 2 * unsigned width value := by
  have double := two_pow_eq_double positive
  have sign : (BitVec.ofInt width value).msb = false := by
    rw [BitVec.msb_eq_decide, toNat_ofInt]
    exact decide_eq_false (by omega)
  simp only [zigzag, sshiftRight_sign, sign, Bool.false_eq_true, if_false, BitVec.xor_zero,
    BitVec.toNat_shiftLeft, toNat_ofInt, Nat.shiftLeft_eq]
  rw [Nat.mod_eq_of_lt (by omega)]
  omega

/-- The zigzag form of a word whose sign bit is set counts down from the greatest word. -/
theorem zigzag_of_high {width : Nat} (positive : 0 < width) {value : Int}
    (high : 2 ^ (width - 1) ≤ unsigned width value) :
    zigzag width value = 2 * (2 ^ width - unsigned width value) - 1 := by
  have double := two_pow_eq_double positive
  have below := unsigned_lt width value
  have sign : (BitVec.ofInt width value).msb = true := by
    rw [BitVec.msb_eq_decide, toNat_ofInt]
    exact decide_eq_true high
  simp only [zigzag, sshiftRight_sign, sign, if_true, BitVec.xor_allOnes, BitVec.toNat_not,
    BitVec.toNat_shiftLeft, toNat_ofInt, Nat.shiftLeft_eq]
  have wraps : unsigned width value * 2 ^ 1 % 2 ^ width = 2 * unsigned width value - 2 ^ width := by
    rw [Nat.mod_eq_sub_mod (by omega), Nat.mod_eq_of_lt (by omega)]
    omega
  rw [wraps]
  omega

theorem zigzag_lt (width : Nat) (value : Int) : zigzag width value < 2 ^ width :=
  BitVec.isLt _

theorem and_one (width : Nat) (value : Int) :
    BitVec.ofInt width value &&& 1 = BitVec.ofNat width (unsigned width value % 2) := by
  have word : BitVec.ofInt width value = BitVec.ofNat width (unsigned width value) := by
    apply BitVec.eq_of_toNat_eq
    rw [toNat_ofInt, BitVec.toNat_ofNat, Nat.mod_eq_of_lt (unsigned_lt width value)]
  rw [word, ← Nat.and_one_is_mod, BitVec.ofNat_and]
  rfl

theorem unzigzag_of_even {width : Nat} (positive : 0 < width) {value : Int}
    (even : unsigned width value % 2 = 0) :
    unzigzag width value = unsigned width value / 2 := by
  have double := two_pow_eq_double positive
  have below := unsigned_lt width value
  have half : (BitVec.ofInt width value >>> 1).toNat = unsigned width value / 2 := by
    rw [BitVec.toNat_ushiftRight, toNat_ofInt, Nat.shiftRight_eq_div_pow, Nat.pow_one]
  simp only [unzigzag, and_one, even, BitVec.neg_zero, BitVec.xor_zero]
  rw [BitVec.toInt_eq_toNat_of_lt (by omega), half]
  rfl

theorem unzigzag_of_odd {width : Nat} (positive : 0 < width) {value : Int}
    (odd : unsigned width value % 2 = 1) :
    unzigzag width value = -(unsigned width value / 2 : Nat) - 1 := by
  have double := two_pow_eq_double positive
  have below := unsigned_lt width value
  have half : (BitVec.ofInt width value >>> 1).toNat = unsigned width value / 2 := by
    rw [BitVec.toNat_ushiftRight, toNat_ofInt, Nat.shiftRight_eq_div_pow, Nat.pow_one]
  have inverted : (~~~(BitVec.ofInt width value >>> 1)).toNat
      = 2 ^ width - 1 - unsigned width value / 2 := by
    rw [BitVec.toNat_not, half]
  simp only [unzigzag, and_one, odd, BitVec.neg_one_eq_allOnes, BitVec.xor_allOnes]
  rw [BitVec.toInt_eq_toNat_cond, inverted, if_neg (by omega)]
  omega

/-- A word is found again in its zigzag form. -/
theorem unzigzag_zigzag {width : Nat} (positive : 0 < width) (value : Int) :
    unzigzag width (zigzag width value) = signed width value := by
  have double := two_pow_eq_double positive
  have below := unsigned_lt width value
  have itself : unsigned width (zigzag width value) = zigzag width value :=
    unsigned_of_lt (zigzag_lt width value)
  have cast : ((2 ^ width : Nat) : Int) = 2 ^ width := by simp
  by_cases low : unsigned width value < 2 ^ (width - 1)
  · have form := zigzag_of_low positive low
    rw [unzigzag_of_even positive (by omega), itself, form,
      signed_of_low low]
    omega
  · have high := Nat.not_lt.mp low
    have form := zigzag_of_high positive high
    rw [unzigzag_of_odd positive (by omega), itself, form, signed_of_high high]
    omega

end Word

namespace Varint

theorem encode_ne_nil (number : Nat) : encode number ≠ [] := by
  unfold encode
  split <;> simp

end Varint

namespace FixedWidth

theorem foldl_encode (count number high : Nat) :
    (encode count number).foldl (fun high byte => high * 256 + byte.toNat) high
      = high * 256 ^ count + number % 256 ^ count := by
  induction count generalizing high with
  | zero => simp [encode, Nat.mod_one]
  | succ count ih =>
      have split : number % 256 ^ (count + 1)
          = number % 256 ^ count + 256 ^ count * (number / 256 ^ count % 256) := by
        rw [Nat.pow_succ, Nat.mod_mul]
      calc
        (encode (count + 1) number).foldl (fun high byte => high * 256 + byte.toNat) high
            = (high * 256 + number / 256 ^ count % 256) * 256 ^ count + number % 256 ^ count := by
          rw [encode, List.foldl_cons, ih, UInt8.toNat_ofNat', Nat.pow_eq]
        _ = high * 256 ^ (count + 1) + number % 256 ^ (count + 1) := by
          rw [split]
          ring

/-- The bytes of a number denote its remainder by their range. -/
theorem value_encode (count number : Nat) : value (encode count number) = number % 256 ^ count := by
  rw [value, foldl_encode, Nat.zero_mul, Nat.zero_add]

/-- Reading a number that fits its bytes gives it back, whatever comes after it. -/
theorem decode_encode_append {count number : Nat} (small : number < 256 ^ count) (rest : Bytes) :
    decode count (encode count number ++ rest) = some (number, rest) := by
  have whole : (encode count number ++ rest).take count = encode count number :=
    List.take_left' (length_encode count number)
  have later : (encode count number ++ rest).drop count = rest :=
    List.drop_left' (length_encode count number)
  simp only [decode, whole, later, value_encode, Nat.mod_eq_of_lt small, List.length_append,
    length_encode, Nat.le_add_right, if_true]

end FixedWidth

end IndexWire
