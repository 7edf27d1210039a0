import IndexWire.Proofs.Wire.Sizes

/-!
# Words of fixed width

An integer of fixed width is written as its remainder by the range of the width. A width accepts
signed and unsigned integers alike, and so two of them may have the same bytes: they have if they
are congruent, and only then. An integer of 64 bits is its high word and then its low word, also
when it is negative, because the shift to the high word rounds down.
-/

namespace IndexWire

namespace FixedWidth

/-- The bytes of a number are the high bytes and then the low bytes. -/
theorem encode_add (high low number : Nat) :
    encode (high + low) number = encode high (number / 256 ^ low) ++ encode low number := by
  induction high with
  | zero => simp [encode]
  | succ high ih =>
      have first : number / 256 ^ (high + low) = number / 256 ^ low / 256 ^ high := by
        rw [Nat.div_div_eq_div_mul, ← Nat.pow_add, Nat.add_comm]
      rw [Nat.succ_add, encode, encode, List.cons_append, ih]
      simp only [Nat.pow_eq, first]

/-- Numbers with the same remainder have the same bytes. -/
theorem encode_congr {count first second : Nat}
    (congruent : first % 256 ^ count = second % 256 ^ count) :
    encode count first = encode count second := by
  induction count with
  | zero => rfl
  | succ count ih =>
      have digit : ∀ number,
          number / 256 ^ count % 256 = number % 256 ^ (count + 1) / 256 ^ count :=
        fun number => (Nat.mod_mul_right_div_self number (256 ^ count) 256).symm
      have rest : ∀ number, number % 256 ^ count = number % 256 ^ (count + 1) % 256 ^ count :=
        fun number => (Nat.mod_mod_of_dvd number (Nat.pow_dvd_pow 256 (Nat.le_succ count))).symm
      have head : UInt8.ofNat (first / 256 ^ count) = UInt8.ofNat (second / 256 ^ count) := by
        apply UInt8.toNat_inj.mp
        rw [UInt8.toNat_ofNat', UInt8.toNat_ofNat', digit first, digit second, congruent]
      have tail := ih (by rw [rest first, rest second, congruent])
      simp only [encode, Nat.pow_eq, head, tail]

theorem encode_eq_iff (count first second : Nat) :
    encode count first = encode count second ↔ first % 256 ^ count = second % 256 ^ count := by
  constructor
  · intro same
    rw [← value_encode, ← value_encode, same]
  · exact encode_congr

end FixedWidth

namespace Word

/-- A mask of low bits leaves the remainder of an integer, whatever its sign. -/
theorem land_mask (width : Nat) (value : Int) :
    Int.land value (2 ^ width - 1 : Nat) = value % 2 ^ width := by
  cases value with
  | ofNat number =>
      change ((number &&& (2 ^ width - 1) : Nat) : Int) = _
      rw [Nat.and_two_pow_sub_one_eq_mod]
      push_cast
      rfl
  | negSucc number =>
      have range : (0 : Int) < 2 ^ width := Int.pow_pos (by decide)
      have low : number % 2 ^ width < 2 ^ width := Nat.mod_lt number (Nat.two_pow_pos width)
      -- bit by bit, what the mask leaves counts down from the greatest word
      have bits : Nat.ldiff (2 ^ width - 1) number = 2 ^ width - (number % 2 ^ width + 1) := by
        apply Nat.eq_of_testBit_eq
        intro index
        rw [Nat.testBit_ldiff, Nat.testBit_two_pow_sub_one, Nat.testBit_two_pow_sub_succ low,
          Nat.testBit_mod_two_pow]
        cases decide (index < width) <;> simp
      change ((Nat.ldiff (2 ^ width - 1) number : Nat) : Int) = _
      rw [bits, Int.negSucc_emod number range]
      push_cast [Nat.succ_le_of_lt low]
      omega

theorem unsigned_eq_iff (width : Nat) (first second : Int) :
    unsigned width first = unsigned width second ↔ first % 2 ^ width = second % 2 ^ width := by
  rw [← cast_unsigned, ← cast_unsigned, Nat.cast_inj]

end Word

namespace Request

/-- The requests for integers of a fixed width, each with its count of bytes. -/
inductive OfWidth : Nat → (Int → Request) → Prop where
  | int16 : OfWidth 2 int16
  | int32 : OfWidth 4 int32
  | int64 : OfWidth 8 int64

section OfWidth

variable {count : Nat} {request : Int → Request} (width : OfWidth count request)

include width

theorem OfWidth.plan_eq (policy : SurrogatePolicy) (value : Int) :
    (request value).plan policy = .word count value := by
  cases width <;> rfl

theorem OfWidth.isTaken_iff (value : Int) :
    (request value).IsTaken ↔ Word.Fits (8 * count) value := by
  apply Request.isTaken_iff
  intro policy
  rw [width.plan_eq]
  exact Plan.fault_word_eq_none_iff count value

theorem OfWidth.emits {value : Int} (fits : Word.Fits (8 * count) value) :
    (request value).Emits (FixedWidth.encode count (Word.unsigned (8 * count) value)) := by
  apply emits_of_bytes
  · intro policy
    rw [width.plan_eq]
    exact (Plan.fault_word_eq_none_iff count value).mpr fits
  · intro policy
    rw [width.plan_eq]
    exact Plan.bytes_word fits

theorem OfWidth.emits_same_iff {first second : Int} (one : Word.Fits (8 * count) first)
    (two : Word.Fits (8 * count) second) :
    (∃ bytes, (request first).Emits bytes ∧ (request second).Emits bytes) ↔
      first % 2 ^ (8 * count) = second % 2 ^ (8 * count) := by
  have range : 256 ^ count = 2 ^ (8 * count) := by rw [Nat.pow_mul]
  have bytes_iff := FixedWidth.encode_eq_iff count (Word.unsigned (8 * count) first)
    (Word.unsigned (8 * count) second)
  rw [range, Nat.mod_eq_of_lt (Word.unsigned_lt _ first),
    Nat.mod_eq_of_lt (Word.unsigned_lt _ second), Word.unsigned_eq_iff] at bytes_iff
  rw [← bytes_iff]
  constructor
  · rintro ⟨bytes, emitted, again⟩
    rw [(width.emits one).unique emitted, (width.emits two).unique again]
  · intro same
    exact ⟨_, width.emits one, same ▸ width.emits two⟩

end OfWidth

/-- What is written for 64 bits is what is written for the two words of 32 bits. -/
theorem emits_int64_of_words {value : Int} (fits : Word.Fits 64 value) :
    ∃ high low, (int32 (value >>> (32 : Nat))).Emits high ∧
      (int32 (Int.land value 0xFFFFFFFF)).Emits low ∧ (int64 value).Emits (high ++ low) := by
  have bounds : -2 ^ 63 ≤ value ∧ value < 2 ^ 64 := (Word.fits_iff 64 value).mp fits
  have shifted : value >>> (32 : Nat) = value / 2 ^ 32 := Int.shiftRight_eq_div_pow value 32
  have masked : Int.land value 0xFFFFFFFF = value % 2 ^ 32 := Word.land_mask 32 value
  have whole := Word.cast_unsigned 64 value
  have above := Word.cast_unsigned 32 (value / 2 ^ 32)
  have below := Word.cast_unsigned 32 (value % 2 ^ 32)
  have high : Word.unsigned 64 value / 256 ^ 4 = Word.unsigned 32 (value / 2 ^ 32) := by omega
  have low : Word.unsigned 64 value % 256 ^ 4 = Word.unsigned 32 (value % 2 ^ 32) % 256 ^ 4 := by
    omega
  have fitsHigh : Word.Fits 32 (value / 2 ^ 32) := by
    rw [Word.fits_iff]
    omega
  have fitsLow : Word.Fits 32 (value % 2 ^ 32) := by
    rw [Word.fits_iff]
    omega
  have emitted := OfWidth.int64.emits fits
  rw [FixedWidth.encode_add 4 4, high, FixedWidth.encode_congr low] at emitted
  rw [shifted, masked]
  exact ⟨_, _, OfWidth.int32.emits fitsHigh, OfWidth.int32.emits fitsLow, emitted⟩

/--
Integers of fixed width are exact modulo the range of the width. Those that are accepted are the
signed and the unsigned ones; each is written in as many bytes as the width has, whose value is its
remainder, and two of them have the same bytes if and only if they are congruent. The bytes of 64
bits are those of the word above the low 32 bits and then those of the low 32 bits.
-/
theorem words_exact_modulo_width :
    (∀ count request, OfWidth count request →
      (∀ value : Int, (request value).IsTaken ↔
        -2 ^ (8 * count - 1) ≤ value ∧ value < 2 ^ (8 * count)) ∧
      ∀ value : Int, -2 ^ (8 * count - 1) ≤ value → value < 2 ^ (8 * count) →
        (∃ bytes, (request value).Emits bytes ∧ bytes.length = count ∧
          (FixedWidth.value bytes : Int) = value % 2 ^ (8 * count)) ∧
        ∀ other : Int, -2 ^ (8 * count - 1) ≤ other → other < 2 ^ (8 * count) →
          ((∃ bytes, (request value).Emits bytes ∧ (request other).Emits bytes) ↔
            value % 2 ^ (8 * count) = other % 2 ^ (8 * count))) ∧
    ∀ value : Int, -2 ^ 63 ≤ value → value < 2 ^ 64 →
      ∃ high low, (int32 (value >>> (32 : Nat))).Emits high ∧
        (int32 (Int.land value 0xFFFFFFFF)).Emits low ∧ (int64 value).Emits (high ++ low) := by
  constructor
  · intro count request width
    constructor
    · intro value
      rw [width.isTaken_iff, Word.fits_iff]
    · intro value least most
      have fits := (Word.fits_iff _ value).mpr ⟨least, most⟩
      constructor
      · refine ⟨_, width.emits fits, FixedWidth.length_encode _ _, ?_⟩
        have range : 256 ^ count = 2 ^ (8 * count) := by rw [Nat.pow_mul]
        rw [FixedWidth.value_encode, range, Nat.mod_eq_of_lt (Word.unsigned_lt _ _),
          Word.cast_unsigned]
      · intro other less more
        exact width.emits_same_iff fits ((Word.fits_iff _ other).mpr ⟨less, more⟩)
  · intro value least most
    exact emits_int64_of_words ⟨least, most⟩

/-- A signed and an unsigned integer with the same two bytes, and the words of the least integer. -/
theorem words_exact_modulo_width_least :
    (∃ bytes, (int16 (-1)).Emits bytes ∧ (int16 65535).Emits bytes) ∧
      ¬(∃ bytes, (int16 (-1)).Emits bytes ∧ (int16 32767).Emits bytes) ∧
      ∃ high low, (int32 (-2 ^ 31)).Emits high ∧ (int32 0).Emits low ∧
        (int64 (-2 ^ 63)).Emits (high ++ low) := by
  have short := (words_exact_modulo_width.1 2 int16 .int16).2 (-1) (by decide) (by decide)
  have long := words_exact_modulo_width.2 (-2 ^ 63) (by decide) (by decide)
  refine ⟨?_, ?_, ?_⟩
  · exact (short.2 65535 (by decide) (by decide)).mpr (by decide)
  · rw [short.2 32767 (by decide) (by decide)]
    decide
  · rwa [show (-2 ^ 63 : Int) >>> (32 : Nat) = -2 ^ 31 from by decide,
      show Int.land (-2 ^ 63) 0xFFFFFFFF = 0 from Word.land_mask 32 (-2 ^ 63)] at long

end Request

end IndexWire
