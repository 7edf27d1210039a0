import IndexWire.Proofs.Wire.Sizes

/-!
# Integers of both widths

An integer of variable length may be written as one of 32 bits or as one of 64 bits. Where the
number that is put into groups is the same for both, the two requests are one; it is for unsigned
integers of 32 bits, and for the zigzag forms of signed ones. An unsigned integer that is not a
signed one of 32 bits is read as a negative one by the zigzag form of 32 bits, but not by that of
64 bits.

A zigzag form of 64 bits may be written as a number only if it has no more than 63 bits, and so for
half of the signed integers.
-/

namespace IndexWire

namespace Word

/-- The zigzag form of a signed integer does not depend on the width. -/
theorem zigzag_of_isSigned {narrow wide : Nat} (positive : 0 < narrow) (less : narrow ≤ wide)
    {value : Int} (inside : IsSigned narrow value) : zigzag narrow value = zigzag wide value := by
  have range : (2 ^ (narrow - 1) : Int) ≤ 2 ^ (wide - 1) :=
    pow_le_pow_right₀ (by decide) (Nat.sub_le_sub_right less 1)
  have also : IsSigned wide value := by
    unfold IsSigned at inside ⊢
    omega
  have short := cast_zigzag positive value
  have long := cast_zigzag (Nat.lt_of_lt_of_le positive less) value
  rw [signed_of_isSigned positive inside] at short
  rw [signed_of_isSigned (Nat.lt_of_lt_of_le positive less) also] at long
  exact Int.ofNat_inj.mp (short.trans long.symm)

/-- A zigzag form depends on the remainder alone. -/
theorem zigzag_congr {width : Nat} (positive : 0 < width) {first second : Int}
    (congruent : first % 2 ^ width = second % 2 ^ width) :
    zigzag width first = zigzag width second := by
  have reading : signed width first = signed width second :=
    (isSigned_signed positive first).eq_of_emod_eq positive (isSigned_signed positive second)
      (by rw [signed_emod, signed_emod, congruent])
  have one := cast_zigzag positive first
  have two := cast_zigzag positive second
  rw [reading] at one
  exact Int.ofNat_inj.mp (one.trans two.symm)

/-- A zigzag form has one bit less than the width for half of the signed integers. -/
theorem zigzag_lt_iff {width : Nat} (wide : 1 < width) {value : Int}
    (inside : IsSigned width value) :
    zigzag width value < 2 ^ (width - 1) ↔ -2 ^ (width - 2) ≤ value ∧ value < 2 ^ (width - 2) := by
  have form := cast_zigzag (Nat.lt_of_succ_lt wide) value
  rw [signed_of_isSigned (Nat.lt_of_succ_lt wide) inside] at form
  have half : (2 ^ (width - 1) : Int) = 2 * 2 ^ (width - 2) := by
    rw [← Int.pow_succ', show width - 2 + 1 = width - 1 by omega]
  rw [← Nat.cast_lt (α := Int), form]
  push_cast
  split <;> omega

end Word

theorem Varint.encode_injective : Function.Injective Varint.encode := by
  intro first second same
  rw [← value_encode first, same, value_encode]

namespace Plan

theorem vint_natCast {number : Nat} (small : number < 2 ^ 32) :
    vint number = range (Varint.encode number) := by
  rw [vint, if_pos ((fits_natCast_iff 32 number).mpr small), Word.unsigned_of_lt small]

theorem vlong_natCast {number : Nat} (small : number < 2 ^ 63) :
    vlong number = range (Varint.encode number) := by
  have accepted : 0 ≤ (number : Int) ∧ (number : Int) < Nat.pow 2 63 :=
    ⟨Int.natCast_nonneg number, Int.ofNat_lt.mpr small⟩
  rw [vlong, if_pos accepted, unsignedLong, Word.unsigned_of_lt (by omega)]

theorem zint32_of_fits {value : Int} (fits : Word.Fits 32 value) :
    zint32 value = range (Varint.encode (Word.zigzag 32 value)) := by
  rw [zint32, if_pos fits, vint_natCast (Word.zigzag_lt 32 value)]

theorem zint64_of_fits {value : Int} (fits : Word.Fits 64 value) :
    zint64 value = range (Varint.encode (Word.zigzag 64 value)) := by
  rw [zint64, if_pos fits, unsignedLong, Word.unsigned_of_lt (Word.zigzag_lt 64 value)]

end Plan

namespace Request

/-- Requests that no sink tells apart, and that are taken where there is room for their bytes. -/
structure Coincide (first second : Request) : Prop where
  written : ∀ (store : Store) (sink : Sink), sink.write store first = sink.write store second
  emitted : ∃ bytes, first.Emits bytes ∧ second.Emits bytes

/-- Requests that are planned as the same bytes under every policy. -/
theorem coincide_of_plan {first second : Request} {bytes : Bytes}
    (one : ∀ policy, first.plan policy = .range bytes)
    (two : ∀ policy, second.plan policy = .range bytes) : first.Coincide second where
  written store sink := by simp only [Sink.write, one, two]
  emitted := by
    refine ⟨bytes, ?_, ?_⟩
    · exact emits_of_bytes (fun policy => by rw [one, Plan.fault_range])
        (fun policy => by rw [one, Plan.bytes_range])
    · exact emits_of_bytes (fun policy => by rw [two, Plan.fault_range])
        (fun policy => by rw [two, Plan.bytes_range])

theorem Emits.isTaken {request : Request} {bytes : Bytes} (emitted : request.Emits bytes) :
    request.IsTaken :=
  ⟨{}, ⟨.replace, none, .memory {}⟩, (emitted {} ⟨.replace, none, .memory {}⟩ trivial trivial).1⟩

theorem isTaken_vlong_iff (value : Int) :
    (vlong value).IsTaken ↔ 0 ≤ value ∧ value < 2 ^ 63 :=
  isTaken_iff fun _ => Plan.fault_vlong_eq_none_iff value

theorem emits_zint32 {value : Int} (fits : Word.Fits 32 value) :
    (zint32 value).Emits (Varint.encode (Word.zigzag 32 value)) :=
  emits_of_bytes (fun _ => (Plan.fault_zint32_eq_none_iff value).mpr fits)
    (fun _ => Plan.bytes_zint32 fits)

theorem vint_coincide_vlong {value : Int} (low : 0 ≤ value) (high : value < 2 ^ 32) :
    (vint value).Coincide (vlong value) := by
  rcases Int.eq_ofNat_of_zero_le low with ⟨number, rfl⟩
  have small : number < 2 ^ 32 := by exact_mod_cast high
  exact coincide_of_plan (fun _ => Plan.vint_natCast small)
    (fun _ => Plan.vlong_natCast (by omega))

/-- Integers with one zigzag form in their widths are written alike. -/
theorem zint32_coincide_zint64 {short long : Int} (fits : Word.Fits 32 short)
    (also : Word.Fits 64 long) (same : Word.zigzag 32 short = Word.zigzag 64 long) :
    (zint32 short).Coincide (zint64 long) :=
  coincide_of_plan (fun _ => Plan.zint32_of_fits fits)
    (fun _ => by rw [same]; exact Plan.zint64_of_fits also)

theorem zint64_coincide_vlong {value : Int} (fits : Word.Fits 64 value)
    (small : Word.zigzag 64 value < 2 ^ 63) :
    (zint64 value).Coincide (vlong (Word.zigzag 64 value)) :=
  coincide_of_plan (fun _ => Plan.zint64_of_fits fits) (fun _ => Plan.vlong_natCast small)

/-- A number of 64 bits is refused before anything is written. -/
theorem write_vlong_of_large {number : Nat} (large : 2 ^ 63 ≤ number) (store : Store)
    (sink : Sink) :
    sink.write store (vlong number)
      = { state := (store, sink), fault := some (.outOfLong number) } := by
  have refused : Plan.vlong number = .refused (.outOfLong number) := by
    rw [Plan.vlong, if_neg]
    norm_num
    omega
  simp [Sink.write, Sink.carryOut, plan, refused, Plan.refused, Destination.deliver]

/-- Between the signed and the unsigned integers of 32 bits the two zigzag forms fall apart. -/
theorem zint32_apart_from_zint64 {value : Int} (low : 2 ^ 31 ≤ value) (high : value < 2 ^ 32) :
    (zint32 value).Coincide (zint64 (value - 2 ^ 32)) ∧
      ∃ short long, (zint32 value).Emits short ∧ (zint64 value).Emits long ∧ short ≠ long := by
  have fits : Word.Fits 32 value := (Word.fits_iff 32 value).mpr ⟨by omega, high⟩
  have wide : Word.Fits 64 value := (Word.fits_iff 64 value).mpr ⟨by omega, by omega⟩
  have wrapped : Word.Fits 64 (value - 2 ^ 32) := (Word.fits_iff 64 _).mpr ⟨by omega, by omega⟩
  have inside : Word.IsSigned 32 (value - 2 ^ 32) := ⟨by omega, by omega⟩
  have same : Word.zigzag 32 value = Word.zigzag 64 (value - 2 ^ 32) := by
    rw [← Word.zigzag_of_isSigned (by decide) (by decide) inside]
    exact Word.zigzag_congr (by decide) (by omega)
  refine ⟨zint32_coincide_zint64 fits wrapped same, _, _, emits_zint32 fits, emits_zint64 wide, ?_⟩
  intro equal
  have forms := Varint.encode_injective equal
  -- the form of a negative number is odd, and that of the value itself is even
  have negative := Word.cast_zigzag (show 0 < 64 by decide) (value - 2 ^ 32)
  have positive := Word.cast_zigzag (show 0 < 64 by decide) value
  rw [Word.signed_of_isSigned (by decide) ⟨by omega, by omega⟩, if_neg (by omega)] at negative
  rw [Word.signed_of_isSigned (by decide) ⟨by omega, by omega⟩, if_pos (by omega)] at positive
  omega

/--
The requests of 32 and of 64 bits agree where both apply: unsigned integers of 32 bits are one
string of groups for both, and so are signed ones in their zigzag forms. The other integers that
both zigzag forms accept are negative to the one of 32 bits and themselves to the one of 64 bits. A
zigzag form of 64 bits is written as a number is, as long as it is one of 63 bits; else it is
refused as a number, and nothing is written.
-/
theorem widths_agree_where_both_apply :
    (∀ value : Int, 0 ≤ value → value < 2 ^ 32 → (vint value).Coincide (vlong value)) ∧
    (∀ value : Int, -2 ^ 31 ≤ value → value < 2 ^ 31 →
      (zint32 value).Coincide (zint64 value)) ∧
    (∀ value : Int, 2 ^ 31 ≤ value → value < 2 ^ 32 →
      (zint32 value).Coincide (zint64 (value - 2 ^ 32)) ∧
        ∃ short long, (zint32 value).Emits short ∧ (zint64 value).Emits long ∧ short ≠ long) ∧
    ∀ value : Int, -2 ^ 63 ≤ value → value < 2 ^ 63 →
      ((zint64 value).Coincide (vlong (Word.zigzag 64 value)) ↔ Word.zigzag 64 value < 2 ^ 63) ∧
      (Word.zigzag 64 value < 2 ^ 63 ↔ -2 ^ 62 ≤ value ∧ value < 2 ^ 62) ∧
      (∃ bytes, (zint64 value).Emits bytes) ∧
      (2 ^ 63 ≤ Word.zigzag 64 value → ∀ (store : Store) (sink : Sink),
        sink.write store (vlong (Word.zigzag 64 value))
          = { state := (store, sink), fault := some (.outOfLong (Word.zigzag 64 value)) }) := by
  refine ⟨?_, ?_, ?_, ?_⟩
  · intro value low high
    exact vint_coincide_vlong low high
  · intro value low high
    have fits : Word.Fits 32 value := (Word.fits_iff 32 value).mpr ⟨low, by omega⟩
    have wide : Word.Fits 64 value := (Word.fits_iff 64 value).mpr ⟨by omega, by omega⟩
    have inside : Word.IsSigned 32 value := ⟨low, high⟩
    exact zint32_coincide_zint64 fits wide
      (Word.zigzag_of_isSigned (by decide) (by decide) inside)
  · intro value low high
    exact zint32_apart_from_zint64 low high
  · intro value low high
    have fits : Word.Fits 64 value := (Word.fits_iff 64 value).mpr ⟨low, by omega⟩
    refine ⟨⟨?_, zint64_coincide_vlong fits⟩, ?_, ⟨_, emits_zint64 fits⟩, ?_⟩
    · intro coincide
      rcases coincide.emitted with ⟨bytes, -, emitted⟩
      have taken := (isTaken_vlong_iff (Word.zigzag 64 value)).mp emitted.isTaken
      exact Int.ofNat_lt.mp taken.2
    · exact Word.zigzag_lt_iff (by decide) ⟨low, high⟩
    · exact fun large store sink => write_vlong_of_large large store sink

/-- The least integer that is only unsigned, and the zigzag forms next to the limit. -/
theorem widths_agree_where_both_apply_limits :
    (zint32 (2 ^ 31)).Coincide (zint64 (-2 ^ 31)) ∧
      (zint64 (-2 ^ 62)).Coincide (vlong (Word.zigzag 64 (-2 ^ 62))) ∧
      ¬(zint64 (2 ^ 62)).Coincide (vlong (Word.zigzag 64 (2 ^ 62))) := by
  have unsigned := widths_agree_where_both_apply.2.2.1 (2 ^ 31) (by decide) (by decide)
  have inside := widths_agree_where_both_apply.2.2.2 (-2 ^ 62) (by decide) (by decide)
  have outside := widths_agree_where_both_apply.2.2.2 (2 ^ 62) (by decide) (by decide)
  refine ⟨unsigned.1, ?_, ?_⟩
  · rw [inside.1, inside.2.1]
    decide
  · rw [outside.1, outside.2.1]
    decide

end Request

end IndexWire
