import IndexWire.Proofs.Number

/-!
# Zigzag forms

Zigzag forms order the words of a width by magnitude, and every word is known by its form. The
signed reading of an integer is the one number of the signed range that is congruent to it, and the
form depends on this reading alone: it is twice the reading, or one less than twice its opposite.
-/

namespace IndexWire

namespace Word

/-- The numbers that are their own signed reading. -/
def IsSigned (width : Nat) (value : Int) : Prop :=
  -(2 ^ (width - 1) : Int) ≤ value ∧ value < 2 ^ (width - 1)

section Signed

variable {width : Nat}

/-- The signed reading is congruent to the value. -/
theorem signed_emod (width : Nat) (value : Int) :
    signed width value % 2 ^ width = value % 2 ^ width := by
  by_cases low : unsigned width value < 2 ^ (width - 1)
  · rw [signed_of_low low, cast_unsigned, Int.emod_emod]
  · rw [signed_of_high (Nat.not_lt.mp low), cast_unsigned, Int.sub_emod_right, Int.emod_emod]

variable (positive : 0 < width)

include positive

theorem cast_two_pow_eq_double : (2 ^ width : Int) = 2 * 2 ^ (width - 1) := by
  exact_mod_cast two_pow_eq_double positive

theorem isSigned_signed (value : Int) : IsSigned width (signed width value) := by
  have double := cast_two_pow_eq_double positive
  have below : (unsigned width value : Int) < 2 ^ width := by
    exact_mod_cast unsigned_lt width value
  unfold IsSigned
  by_cases low : unsigned width value < 2 ^ (width - 1)
  · have small : (unsigned width value : Int) < 2 ^ (width - 1) := by exact_mod_cast low
    rw [signed_of_low low]
    omega
  · have large : (2 ^ (width - 1) : Int) ≤ unsigned width value := by
      exact_mod_cast Nat.not_lt.mp low
    rw [signed_of_high (Nat.not_lt.mp low)]
    omega

/-- Congruent numbers of the signed range are equal. -/
theorem IsSigned.eq_of_emod_eq {left right : Int} (one : IsSigned width left)
    (two : IsSigned width right) (congruent : left % 2 ^ width = right % 2 ^ width) :
    left = right := by
  have double := cast_two_pow_eq_double positive
  have cast : ((2 ^ width : Int)).natAbs = 2 ^ width := Int.natAbs_pow 2 width
  have divides : (2 ^ width : Int) ∣ left - right :=
    Int.dvd_of_emod_eq_zero (Int.emod_eq_emod_iff_emod_sub_eq_zero.mp congruent)
  have near : (left - right).natAbs < ((2 ^ width : Int)).natAbs := by
    unfold IsSigned at one two
    omega
  exact Int.sub_eq_zero.mp (Int.eq_zero_of_dvd_of_natAbs_lt_natAbs divides near)

theorem signed_of_isSigned {value : Int} (inside : IsSigned width value) :
    signed width value = value :=
  (isSigned_signed positive value).eq_of_emod_eq positive inside (signed_emod width value)

/-- The zigzag form of a word in terms of its signed reading. -/
theorem cast_zigzag (value : Int) :
    (zigzag width value : Int)
      = if 0 ≤ signed width value then 2 * signed width value
        else -2 * signed width value - 1 := by
  have double := two_pow_eq_double positive
  have below := unsigned_lt width value
  have cast : ((2 ^ width : Nat) : Int) = 2 ^ width := by simp
  by_cases low : unsigned width value < 2 ^ (width - 1)
  · rw [zigzag_of_low positive low, signed_of_low low]
    omega
  · have high := Nat.not_lt.mp low
    rw [zigzag_of_high positive high, signed_of_high high]
    omega

/-- Every word is the zigzag form of the number that is found in it. -/
theorem zigzag_unzigzag (value : Int) :
    zigzag width (unzigzag width value) = unsigned width value := by
  have double := cast_two_pow_eq_double positive
  have below : (unsigned width value : Int) < 2 ^ width := by
    exact_mod_cast unsigned_lt width value
  have form := cast_zigzag positive (unzigzag width value)
  rcases Nat.mod_two_eq_zero_or_one (unsigned width value) with even | odd
  · have half := unzigzag_of_even positive even
    have itself : signed width (unzigzag width value) = unzigzag width value :=
      signed_of_isSigned positive (by rw [half]; unfold IsSigned; omega)
    rw [itself] at form
    omega
  · have half := unzigzag_of_odd positive odd
    have itself : signed width (unzigzag width value) = unzigzag width value :=
      signed_of_isSigned positive (by rw [half]; unfold IsSigned; omega)
    rw [itself] at form
    omega

theorem zigzag_lt_of_natAbs_lt {left right : Int} (one : IsSigned width left)
    (two : IsSigned width right) (less : left.natAbs < right.natAbs) :
    zigzag width left < zigzag width right := by
  have small := cast_zigzag positive left
  have large := cast_zigzag positive right
  rw [signed_of_isSigned positive one] at small
  rw [signed_of_isSigned positive two] at large
  omega

/--
The signed reading of any integer is the only number of the signed range that is congruent to it.
The zigzag form is a word: twice the signed reading, or one less than twice its opposite. Each way
undoes the other, up to the bits that are outside the width, and forms are ordered as magnitudes
are.
-/
theorem zigzag_orders_magnitudes :
    (∀ value : Int,
      zigzag width value < 2 ^ width ∧
        (0 ≤ signed width value → (zigzag width value : Int) = 2 * signed width value) ∧
        (signed width value < 0 → (zigzag width value : Int) = -2 * signed width value - 1) ∧
        unzigzag width (zigzag width value) = signed width value ∧
        (zigzag width (unzigzag width value) : Int) = value % 2 ^ width ∧
        ∀ other, IsSigned width other ∧ other % 2 ^ width = value % 2 ^ width ↔
          other = signed width value) ∧
    ∀ left right, IsSigned width left → IsSigned width right → left.natAbs < right.natAbs →
      zigzag width left < zigzag width right := by
  refine ⟨fun value => ⟨zigzag_lt width value, ?_, ?_, unzigzag_zigzag positive value, ?_, ?_⟩,
    fun left right => zigzag_lt_of_natAbs_lt positive⟩
  · intro nonnegative
    rw [cast_zigzag positive, if_pos nonnegative]
  · intro negative
    rw [cast_zigzag positive, if_neg (Int.not_le.mpr negative)]
  · rw [zigzag_unzigzag positive, cast_unsigned]
  · intro other
    constructor
    · rintro ⟨inside, congruent⟩
      exact inside.eq_of_emod_eq positive (isSigned_signed positive value)
        (congruent.trans (signed_emod width value).symm)
    · rintro rfl
      exact ⟨isSigned_signed positive value, signed_emod width value⟩

end Signed

/-- The least number of either width, which has the greatest form, and one that is beyond it. -/
theorem zigzag_orders_magnitudes_least :
    (zigzag 32 (-2 ^ 31) = 2 ^ 32 - 1 ∧ unzigzag 32 (zigzag 32 (2 ^ 32 + 5)) = 5) ∧
      zigzag 64 (-2 ^ 63) = 2 ^ 64 - 1 ∧ zigzag 64 (2 ^ 63 - 1) < zigzag 64 (-2 ^ 63) := by
  have short := @zigzag_orders_magnitudes 32 (by decide)
  have long := @zigzag_orders_magnitudes 64 (by decide)
  refine ⟨⟨?_, ?_⟩, ?_, ?_⟩
  · have form := (short.1 (-2 ^ 31)).2.2.1 (by decide)
    rw [show signed 32 (-2 ^ 31) = -2 ^ 31 from by decide] at form
    omega
  · rw [(short.1 (2 ^ 32 + 5)).2.2.2.1]
    decide
  · have form := (long.1 (-2 ^ 63)).2.2.1 (by decide)
    rw [show signed 64 (-2 ^ 63) = -2 ^ 63 from by decide] at form
    omega
  · exact long.2 _ _ (by unfold IsSigned; decide) (by unfold IsSigned; decide) (by decide)

end Word

end IndexWire
