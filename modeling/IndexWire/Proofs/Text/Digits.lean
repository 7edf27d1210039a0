import IndexWire.Text.Quoted
import IndexWire.Value.JsonReader
import Mathlib.Tactic.Ring

/-!
# Digits

What the digits of a number look like, and that they are read back as the number: decimal digits
without leading zeros, and hexadecimal digits padded to a width.
-/

namespace IndexWire

namespace CodePoint

theorem value_ofChar (character : Char) : (ofChar character).value = character.toNat := by
  have valid : character.toNat < 0x110000 := by
    rcases character.valid with low | ⟨-, high⟩
    · exact Nat.lt_trans low (by decide)
    · exact high
  simp only [ofChar, ofNat, dif_pos valid]

end CodePoint

theorem toNat_digitChar {digit : Nat} (small : digit < 16) :
    digit.digitChar.toNat = if digit < 10 then 0x30 + digit else 0x61 + (digit - 10) := by
  revert digit
  decide

theorem mem_toDigits {base number : Nat} (large : 1 < base) {character : Char}
    (mem : character ∈ Nat.toDigits base number) :
    ∃ digit < base, character = digit.digitChar := by
  induction number using Nat.strongRecOn with
  | ind number ih =>
      rw [Nat.toDigits_eq_if large] at mem
      split at mem
      · rename_i single
        exact ⟨number, single, List.mem_singleton.mp mem⟩
      · rename_i several
        rcases List.mem_append.mp mem with before | last
        · apply ih (number / base) _ before
          exact Nat.div_lt_self (by omega) large
        · exact ⟨number % base, Nat.mod_lt _ (by omega), List.mem_singleton.mp last⟩

/-! ## Decimal digits -/

namespace Text

theorem mem_ofNat {number : Nat} {point : CodePoint} (mem : point ∈ ofNat number) :
    0x30 ≤ point.value ∧ point.value ≤ 0x39 := by
  rcases List.mem_map.mp mem with ⟨character, among, rfl⟩
  rcases mem_toDigits (by decide) among with ⟨digit, small, rfl⟩
  rw [CodePoint.value_ofChar, toNat_digitChar (Nat.lt_trans small (by decide)), if_pos small]
  omega

theorem ofNat_ne_nil (number : Nat) : ofNat number ≠ [] := by
  simp [ofNat]

/-- There is no zero before other digits. -/
theorem ofNat_of_pos {number : Nat} (positive : 0 < number) :
    ∃ first rest, ofNat number = first :: rest ∧ first.value ≠ 0x30 := by
  induction number using Nat.strongRecOn with
  | ind number ih =>
      rw [ofNat, Nat.toDigits_eq_if (by decide)]
      split
      · rename_i single
        refine ⟨_, [], rfl, ?_⟩
        rw [CodePoint.value_ofChar, toNat_digitChar (by omega), if_pos single]
        omega
      · rename_i several
        rcases ih (number / 10) (by omega) (by omega) with ⟨first, rest, digits, nonzero⟩
        refine ⟨first, rest ++ [.ofChar (number % 10).digitChar], ?_, nonzero⟩
        rw [ofNat] at digits
        rw [List.map_append, digits]
        rfl

theorem natural_ofNat (number : Nat) : Json.natural (ofNat number) = number := by
  have step : ∀ (high : Nat) (character : Char),
      high * 10 + ((CodePoint.ofChar character).value - 0x30)
        = 10 * high + (character.toNat - '0'.toNat) := by
    intro high character
    rw [CodePoint.value_ofChar, Nat.mul_comm]
    rfl
  simp only [Json.natural, ofNat, List.foldl_map, step]
  exact Nat.ofDigitChars_ten_toDigits

/-! ## Hexadecimal digits -/

theorem hexDigit?_digitChar {digit : Nat} (small : digit < 16) :
    hexDigit? (CodePoint.ofChar digit.digitChar).value = some digit := by
  rw [CodePoint.value_ofChar]
  revert digit
  decide

theorem hexNumber?_toDigits (number : Nat) :
    hexNumber? ((Nat.toDigits 16 number).map CodePoint.ofChar) = some number := by
  induction number using Nat.strongRecOn with
  | ind number ih =>
      rw [Nat.toDigits_eq_if (by decide)]
      split
      · rename_i single
        simp only [hexNumber?, List.map_cons, List.map_nil, List.foldlM_cons, List.foldlM_nil,
          hexDigit?_digitChar single, Option.map_some]
        simp
      · rename_i several
        have before := ih (number / 16) (by omega)
        rw [hexNumber?] at before ⊢
        rw [List.map_append, List.foldlM_append, before]
        simp only [List.map_cons, List.map_nil, List.foldlM_cons, List.foldlM_nil,
          hexDigit?_digitChar (Nat.mod_lt number (by decide)), Option.map_some]
        simp [Nat.div_add_mod']

theorem hexNumber?_ofHex (width number : Nat) : hexNumber? (ofHex width number) = some number := by
  have zeros : ∀ count, (List.replicate count (CodePoint.ofChar '0')).foldlM
      (fun number digit => (hexDigit? digit.value).map (number * 16 + ·)) 0 = some 0 := by
    intro count
    induction count with
    | zero => rfl
    | succ count ih =>
        rw [List.replicate_succ, List.foldlM_cons]
        exact ih
  have digits := hexNumber?_toDigits number
  rw [hexNumber?] at digits ⊢
  rw [ofHex, List.foldlM_append, zeros]
  exact digits

theorem length_ofHex {width number : Nat} (positive : 0 < width) (small : number < 16 ^ width) :
    (ofHex width number).length = width := by
  have fits := (Nat.length_toDigits_le_iff (by decide : 1 < 16) positive).mpr small
  simp only [ofHex, List.length_append, List.length_replicate, List.length_map]
  omega

theorem mem_ofHex {width number : Nat} {point : CodePoint} (mem : point ∈ ofHex width number) :
    0x30 ≤ point.value ∧ point.value ≤ 0x66 := by
  have digit : ∀ digit < 16, 0x30 ≤ (CodePoint.ofChar digit.digitChar).value ∧
      (CodePoint.ofChar digit.digitChar).value ≤ 0x66 := by
    intro digit small
    rw [CodePoint.value_ofChar, toNat_digitChar small]
    split <;> omega
  rcases List.mem_append.mp mem with zero | other
  · rw [List.eq_of_mem_replicate zero]
    exact digit 0 (by decide)
  · rcases List.mem_map.mp other with ⟨character, among, rfl⟩
    rcases mem_toDigits (by decide) among with ⟨value, small, rfl⟩
    exact digit value small

/-- A byte has two hexadecimal digits. -/
theorem ofHex_two {number : Nat} (small : number < 256) :
    ofHex 2 number = [.ofChar (number / 16).digitChar, .ofChar (number % 16).digitChar] := by
  by_cases single : number < 16
  · have low : number / 16 = 0 := by omega
    have high : number % 16 = number := by omega
    rw [ofHex, Nat.toDigits_of_lt_base single, low, high]
    rfl
  · have high : number / 16 < 16 := by omega
    rw [ofHex, Nat.toDigits_of_base_le (by decide) (by omega), Nat.toDigits_of_lt_base high]
    rfl

end Text

end IndexWire
