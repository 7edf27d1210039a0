import IndexWire.Proofs.Text.Repair
import IndexWire.Text.Utf8

/-!
# Reading texts back

The bytes of a text without surrogates are read as this text, so that whatever is encoded under the
policy `replace` comes back repaired. Every code point takes one to four bytes: the first of them
bounds the second, which is where a shorter form or a surrogate would be refused.
-/

namespace IndexWire

namespace CodePoint

theorem ofNat_value (point : CodePoint) : ofNat point.value = point := by
  simp only [ofNat, dif_pos point.inRange]

end CodePoint

namespace Utf8

/-- A first byte and good following bytes are read as one code point. -/
theorem decodeFrom_cons {start : Nat} {byte : UInt8} {rest remaining : Bytes} {lead : Lead}
    {number : Nat} (leads : Lead.ofByte? byte = some lead)
    (follows : continuation lead.count lead.least lead.greatest lead.bits 0 rest
      = .ok (number, remaining)) :
    decodeFrom start (byte :: rest)
      = (decodeFrom (start + lead.count + 1) remaining).map (CodePoint.ofNat number :: ·) := by
  rw [decodeFrom]
  split
  · rename_i none
    simp [none] at leads
  · rename_i other found
    obtain rfl : other = lead := by simpa [found] using leads
    split
    · rename_i failed
      simp [failed] at follows
    · rename_i value left read
      obtain ⟨rfl, rfl⟩ : value = number ∧ left = remaining := by simpa [read] using follows
      rfl

theorem toNat_ofNat_of_lt {number : Nat} (small : number < 256) :
    (UInt8.ofNat number).toNat = number := by
  rw [UInt8.toNat_ofNat', Nat.mod_eq_of_lt small]

namespace Lead

theorem ofByte?_one {number : Nat} (small : number < 0x80) :
    ofByte? (UInt8.ofNat number) = some ⟨number, 0, 0, 0⟩ := by
  simp only [ofByte?, toNat_ofNat_of_lt (show number < 256 by omega), if_pos small]

theorem ofByte?_two {high : Nat} (large : 2 ≤ high) (small : high < 32) :
    ofByte? (UInt8.ofNat (0xC0 + high)) = some ⟨high, 1, 0x80, 0xBF⟩ := by
  simp only [ofByte?, toNat_ofNat_of_lt (show 0xC0 + high < 256 by omega)]
  rw [if_neg (by omega), if_neg (by omega), if_pos (by omega), Nat.add_sub_cancel_left]

theorem ofByte?_three {high : Nat} (small : high < 16) :
    ofByte? (UInt8.ofNat (0xE0 + high))
      = some ⟨high, 2, if high = 0 then 0xA0 else 0x80, if high = 13 then 0x9F else 0xBF⟩ := by
  have least : 0xE0 + high = 0xE0 ↔ high = 0 := by omega
  have greatest : 0xE0 + high = 0xED ↔ high = 13 := by omega
  simp only [ofByte?, toNat_ofNat_of_lt (show 0xE0 + high < 256 by omega), least, greatest]
  rw [if_neg (by omega), if_neg (by omega), if_neg (by omega), if_pos (by omega),
    Nat.add_sub_cancel_left]

theorem ofByte?_four {high : Nat} (small : high < 5) :
    ofByte? (UInt8.ofNat (0xF0 + high))
      = some ⟨high, 3, if high = 0 then 0x90 else 0x80, if high = 4 then 0x8F else 0xBF⟩ := by
  have least : 0xF0 + high = 0xF0 ↔ high = 0 := by omega
  have greatest : 0xF0 + high = 0xF4 ↔ high = 4 := by omega
  simp only [ofByte?, toNat_ofNat_of_lt (show 0xF0 + high < 256 by omega), least, greatest]
  rw [if_neg (by omega), if_neg (by omega), if_neg (by omega), if_neg (by omega),
    if_pos (by omega), Nat.add_sub_cancel_left]

end Lead

theorem continuation_cons {count least greatest bits good low : Nat} (rest : Bytes)
    (small : low < 64) (above : least ≤ 0x80 + low) (under : 0x80 + low ≤ greatest) :
    continuation (count + 1) least greatest bits good (UInt8.ofNat (0x80 + low) :: rest)
      = continuation count 0x80 0xBF (bits * 64 + low) (good + 1) rest := by
  rw [continuation, toNat_ofNat_of_lt (by omega), Nat.add_sub_cancel_left]
  simp [above, under]

/-- The bytes of a code point that is no surrogate are read as this code point. -/
theorem decodeFrom_encodePoint_append (start : Nat) {point : CodePoint}
    (clean : point.isSurrogate = false) (rest : Bytes) :
    decodeFrom start (encodePoint point ++ rest)
      = (decodeFrom (start + (encodePoint point).length) rest).map (point :: ·) := by
  have inRange := point.inRange
  have itself := CodePoint.ofNat_value point
  simp only [CodePoint.isSurrogate, Bool.and_eq_false_iff, decide_eq_false_iff_not] at clean
  simp only [encodePoint]
  generalize point.value = number at *
  split
  · rename_i one
    exact (decodeFrom_cons (Lead.ofByte?_one one) rfl).trans (by rw [itself]; rfl)
  split
  · rename_i two
    have leads : Lead.ofByte? (UInt8.ofNat (0xC0 + number / 64))
        = some ⟨number / 64, 1, 0x80, 0xBF⟩ := Lead.ofByte?_two (by omega) (by omega)
    have follows : continuation 1 0x80 0xBF (number / 64) 0
        (UInt8.ofNat (0x80 + number % 64) :: rest) = .ok (number, rest) := by
      rw [continuation_cons rest (by omega) (by omega) (by omega), continuation]
      rw [Nat.div_add_mod']
    exact (decodeFrom_cons leads follows).trans (by rw [itself]; rfl)
  split
  · rename_i three
    have leads := Lead.ofByte?_three (show number / 4096 < 16 by omega)
    have follows : continuation 2 (if number / 4096 = 0 then 0xA0 else 0x80)
        (if number / 4096 = 13 then 0x9F else 0xBF) (number / 4096) 0
        (UInt8.ofNat (0x80 + number / 64 % 64) :: UInt8.ofNat (0x80 + number % 64) :: rest)
          = .ok (number, rest) := by
      -- The least second byte keeps out shorter forms, the greatest one keeps out surrogates.
      rw [continuation_cons _ (by omega) (by split <;> omega) (by split <;> omega),
        continuation_cons rest (by omega) (by omega) (by omega), continuation]
      congr 2
      omega
    exact (decodeFrom_cons leads follows).trans (by rw [itself]; rfl)
  · rename_i four
    have leads := Lead.ofByte?_four (show number / 262144 < 5 by omega)
    have follows : continuation 3 (if number / 262144 = 0 then 0x90 else 0x80)
        (if number / 262144 = 4 then 0x8F else 0xBF) (number / 262144) 0
        (UInt8.ofNat (0x80 + number / 4096 % 64) :: UInt8.ofNat (0x80 + number / 64 % 64)
          :: UInt8.ofNat (0x80 + number % 64) :: rest) = .ok (number, rest) := by
      rw [continuation_cons _ (by omega) (by split <;> omega) (by split <;> omega),
        continuation_cons _ (by omega) (by omega) (by omega),
        continuation_cons rest (by omega) (by omega) (by omega), continuation]
      congr 2
      omega
    exact (decodeFrom_cons leads follows).trans (by rw [itself]; rfl)

/-- A text without surrogates is found again in its bytes. -/
theorem decodeFrom_encodePoints (start : Nat) {text : Text} (clean : text.IsClean) :
    decodeFrom start (encodePoints text) = .ok text := by
  induction text generalizing start with
  | nil => simp [encodePoints, decodeFrom]
  | cons point rest ih =>
      have tail : Text.IsClean rest := fun other mem => clean other (by simp [mem])
      have read := decodeFrom_encodePoint_append start (clean point (by simp)) (encodePoints rest)
      rw [ih _ tail] at read
      exact read

/-- The bytes of a text under the policy `replace`, which refuses none. -/
def replaced (text : Text) : Bytes := encodePoints text.withoutSurrogates

/-- What is encoded under `replace` is read back as the text with its surrogates repaired. -/
theorem decode_replaced (text : Text) : decode (replaced text) = .ok text.repair := by
  rw [replaced, Text.withoutSurrogates_eq_repair]
  exact decodeFrom_encodePoints 0 text.isClean_repair

/-- A text that is accepted under `strict` has the same bytes as under `replace`. -/
theorem encode_strict_of_isClean {text : Text} (clean : text.IsClean) :
    encode .strict text = .ok (replaced text) := by
  rw [replaced, Text.withoutSurrogates_eq_repair, Text.repair_of_isClean clean]
  simp only [encode, (Text.firstRun?_eq_none_iff text).mpr clean]

end Utf8

end IndexWire
