import IndexWire.Proofs.Text.Decoding

/-!
# Encoding a text in parts

A text that is cut into two parts has the bytes of the parts, one after the other, unless the cut
goes through a pair of surrogates. Pairing never shifts: a surrogate is joined with the one before
it only if this is a high one, and a high one is never the second half of a pair. So a cut is felt
by the two code points beside it alone. Where it goes through a pair, each of the halves is replaced
in its own part, and joined with the other one in the whole.
-/

namespace IndexWire

namespace CodePoint

theorem isLow_of_isHigh {point : CodePoint} (isHigh : point.isHigh = true) :
    point.isLow = false := by
  simp only [CodePoint.isHigh, Bool.and_eq_true, decide_eq_true_eq] at isHigh
  simp only [isLow, Bool.and_eq_false_iff, decide_eq_false_iff_not]
  omega

theorem isHigh_of_isLow {point : CodePoint} (isLow : point.isLow = true) :
    point.isHigh = false := by
  cases high : point.isHigh with
  | false => rfl
  | true =>
      have other := isLow_of_isHigh high
      simp [isLow] at other

end CodePoint

namespace Text

/-- Whether a pair of surrogates begins at the end of one text and ends at the start of another. -/
def Splits (first second : Text) : Prop :=
  (∃ high ∈ first.getLast?, high.isHigh = true) ∧ ∃ low ∈ second.head?, low.isLow = true

theorem Splits.cons {first second : Text} (splits : Splits first second) (point : CodePoint) :
    Splits (point :: first) second := by
  rcases splits with ⟨⟨high, last, isHigh⟩, begins⟩
  refine ⟨⟨high, ?_, isHigh⟩, begins⟩
  cases first with
  | nil => simp at last
  | cons next rest => simpa using last

/-- One scan over two texts is a scan over each of them, if no pair is split between them. -/
theorem repair_append {first second : Text} (unsplit : ¬Splits first second) :
    repair (first ++ second) = repair first ++ repair second := by
  fun_induction repair first with
  | case1 => rfl
  | case2 point =>
      cases second with
      | nil => simp [repair]
      | cons next rest =>
          have noPair : ¬(point.isHigh && next.isLow) = true := by
            intro pair
            apply unsplit
            simpa [Splits] using pair
          simp [repair, noPair]
  | case3 high low rest pair ih =>
      have inner : ¬Splits rest second := by
        intro splits
        exact unsplit ((splits.cons low).cons high)
      simp [repair, pair, ih inner]
  | case4 point next rest noPair ih =>
      have inner : ¬Splits (next :: rest) second := by
        intro splits
        exact unsplit (splits.cons point)
      have rewritten := ih inner
      rw [List.cons_append] at rewritten
      simp [repair, noPair, rewritten]

theorem repair_concat_high (earlier : Text) {high : CodePoint} (isHigh : high.isHigh = true) :
    repair (earlier ++ [high]) = repair earlier ++ [.replacement] := by
  have surrogate : high.isSurrogate = true := (CodePoint.isSurrogate_iff high).mpr (Or.inl isHigh)
  have unsplit : ¬Splits earlier [high] := by
    simp [Splits, CodePoint.isLow_of_isHigh isHigh]
  simp [repair_append unsplit, repair, surrogate]

theorem repair_cons_low {low : CodePoint} (isLow : low.isLow = true) (later : Text) :
    repair (low :: later) = .replacement :: repair later := by
  have surrogate : low.isSurrogate = true := (CodePoint.isSurrogate_iff low).mpr (Or.inr isLow)
  have unsplit : ¬Splits [low] later := by
    simp [Splits, CodePoint.isHigh_of_isLow isLow]
  have apart := repair_append unsplit
  simpa [repair, surrogate] using apart

/-- A pair in the middle of a text is joined, whatever stands around it. -/
theorem repair_pair (earlier later : Text) {high low : CodePoint} (isHigh : high.isHigh = true)
    (isLow : low.isLow = true) :
    repair (earlier ++ high :: low :: later)
      = repair earlier ++ .join high low :: repair later := by
  have unsplit : ¬Splits earlier (high :: low :: later) := by
    simp [Splits, CodePoint.isLow_of_isHigh isHigh]
  simp [repair_append unsplit, repair, isHigh, isLow]

end Text

namespace Utf8

theorem encodePoints_append (first second : Text) :
    encodePoints (first ++ second) = encodePoints first ++ encodePoints second :=
  List.flatMap_append

theorem replaced_eq_repair (text : Text) : replaced text = encodePoints text.repair := by
  rw [replaced, Text.withoutSurrogates_eq_repair]

/-- What takes the place of a surrogate that stands alone. -/
def loneBytes : Bytes := [0xEF, 0xBF, 0xBD]

theorem length_encodePoint_join {high low : CodePoint} (isHigh : high.isHigh = true)
    (isLow : low.isLow = true) : (encodePoint (.join high low)).length = 4 := by
  have number := CodePoint.value_join isHigh isLow
  simp only [encodePoint]
  rw [if_neg (by omega), if_neg (by omega), if_neg (by omega)]
  rfl

theorem replaced_concat_high (earlier : Text) {high : CodePoint} (isHigh : high.isHigh = true) :
    replaced (earlier ++ [high]) = replaced earlier ++ loneBytes := by
  simp only [replaced_eq_repair, Text.repair_concat_high earlier isHigh, encodePoints_append]
  rfl

theorem replaced_cons_low {low : CodePoint} (isLow : low.isLow = true) (later : Text) :
    replaced (low :: later) = loneBytes ++ replaced later := by
  simp only [replaced_eq_repair, Text.repair_cons_low isLow later]
  rfl

theorem replaced_pair (earlier later : Text) {high low : CodePoint} (isHigh : high.isHigh = true)
    (isLow : low.isLow = true) :
    replaced (earlier ++ [high] ++ low :: later)
      = replaced earlier ++ encodePoint (.join high low) ++ replaced later := by
  have joined := Text.repair_pair earlier later isHigh isLow
  simp only [replaced_eq_repair, List.append_assoc, List.singleton_append, joined,
    encodePoints_append]
  rfl

theorem replaced_append {first second : Text} (unsplit : ¬Text.Splits first second) :
    replaced (first ++ second) = replaced first ++ replaced second := by
  simp only [replaced_eq_repair, Text.repair_append unsplit, encodePoints_append]

/--
Two texts one after the other have the bytes of the one and then those of the other, unless the
first ends in a high surrogate and the second begins with a low one. Then the last three bytes of
the one and the first three of the other are replaced by the four of the code point that the pair
spells.
-/
theorem encode_replace_append (first second : Text) :
    ∃ one two both : Bytes,
      encode .replace first = .ok one ∧ encode .replace second = .ok two ∧
        encode .replace (first ++ second) = .ok both ∧
        (both = one ++ two ↔
          ¬((∃ high ∈ first.getLast?, high.isHigh = true) ∧
            ∃ low ∈ second.head?, low.isLow = true)) ∧
        ∀ high ∈ first.getLast?, ∀ low ∈ second.head?, high.isHigh = true → low.isLow = true →
          3 ≤ one.length ∧ 3 ≤ two.length ∧ (encodePoint (.join high low)).length = 4 ∧
            (CodePoint.join high low).value
              = 0x10000 + (high.value - 0xD800) * 0x400 + (low.value - 0xDC00) ∧
            both = one.take (one.length - 3) ++ encodePoint (.join high low) ++ two.drop 3 := by
  refine ⟨replaced first, replaced second, replaced (first ++ second), rfl, rfl, rfl, ?_, ?_⟩
  · constructor
    · rintro same ⟨⟨high, last, isHigh⟩, low, next, isLow⟩
      rcases List.getLast?_eq_some_iff.mp last with ⟨earlier, rfl⟩
      rcases List.head?_eq_some_iff.mp next with ⟨later, rfl⟩
      have four := length_encodePoint_join isHigh isLow
      -- Four bytes cannot be the six that the halves have in their own parts.
      have lengths := congrArg List.length same
      rw [replaced_pair earlier later isHigh isLow, replaced_concat_high earlier isHigh,
        replaced_cons_low isLow later] at lengths
      simp only [List.length_append, four, loneBytes, List.length_cons, List.length_nil] at lengths
      omega
    · intro unsplit
      exact replaced_append unsplit
  · intro high last low next isHigh isLow
    rcases List.getLast?_eq_some_iff.mp last with ⟨earlier, rfl⟩
    rcases List.head?_eq_some_iff.mp next with ⟨later, rfl⟩
    have value := CodePoint.value_join isHigh isLow
    refine ⟨?_, ?_, length_encodePoint_join isHigh isLow, value, ?_⟩
    · simp [replaced_concat_high earlier isHigh, loneBytes]
    · simp [replaced_cons_low isLow later, loneBytes]
    · rw [replaced_pair earlier later isHigh isLow, replaced_concat_high earlier isHigh,
        replaced_cons_low isLow later]
      simp [loneBytes]

/-- A cut through the second of two pairs, with half a pair on both sides. -/
theorem encode_replace_append_through_pair :
    let first : Text := [.ofNat 0xD83D, .ofNat 0xDE00, .ofNat 0xD83D]
    let second : Text := [.ofNat 0xDE01, .ofNat 0xDE00]
    ∃ one two both : Bytes,
      encode .replace first = .ok one ∧ encode .replace second = .ok two ∧
        encode .replace (first ++ second) = .ok both ∧ both ≠ one ++ two ∧
        both = one.take (one.length - 3) ++ [0xF0, 0x9F, 0x98, 0x81] ++ two.drop 3 := by
  intro first second
  rcases encode_replace_append first second with
    ⟨one, two, both, firstBytes, secondBytes, bothBytes, splits, replacement⟩
  have isHigh : (CodePoint.ofNat 0xD83D).isHigh = true := by decide
  have isLow : (CodePoint.ofNat 0xDE01).isLow = true := by decide
  have joined : encodePoint (.join (.ofNat 0xD83D) (.ofNat 0xDE01)) = [0xF0, 0x9F, 0x98, 0x81] := by
    decide
  have spelled := (replacement (.ofNat 0xD83D) rfl (.ofNat 0xDE01) rfl isHigh isLow).2.2.2.2
  rw [joined] at spelled
  refine ⟨one, two, both, firstBytes, secondBytes, bothBytes, ?_, spelled⟩
  intro same
  exact splits.mp same ⟨⟨_, rfl, isHigh⟩, _, rfl, isLow⟩

end Utf8

end IndexWire
