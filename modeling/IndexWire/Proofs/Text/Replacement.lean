import IndexWire.Proofs.Text.Decoding

/-!
# Replacing surrogates by index

A codec goes through a text by index. It writes the code points that are no surrogates as they come,
and asks a handler for each maximal run of surrogates: the handler is told where the run starts and
stops, looks no further than that, and answers with what takes the place of the run and with the
index at which the codec goes on. This file proves that a handler which walks through its run in a
loop always reaches the end of it, and that the bytes are those of one scan over the whole text,
which is a string like any other.
-/

namespace IndexWire

namespace Text

/--
What takes the place of the surrogates of a text from an index up to the stop of their run, behind
what was made so far, and the index reached.
-/
def handle (text : Text) (stop index : Nat) (made : Text) : Text × Nat :=
  if index < stop then
    if text[index]!.isHigh && index + 1 < stop && text[index + 1]!.isLow then
      handle text stop (index + 2) (made ++ [.join text[index]! text[index + 1]!])
    else handle text stop (index + 1) (made ++ [.replacement])
  else (made, index)
termination_by stop - index

/-- The handler pairs up its run and reaches its stop, whatever stands around the run. -/
theorem handle_eq_pairUp (before run after made : Text) :
    handle (before ++ (run ++ after)) (before.length + run.length) before.length made
      = (made ++ pairUp run, before.length + run.length) := by
  fun_induction pairUp run generalizing before made with
  | case1 =>
      rw [handle, if_neg (by simp)]
      simp
  | case2 point =>
      have last : ¬before.length + 1 < before.length + [point].length := by simp
      rw [handle, if_pos (by simp), if_neg (by simp), handle, if_neg last]
      rfl
  | case3 first second rest pair ih =>
      have reached := ih (before ++ [first, second]) (made ++ [.join first second])
      have stop : (before ++ [first, second]).length + rest.length
          = before.length + (first :: second :: rest).length := by
        simp only [List.length_append, List.length_cons, List.length_nil]
        omega
      rw [stop] at reached
      rw [handle, if_pos (by simp), if_pos (by simpa using pair)]
      simpa using reached
  | case4 first second rest noPair ih =>
      have reached := ih (before ++ [first]) (made ++ [.replacement])
      have stop : (before ++ [first]).length + (second :: rest).length
          = before.length + (first :: second :: rest).length := by
        simp only [List.length_append, List.length_cons, List.length_nil]
        omega
      rw [stop] at reached
      rw [handle, if_pos (by simp), if_neg (by simpa using noPair)]
      simpa using reached

/-- The indices from a start to before a stop are those of a run of surrogates, and of all of it. -/
structure IsMaximalRun (text : Text) (start stop : Nat) : Prop where
  nonempty : start < stop
  inside : stop ≤ text.length
  surrogates : ∀ index, start ≤ index → index < stop → text[index]!.isSurrogate = true
  startsThere : start = 0 ∨ text[start - 1]!.isSurrogate = false
  stopsThere : stop = text.length ∨ text[stop]!.isSurrogate = false

/-- The text around a maximal run. -/
theorem IsMaximalRun.exists_eq_append {text : Text} {start stop : Nat}
    (maximal : text.IsMaximalRun start stop) :
    ∃ before run after : Text, text = before ++ (run ++ after) ∧ before.length = start
      ∧ start + run.length = stop ∧ run ≠ [] ∧ run.IsRun ∧ after.StartsClean := by
  rcases maximal with ⟨nonempty, inside, surrogates, -, stopsThere⟩
  refine ⟨text.take start, (text.drop start).take (stop - start), text.drop stop, ?_, ?_, ?_, ?_,
    ?_, ?_⟩
  · have rest : (text.drop start).drop (stop - start) = text.drop stop := by
      rw [List.drop_drop, Nat.add_sub_cancel' (Nat.le_of_lt nonempty)]
    rw [← rest, List.take_append_drop, List.take_append_drop]
  · rw [List.length_take]
    omega
  · rw [List.length_take, List.length_drop]
    omega
  · apply List.ne_nil_of_length_pos
    rw [List.length_take, List.length_drop]
    omega
  · intro point mem
    rcases List.mem_iff_getElem.mp mem with ⟨index, small, rfl⟩
    rw [List.length_take, List.length_drop] at small
    have surrogate := surrogates (start + index) (by omega) (by omega)
    rw [getElem!_pos text _ (by omega)] at surrogate
    simpa only [List.getElem_take, List.getElem_drop] using surrogate
  · by_cases ends : stop = text.length
    · simp [ends, StartsClean]
    · have clean := stopsThere.resolve_left ends
      rw [getElem!_pos text stop (by omega)] at clean
      rw [List.drop_eq_getElem_cons (by omega)]
      exact clean

/-- A surrogate at which no run has begun before is the first of a maximal run. -/
theorem exists_isMaximalRun {text : Text} {start : Nat} (inside : start < text.length)
    (surrogate : text[start]!.isSurrogate = true)
    (startsThere : start = 0 ∨ text[start - 1]!.isSurrogate = false) :
    ∃ stop, text.IsMaximalRun start stop := by
  rcases exists_run_append (text.drop start) with ⟨run, after, cut, isRun, clean⟩
  have size : text.length = start + (run.length + after.length) := by
    have sizes := congrArg List.length cut
    rw [List.length_drop, List.length_append] at sizes
    omega
  have read : ∀ index, text[start + index]? = (run ++ after)[index]? := by
    intro index
    rw [← cut, List.getElem?_drop]
  simp only [List.getElem!_eq_getElem?_getD] at surrogate
  refine ⟨start + run.length, ?_, by omega, ?_, startsThere, ?_⟩
  · cases run with
    | cons point rest => simp
    | nil =>
        -- The surrogate would be the first of what starts with none.
        cases after with
        | nil =>
            rw [List.length_nil] at size
            omega
        | cons point later =>
            have first := read 0
            simp only [Nat.add_zero, List.nil_append, List.getElem?_cons_zero] at first
            rw [first, Option.getD_some] at surrogate
            simp [StartsClean, surrogate] at clean
  · intro index above under
    have found := read (index - start)
    rw [Nat.add_sub_cancel' above, List.getElem?_append_left (by omega)] at found
    rw [List.getElem!_eq_getElem?_getD, found, List.getElem?_eq_getElem (by omega)]
    exact isRun _ (List.getElem_mem _)
  · cases after with
    | nil => exact Or.inl size.symm
    | cons point later =>
        refine Or.inr ?_
        have found := read run.length
        rw [List.getElem?_append_right (Nat.le_refl _), Nat.sub_self] at found
        rw [List.getElem!_eq_getElem?_getD, found]
        exact clean

/-- The characters of a text; a code point that is no character is left at the first of all. -/
def asString (text : Text) : String := String.ofList (text.map fun point => Char.ofNat point.value)

end Text

namespace CodePoint

/-- A code point that is no surrogate is a character. -/
theorem toNat_ofNat_of_clean {point : CodePoint} (clean : point.isSurrogate = false) :
    (Char.ofNat point.value).toNat = point.value := by
  have inRange := point.inRange
  simp only [isSurrogate, Bool.and_eq_false_iff, decide_eq_false_iff_not] at clean
  have valid : point.value.isValidChar := by
    simp only [Nat.isValidChar]
    omega
  rw [Char.ofNat, dif_pos valid]
  rfl

end CodePoint

namespace Text

/-- A text without surrogates is a string. -/
theorem ofString_asString {text : Text} (clean : text.IsClean) : ofString text.asString = text := by
  have each : ∀ point ∈ text, CodePoint.ofChar (Char.ofNat point.value) = point := by
    intro point mem
    rw [CodePoint.ofChar, CodePoint.toNat_ofNat_of_clean (clean point mem), CodePoint.ofNat_value]
  simp only [ofString, asString, String.toList_ofList, List.map_map]
  exact (List.map_congr_left each).trans (List.map_id text)

end Text

namespace Utf8

/-- A code point that is no surrogate has the bytes of its character. -/
theorem encodePoint_eq_utf8EncodeChar {point : CodePoint} (clean : point.isSurrogate = false) :
    encodePoint point = String.utf8EncodeChar (Char.ofNat point.value) := by
  have number := CodePoint.toNat_ofNat_of_clean clean
  have inRange := point.inRange
  simp only [Char.toNat] at number
  simp only [encodePoint, String.utf8EncodeChar, number]
  split
  · rw [if_pos (by omega)]
  split
  · rw [if_neg (by omega), if_pos (by omega), Nat.mod_eq_of_lt (a := point.value / 64) (by omega),
      Nat.add_comm, Nat.add_comm 0x80]
  split
  · rw [if_neg (by omega), if_neg (by omega), if_pos (by omega),
      Nat.mod_eq_of_lt (a := point.value / 4096) (by omega)]
    simp only [Nat.add_comm]
  · rw [if_neg (by omega), if_neg (by omega), if_neg (by omega),
      Nat.mod_eq_of_lt (a := point.value / 262144) (by omega)]
    simp only [Nat.add_comm]

/-- A text without surrogates has the bytes of its string. -/
theorem encodePoints_eq_toUTF8 {text : Text} (clean : text.IsClean) :
    encodePoints text = text.asString.toUTF8.data.toList := by
  simp only [Text.asString, String.toUTF8_eq_toByteArray, String.toByteArray_ofList,
    List.utf8Encode, List.toList_data_toByteArray, encodePoints, List.flatMap_def, List.map_map]
  rw [List.map_congr_left fun point mem => encodePoint_eq_utf8EncodeChar (clean point mem)]
  rfl

/--
The bytes that a codec makes of a text from an index on. It asks the handler once for each maximal
run of surrogates and goes on where the handler says.
-/
inductive Codes (text : Text) : Nat → Bytes → Prop
  | done : Codes text text.length []
  | plain {index : Nat} {bytes : Bytes} : index < text.length →
      text[index]!.isSurrogate = false → Codes text (index + 1) bytes →
      Codes text index (encodePoint text[index]! ++ bytes)
  | run {start stop resumed : Nat} {made : Text} {bytes : Bytes} : text.IsMaximalRun start stop →
      text.handle stop start [] = (made, resumed) → Codes text resumed bytes →
      Codes text start (encodePoints made ++ bytes)

namespace Codes

variable {text : Text} {index : Nat} {bytes : Bytes}

/-- The bytes from an index on are those of the rest of the text, its runs paired up. -/
theorem eq_replaced (codes : Codes text index bytes) : bytes = replaced (text.drop index) := by
  induction codes with
  | done =>
      rw [List.drop_length]
      rfl
  | @plain index bytes inside clean _ ih =>
      rw [getElem!_pos text index inside] at clean ⊢
      rw [List.drop_eq_getElem_cons inside, replaced, Text.withoutSurrogates_cons_of_clean clean]
      rw [ih, replaced, encodePoints, encodePoints, List.flatMap_cons]
  | run maximal handled _ ih =>
      rcases maximal.exists_eq_append with
          ⟨before, run, after, rfl, rfl, rfl, nonempty, isRun, clean⟩
      rw [Text.handle_eq_pairUp, List.nil_append, Prod.mk.injEq] at handled
      obtain ⟨rfl, rfl⟩ := handled
      rw [ih, ← List.drop_drop, List.drop_left, List.drop_left, replaced, replaced,
        Text.withoutSurrogates_run_append nonempty isRun clean]
      simp only [encodePoints, List.flatMap_append]

/-- The codec gets through a text from every index at which no run has begun before. -/
theorem exists_codes (inside : index ≤ text.length)
    (starts : text[index]!.isSurrogate = true →
      index = 0 ∨ text[index - 1]!.isSurrogate = false) :
    ∃ bytes, Codes text index bytes := by
  induction left : text.length - index using Nat.strongRecOn generalizing index with
  | ind left ih =>
      rcases Nat.eq_or_lt_of_le inside with rfl | before
      · exact ⟨[], done⟩
      cases surrogate : text[index]!.isSurrogate with
      | false =>
          rcases ih _ (by omega) before (fun _ => Or.inr surrogate) rfl with ⟨bytes, codes⟩
          exact ⟨_, plain before surrogate codes⟩
      | true =>
          rcases Text.exists_isMaximalRun before surrogate (starts surrogate)
            with ⟨stop, maximal⟩
          have nonempty := maximal.nonempty
          have reached : text.handle stop index [] = ((text.handle stop index []).1, stop) := by
            rcases maximal.exists_eq_append with ⟨front, run, after, rfl, rfl, rfl, -⟩
            rw [Text.handle_eq_pairUp]
          have noneGoesOn : text[stop]!.isSurrogate = false := by
            rcases maximal.stopsThere with rfl | clean
            · rw [getElem!_neg text _ (Nat.lt_irrefl _)]
              rfl
            · exact clean
          rcases ih _ (by omega) maximal.inside
            (fun goesOn => absurd (goesOn.symm.trans noneGoesOn) (by decide)) rfl
            with ⟨bytes, codes⟩
          exact ⟨_, run maximal reached codes⟩

/-- The codec makes of a text the bytes that it has under `replace`, and no others. -/
theorem iff_eq_replaced : Codes text 0 bytes ↔ bytes = replaced text := by
  constructor
  · exact eq_replaced
  · rintro rfl
    rcases exists_codes (Nat.zero_le text.length) (fun _ => Or.inl rfl) with ⟨bytes, codes⟩
    have same := codes.eq_replaced
    rw [List.drop_zero] at same
    rwa [← same]

end Codes

/--
Under the policy `replace` a text has the bytes of a string, which is the text as one scan repairs
it; a codec that asks for each maximal run of surrogates makes the same bytes. They are read back
as that text, which has the same bytes again.
-/
theorem encode_replace_eq_toUTF8 (text : Text) :
    ∃ reference : String,
      Text.ofString reference = text.repair
        ∧ (∀ high low : CodePoint, high.isHigh = true → low.isLow = true →
          (CodePoint.join high low).value
            = 0x10000 + ((high.value - 0xD800) <<< 10) + (low.value - 0xDC00))
        ∧ encode .replace text = .ok reference.toUTF8.data.toList
        ∧ (∀ bytes, Codes text 0 bytes ↔ bytes = reference.toUTF8.data.toList)
        ∧ decode reference.toUTF8.data.toList = .ok text.repair
        ∧ encode .replace text.repair = .ok reference.toUTF8.data.toList := by
  have clean := text.isClean_repair
  have bytes : replaced text = text.repair.asString.toUTF8.data.toList := by
    rw [replaced, Text.withoutSurrogates_eq_repair, encodePoints_eq_toUTF8 clean]
  have again : replaced text.repair = replaced text := by
    rw [replaced, replaced, Text.withoutSurrogates_eq_repair, Text.withoutSurrogates_eq_repair,
      Text.repair_of_isClean clean]
  refine ⟨text.repair.asString, Text.ofString_asString clean, ?_, ?_, ?_, ?_, ?_⟩
  · intro high low isHigh isLow
    rw [CodePoint.value_join isHigh isLow, Nat.shiftLeft_eq]
  · rw [← bytes]
    rfl
  · intro other
    rw [Codes.iff_eq_replaced, bytes]
  · rw [← bytes, decode_replaced]
  · rw [← bytes, ← again]
    rfl

end Utf8

end IndexWire
