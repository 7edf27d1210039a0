import IndexWire.Text.Surrogate

/-!
# Repairing texts

Surrogates are paired up run by run, as the runs are found in a text. This file proves that runs do
not matter: `repair`, the one scan that knows nothing of them, gives the same text. It also proves
that nothing is left of the surrogates, and that a text without any stays as it is.

The proof cuts a text at its first code point that is no surrogate. Before that point stands a run,
which `pairUp` and the one scan treat alike; the point itself ends the run for both of them.
-/

namespace IndexWire

namespace CodePoint

theorem isHigh_of_clean {point : CodePoint} (clean : point.isSurrogate = false) :
    point.isHigh = false := by
  cases high : point.isHigh with
  | false => rfl
  | true =>
      have surrogate := (isSurrogate_iff point).mpr (Or.inl high)
      simp [clean] at surrogate

theorem isLow_of_clean {point : CodePoint} (clean : point.isSurrogate = false) :
    point.isLow = false := by
  cases low : point.isLow with
  | false => rfl
  | true =>
      have surrogate := (isSurrogate_iff point).mpr (Or.inr low)
      simp [clean] at surrogate

theorem isSurrogate_join {high low : CodePoint} (isHigh : high.isHigh = true)
    (isLow : low.isLow = true) : (join high low).isSurrogate = false := by
  have number := value_join isHigh isLow
  simp only [isSurrogate, Bool.and_eq_false_iff, decide_eq_false_iff_not]
  omega

end CodePoint

namespace Text

/-- Where a text goes on after a run of surrogates. -/
def StartsClean : Text → Prop
  | [] => True
  | point :: _ => point.isSurrogate = false

/-- Text in which no code point is a surrogate. -/
def IsClean (text : Text) : Prop := ∀ point ∈ text, point.isSurrogate = false

/-- Text in which every code point is a surrogate. -/
def IsRun (text : Text) : Prop := ∀ point ∈ text, point.isSurrogate = true

theorem IsClean.append {first second : Text} (one : first.IsClean) (two : second.IsClean) :
    (first ++ second).IsClean := by
  intro point mem
  rcases List.mem_append.mp mem with front | back
  · exact one point front
  · exact two point back

/-- No character is a surrogate. -/
theorem isClean_ofString (string : String) : (ofString string).IsClean := by
  intro point mem
  rcases List.mem_map.mp mem with ⟨character, -, rfl⟩
  have valid := character.valid
  have number : (CodePoint.ofChar character).value = character.toNat := by
    unfold CodePoint.ofChar CodePoint.ofNat
    rw [dif_pos (by rcases valid with low | high <;> simp only [Char.toNat] <;> omega)]
  have scalar : ¬0xD800 ≤ character.toNat ∨ ¬character.toNat ≤ 0xDFFF := by
    rcases valid with low | high <;> simp only [Char.toNat] <;> omega
  simpa only [CodePoint.isSurrogate, number, Bool.and_eq_false_iff, decide_eq_false_iff_not]
    using scalar

theorem isRun_head_of_startsClean {text : Text} (clean : text.StartsClean) {first : Stretch}
    {later : List Stretch} (cut : stretches text = first :: later) : first.isRun = false := by
  cases text with
  | nil => simp [stretches] at cut
  | cons point rest =>
      simp only [StartsClean] at clean
      rw [stretches] at cut
      split at cut
      · simp only [List.cons.injEq] at cut
        rw [← cut.1, clean]
      · split at cut <;> simp only [List.cons.injEq] at cut
        · rename_i same
          rw [← cut.1, same, clean]
        · rw [← cut.1, clean]

/-- A run of surrogates before a text that starts with none is one stretch. -/
theorem stretches_run_append {run text : Text} (nonempty : run ≠ []) (isRun : run.IsRun)
    (clean : text.StartsClean) : stretches (run ++ text) = ⟨true, run⟩ :: stretches text := by
  induction run with
  | nil => exact absurd rfl nonempty
  | cons point rest ih =>
      have surrogate : point.isSurrogate = true := isRun point (by simp)
      rw [List.cons_append, stretches]
      by_cases last : rest = []
      · subst last
        rw [List.nil_append]
        split
        · rename_i none
          simp only [none, surrogate]
        · rename_i first later cut
          have head := isRun_head_of_startsClean clean cut
          simp [cut, head, surrogate]
      · have tail : IsRun rest := fun point mem => isRun point (by simp [mem])
        rw [ih last tail]
        simp [surrogate]

theorem withoutSurrogates_cons_of_clean {point : CodePoint} (clean : point.isSurrogate = false)
    (rest : Text) : withoutSurrogates (point :: rest) = point :: rest.withoutSurrogates := by
  simp only [withoutSurrogates]
  rw [stretches]
  split
  · rename_i none
    simp [none, clean]
  · rename_i first later cut
    rw [cut, clean]
    by_cases plain : first.isRun = false
    · simp [plain]
    · simp [plain]

theorem withoutSurrogates_run_append {run text : Text} (nonempty : run ≠ []) (isRun : run.IsRun)
    (clean : text.StartsClean) :
    withoutSurrogates (run ++ text) = pairUp run ++ text.withoutSurrogates := by
  simp only [withoutSurrogates, stretches_run_append nonempty isRun clean, List.flatMap_cons,
    if_true]

theorem repair_cons_of_clean {point : CodePoint} (clean : point.isSurrogate = false)
    (rest : Text) : repair (point :: rest) = point :: rest.repair := by
  cases rest with
  | nil => simp [repair, clean]
  | cons next rest => simp [repair, clean, CodePoint.isHigh_of_clean clean]

/-- The one scan pairs up a run of surrogates before a text that starts with none. -/
theorem repair_run_append (run : Text) {text : Text} (isRun : run.IsRun)
    (clean : text.StartsClean) :
    repair (run ++ text) = pairUp run ++ text.repair := by
  fun_induction pairUp run with
  | case1 => rfl
  | case2 point =>
      have surrogate : point.isSurrogate = true := isRun point (by simp)
      cases text with
      | nil => simp [repair, surrogate]
      | cons next rest =>
          have noLow : next.isLow = false := CodePoint.isLow_of_clean clean
          simp [repair, surrogate, noLow]
  | case3 first second rest pair ih =>
      have tail : IsRun rest := fun point mem => isRun point (by simp [mem])
      simp only [List.cons_append, repair, pair, if_true, ih tail]
  | case4 first second rest noPair ih =>
      have surrogate : first.isSurrogate = true := isRun first (by simp)
      have tail : IsRun (second :: rest) := fun point mem => isRun point (by simp [mem])
      have rewritten := ih tail
      rw [List.cons_append] at rewritten
      simp only [List.cons_append, repair, noPair, surrogate, if_true, rewritten]
      simp

/-- Every text is a run of surrogates, perhaps an empty one, before a text that starts with none. -/
theorem exists_run_append (text : Text) :
    ∃ run rest : Text, text = run ++ rest ∧ run.IsRun ∧ rest.StartsClean := by
  induction text with
  | nil => exact ⟨[], [], rfl, by simp [IsRun], trivial⟩
  | cons point later ih =>
      cases surrogate : point.isSurrogate with
      | false => exact ⟨[], point :: later, rfl, by simp [IsRun], surrogate⟩
      | true =>
          rcases ih with ⟨run, rest, cut, isRun, clean⟩
          refine ⟨point :: run, rest, by rw [cut, List.cons_append], ?_, clean⟩
          intro other mem
          rcases List.mem_cons.mp mem with rfl | mem
          · exact surrogate
          · exact isRun other mem

/-- Pairing up each run of surrogates on its own is the same as one scan over the whole text. -/
theorem withoutSurrogates_eq_repair (text : Text) : text.withoutSurrogates = text.repair := by
  induction size : text.length using Nat.strongRecOn generalizing text with
  | ind length ih =>
      rcases exists_run_append text with ⟨run, rest, rfl, isRun, clean⟩
      by_cases nonempty : run = []
      · subst nonempty
        cases rest with
        | nil => rfl
        | cons point later =>
            rw [List.nil_append, withoutSurrogates_cons_of_clean clean, repair_cons_of_clean clean]
            rw [ih later.length (by simp at size; omega) later rfl]
      · have shorter : rest.length < length := by
          have positive := List.length_pos_iff.mpr nonempty
          rw [List.length_append] at size
          omega
        rw [withoutSurrogates_run_append nonempty isRun clean, repair_run_append run isRun clean]
        rw [ih rest.length shorter rest rfl]

theorem isClean_repair (text : Text) : text.repair.IsClean := by
  fun_induction repair text with
  | case1 => simp [IsClean]
  | case2 point =>
      intro other mem
      simp only [List.mem_singleton] at mem
      subst mem
      split
      · rfl
      · rename_i clean
        simpa using clean
  | case3 first second rest pair ih =>
      simp only [Bool.and_eq_true] at pair
      intro other mem
      rcases List.mem_cons.mp mem with same | mem
      · rw [same]
        exact CodePoint.isSurrogate_join pair.1 pair.2
      · exact ih other mem
  | case4 first second rest noPair ih =>
      intro other mem
      rcases List.mem_cons.mp mem with same | mem
      · rw [same]
        split
        · rfl
        · rename_i clean
          simpa using clean
      · exact ih other mem

theorem repair_of_isClean {text : Text} (clean : text.IsClean) : text.repair = text := by
  induction text with
  | nil => rfl
  | cons point rest ih =>
      have tail : IsClean rest := fun other mem => clean other (by simp [mem])
      rw [repair_cons_of_clean (clean point (by simp)), ih tail]

theorem firstRun?_cons_of_clean {point : CodePoint} (clean : point.isSurrogate = false)
    (rest : Text) :
    firstRun? (point :: rest) =
      rest.firstRun?.map fun run => { run with start := run.start + 1 } := by
  simp only [firstRun?]
  rw [stretches]
  cases cut : stretches rest with
  | nil => simp [clean]
  | cons first later =>
      cases plain : first.isRun with
      | false => cases later <;> simp [plain, clean]
      | true => simp [plain, clean]

theorem firstRun?_cons_of_surrogate {point : CodePoint} (surrogate : point.isSurrogate = true)
    (rest : Text) : (firstRun? (point :: rest)).isSome = true := by
  simp only [firstRun?]
  rw [stretches]
  cases cut : stretches rest with
  | nil => simp [surrogate]
  | cons first later => cases plain : first.isRun <;> simp [plain, surrogate]

/-- There is no first run exactly in texts without surrogates. -/
theorem firstRun?_eq_none_iff (text : Text) : text.firstRun? = none ↔ text.IsClean := by
  induction text with
  | nil => simp [firstRun?, stretches, IsClean]
  | cons point rest ih =>
      cases surrogate : point.isSurrogate with
      | false =>
          rw [firstRun?_cons_of_clean surrogate, Option.map_eq_none_iff, ih]
          simp [IsClean, surrogate]
      | true =>
          have found := firstRun?_cons_of_surrogate surrogate rest
          constructor
          · intro none
            simp [none] at found
          · intro clean
            have plain := clean point (by simp)
            simp [surrogate] at plain

end Text

end IndexWire
