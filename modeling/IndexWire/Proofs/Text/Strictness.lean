import IndexWire.Encoding
import IndexWire.Proofs.Text.Decoding

/-!
# Texts that are refused

Under `strict` a text with a surrogate is refused, and the fault tells where its first run of
surrogates begins and ends. `FirstRun` says of two indices that they are the ends of this run, in
terms of the code points at single indices and not of the stretches into which texts are cut; there
is one such pair of indices if there is a surrogate at all. Every other text is encoded as under
`replace`.
-/

namespace IndexWire

namespace Text

/-- Whether there is a surrogate at an index of a text. -/
def IsSurrogateAt (text : Text) (index : Nat) : Prop :=
  ∃ point, text[index]? = some point ∧ point.isSurrogate = true

/-- The first and the last index of the first run of surrogates, which is as long as can be. -/
structure FirstRun (text : Text) (start last : Nat) : Prop where
  ordered : start ≤ last
  before : ∀ index, index < start → ¬text.IsSurrogateAt index
  within : ∀ index, start ≤ index → index ≤ last → text.IsSurrogateAt index
  after : ¬text.IsSurrogateAt (last + 1)

theorem FirstRun.unique {text : Text} {start last first final : Nat}
    (one : text.FirstRun start last) (two : text.FirstRun first final) :
    first = start ∧ final = last := by
  have starts : first = start := by
    rcases Nat.lt_trichotomy first start with less | same | more
    · exact absurd (two.within first (Nat.le_refl _) two.ordered) (one.before first less)
    · exact same
    · exact absurd (one.within start (Nat.le_refl _) one.ordered) (two.before start more)
  subst starts
  have ordered := one.ordered
  have again := two.ordered
  refine ⟨rfl, ?_⟩
  rcases Nat.lt_trichotomy final last with less | same | more
  · exact absurd (one.within (final + 1) (by omega) less) two.after
  · exact same
  · exact absurd (two.within (last + 1) (by omega) more) one.after

theorem not_isSurrogateAt_of_isClean {text : Text} (clean : text.IsClean) (index : Nat) :
    ¬text.IsSurrogateAt index := by
  rintro ⟨point, found, surrogate⟩
  rw [clean point (List.mem_of_getElem? found)] at surrogate
  cases surrogate

theorem IsRun.isSurrogateAt {run : Text} (isRun : run.IsRun) {index : Nat}
    (inside : index < run.length) : run.IsSurrogateAt index :=
  ⟨run[index], List.getElem?_eq_getElem inside, isRun _ (List.getElem_mem inside)⟩

theorem StartsClean.not_isSurrogateAt {text : Text} (clean : text.StartsClean) :
    ¬text.IsSurrogateAt 0 := by
  rintro ⟨point, found, surrogate⟩
  cases text with
  | nil => cases found
  | cons first rest =>
      cases found
      rw [show point.isSurrogate = false from clean] at surrogate
      cases surrogate

section Split

variable {front run rest : Text}

theorem isSurrogateAt_append_of_lt (rest : Text) {index : Nat} (inside : index < front.length) :
    (front ++ rest).IsSurrogateAt index ↔ front.IsSurrogateAt index := by
  rw [IsSurrogateAt, List.getElem?_append_left inside]
  rfl

theorem isSurrogateAt_append_of_le (rest : Text) {index : Nat} (beyond : front.length ≤ index) :
    (front ++ rest).IsSurrogateAt index ↔ rest.IsSurrogateAt (index - front.length) := by
  rw [IsSurrogateAt, List.getElem?_append_right beyond]
  rfl

variable (clean : front.IsClean) (nonempty : run ≠ []) (isRun : run.IsRun)
  (startsClean : rest.StartsClean)

include clean nonempty isRun startsClean

/-- A text without surrogates and then a run of them: the run has the first surrogates. -/
theorem firstRun_append :
    (front ++ (run ++ rest)).FirstRun front.length (front.length + run.length - 1) := by
  have positive := List.length_pos_iff.mpr nonempty
  refine ⟨by omega, ?_, ?_, ?_⟩
  · intro index less
    rw [isSurrogateAt_append_of_lt _ less]
    exact not_isSurrogateAt_of_isClean clean index
  · intro index low high
    rw [isSurrogateAt_append_of_le _ low, isSurrogateAt_append_of_lt _ (by omega)]
    exact isRun.isSurrogateAt (by omega)
  · have beyond : front.length + run.length - 1 + 1 - front.length - run.length = 0 := by omega
    rw [isSurrogateAt_append_of_le _ (by omega), isSurrogateAt_append_of_le _ (by omega), beyond]
    exact startsClean.not_isSurrogateAt

theorem firstRun?_append : (front ++ (run ++ rest)).firstRun? = some ⟨front.length, run⟩ := by
  induction front with
  | nil =>
      simp only [List.nil_append, firstRun?, stretches_run_append nonempty isRun startsClean]
      rfl
  | cons point later ih =>
      simp only [IsClean, List.forall_mem_cons] at clean
      rw [List.cons_append, firstRun?_cons_of_clean clean.1, ih clean.2]
      rfl

end Split

/-- A text that holds a surrogate is one without, a run, and what does not go on with it. -/
theorem exists_run_of_not_isClean {text : Text} (unclean : ¬text.IsClean) :
    ∃ front run rest : Text, text = front ++ (run ++ rest) ∧ front.IsClean ∧ run ≠ [] ∧
      run.IsRun ∧ rest.StartsClean := by
  induction text with
  | nil => exact absurd (by simp [IsClean]) unclean
  | cons point later ih =>
      cases surrogate : point.isSurrogate with
      | false =>
          have some : ¬IsClean later := by
            intro clean
            exact unclean (List.forall_mem_cons.mpr ⟨surrogate, clean⟩)
          rcases ih some with ⟨front, run, rest, rfl, clean, nonempty, isRun, startsClean⟩
          refine ⟨point :: front, run, rest, rfl, ?_, nonempty, isRun, startsClean⟩
          exact List.forall_mem_cons.mpr ⟨surrogate, clean⟩
      | true =>
          rcases exists_run_append (point :: later) with ⟨run, rest, cut, isRun, startsClean⟩
          refine ⟨[], run, rest, cut, by simp [IsClean], ?_, isRun, startsClean⟩
          rintro rfl
          rw [List.nil_append] at cut
          rw [← cut] at startsClean
          rw [show point.isSurrogate = false from startsClean] at surrogate
          cases surrogate

theorem not_isClean_iff (text : Text) :
    ¬text.IsClean ↔ ∃ point ∈ text, point.isSurrogate = true := by
  simp [IsClean]

theorem ofString_append (first second : String) :
    ofString (first ++ second) = ofString first ++ ofString second := by
  simp [ofString]

end Text

namespace Fault

/-- How the fault of a run of one surrogate is worded. -/
theorem message_unencodable_one (start : Nat) (point : CodePoint) :
    (unencodable ⟨start, [point]⟩).message
      = Text.ofString "'utf-8' codec can't encode character '\\u" ++ Text.ofHex 4 point.value
        ++ Text.ofString "' in position " ++ Text.ofNat start
        ++ Text.ofString ": surrogates not allowed" := by
  have lead : Text.ofString "'utf-8' codec can't encode character '\\u"
      = Text.ofString "'utf-8' codec can't encode character" ++ Text.ofString " '\\u" := by
    rw [← Text.ofString_append]
    rfl
  simp only [message, unencodableMessage, lead, List.append_assoc]

/-- How the fault of a longer run of surrogates is worded. -/
theorem message_unencodable_more {start last : Nat} {points : Text}
    (length : points.length = last + 1 - start) (more : start < last) :
    (unencodable ⟨start, points⟩).message
      = Text.ofString "'utf-8' codec can't encode characters in position " ++ Text.ofNat start
        ++ Text.ofString "-" ++ Text.ofNat last ++ Text.ofString ": surrogates not allowed" := by
  have lead : Text.ofString "'utf-8' codec can't encode characters in position "
      = Text.ofString "'utf-8' codec can't encode character" ++ Text.ofString "s in position " := by
    rw [← Text.ofString_append]
    rfl
  have final : start + points.length - 1 = last := by omega
  simp only [message, unencodableMessage]
  split
  · simp at length
    omega
  · simp only [final, lead, List.append_assoc]

end Fault

/-- A text without surrogates has the same bytes under both policies. -/
theorem encodeText_strict_of_isClean {text : Text} (clean : text.IsClean) :
    ∃ data, encodeText .strict text = .ok data ∧ encodeText .replace text = .ok data := by
  refine ⟨Utf8.replaced text, ?_, rfl⟩
  rw [encodeText, Utf8.encode_strict_of_isClean clean]
  rfl

namespace Text

theorem exists_firstRun_of_not_isClean {text : Text} (unclean : ¬text.IsClean) :
    ∃ start last, text.FirstRun start last := by
  rcases exists_run_of_not_isClean unclean with
      ⟨front, run, rest, rfl, clean, nonempty, isRun, startsClean⟩
  exact ⟨_, _, firstRun_append clean nonempty isRun startsClean⟩

namespace FirstRun

variable {text : Text} {start last : Nat} (first : text.FirstRun start last)

include first

/-- The fault of a text that is refused has the first run of surrogates. -/
theorem encodeText_strict :
    encodeText .strict text
      = .error (.unencodable ⟨start, (text.drop start).take (last + 1 - start)⟩) := by
  have unclean : ¬text.IsClean := fun clean => not_isSurrogateAt_of_isClean clean start
    (first.within start (Nat.le_refl _) first.ordered)
  rcases exists_run_of_not_isClean unclean with
      ⟨front, run, rest, rfl, clean, nonempty, isRun, startsClean⟩
  have positive := List.length_pos_iff.mpr nonempty
  rcases first.unique (firstRun_append clean nonempty isRun startsClean) with ⟨rfl, rfl⟩
  have size : front.length + run.length - 1 + 1 - front.length = run.length := by omega
  simp only [encodeText, Utf8.encode, firstRun?_append clean nonempty isRun startsClean,
    List.drop_left, size, List.take_left]
  rfl

/-- A run of more than one surrogate is named by its first and its last index. -/
theorem message_of_lt (more : start < last) :
    (Fault.unencodable ⟨start, (text.drop start).take (last + 1 - start)⟩).message
      = ofString "'utf-8' codec can't encode characters in position " ++ ofNat start
        ++ ofString "-" ++ ofNat last ++ ofString ": surrogates not allowed" := by
  rcases first.within last first.ordered (Nat.le_refl _) with ⟨point, inside, -⟩
  have bound := (List.getElem?_eq_some_iff.mp inside).1
  apply Fault.message_unencodable_more _ more
  rw [List.length_take, List.length_drop]
  omega

/-- A run of one surrogate is named by its index and the surrogate. -/
theorem message_of_eq (single : start = last) :
    ∃ point, text[start]? = some point ∧
      (Fault.unencodable ⟨start, (text.drop start).take (last + 1 - start)⟩).message
        = ofString "'utf-8' codec can't encode character '\\u" ++ ofHex 4 point.value
          ++ ofString "' in position " ++ ofNat start ++ ofString ": surrogates not allowed" := by
  subst single
  rcases first.within start (Nat.le_refl _) (Nat.le_refl _) with ⟨point, inside, -⟩
  refine ⟨point, inside, ?_⟩
  have points : (text.drop start).take (start + 1 - start) = [point] := by
    rcases List.getElem?_eq_some_iff.mp inside with ⟨bound, rfl⟩
    rw [Nat.add_sub_cancel_left, List.drop_eq_getElem_cons bound]
    rfl
  rw [points, Fault.message_unencodable_one]

end FirstRun

/-- A text is refused under `strict` if and only if it holds a surrogate. -/
theorem exists_error_strict_iff (text : Text) :
    (∃ fault, encodeText .strict text = .error fault) ↔
      ∃ point ∈ text, point.isSurrogate = true := by
  rw [← not_isClean_iff]
  constructor
  · rintro ⟨fault, failed⟩ clean
    rcases encodeText_strict_of_isClean clean with ⟨data, encoded, -⟩
    rw [encoded] at failed
    cases failed
  · intro unclean
    rcases exists_firstRun_of_not_isClean unclean with ⟨start, last, first⟩
    exact ⟨_, first.encodeText_strict⟩

end Text

end IndexWire
