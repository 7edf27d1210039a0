import IndexWire.Document.Meaning
import IndexWire.Proofs.Directory.Keeping

/-!
# Keys of mappings

The keys of a mapping that a document is are distinct, however often they stand in the text: entries
are put in one after another, and a key that is there keeps its place. That nothing else is a
mapping takes a look at every kind of scalar.
-/

namespace IndexWire

section Entries

variable {κ ν : Type} {same : κ → κ → Bool}

/-- Whether no key of entries is the same as one before it. -/
def DistinctKeys (same : κ → κ → Bool) (entries : List (κ × ν)) : Prop :=
  entries.Pairwise fun earlier later => same earlier.1 later.1 = false

/-- Putting an entry under a key changes no keys, or adds one that was not there. -/
theorem distinctKeys_putEntry {entries : List (κ × ν)} (distinct : DistinctKeys same entries)
    (key : κ) (value : ν) : DistinctKeys same (putEntry same entries key value) := by
  unfold putEntry
  split
  · apply List.pairwise_map.mpr
    apply List.Pairwise.imp _ distinct
    intro earlier later apart
    split <;> split <;> exact apart
  · rename_i new
    simp only [List.any_eq_true, not_exists, not_and, Bool.not_eq_true] at new
    apply List.pairwise_append.mpr
    refine ⟨distinct, List.pairwise_singleton _ _, ?_⟩
    intro earlier mem later last
    rw [List.mem_singleton.mp last]
    exact new earlier mem

theorem distinctKeys_entriesOf (pairs : List (κ × ν)) :
    DistinctKeys same (entriesOf same pairs) := by
  have all : ∀ entries : List (κ × ν), DistinctKeys same entries →
      DistinctKeys same
        (pairs.foldl (fun entries pair => putEntry same entries pair.1 pair.2) entries) := by
    induction pairs with
    | nil => exact fun _ distinct => distinct
    | cons pair pairs ih => exact fun _ distinct => ih _ (distinctKeys_putEntry distinct _ _)
  exact all [] List.Pairwise.nil

/-- A key that is the same as itself has one value. -/
theorem DistinctKeys.value_unique {entries : List (κ × ν)} (distinct : DistinctKeys same entries)
    {key : κ} (self : same key key = true) {one two : ν} (first : (key, one) ∈ entries)
    (second : (key, two) ∈ entries) : one = two := by
  induction distinct with
  | nil => cases first
  | cons apart _ ih =>
      rcases List.mem_cons.mp first with rfl | earlier
      · rcases List.mem_cons.mp second with same | later
        · cases same
          rfl
        · have different := apart _ later
          rw [self] at different
          cases different
      · rcases List.mem_cons.mp second with rfl | later
        · have different := apart _ earlier
          rw [self] at different
          cases different
        · exact ih earlier later

end Entries

namespace Document

section Scalars

variable {α β : Type} {property : β → Prop}

theorem forall_mem_bind {first : Option α} {next : α → Option β}
    (each : ∀ value, ∀ outcome ∈ next value, property outcome) :
    ∀ outcome ∈ first >>= next, property outcome := by
  intro outcome mem
  rcases Option.bind_eq_some_iff.mp mem with ⟨value, -, mem⟩
  exact each value outcome mem

/-- Whether an outcome is no mapping. -/
def IsFlat (outcome : Except Fault Value) : Prop :=
  ∀ value, outcome = .ok value → value.kind ≠ .dict

theorem isFlat_map {found : Except Fault α} {value : α → Value}
    (flat : ∀ content, (value content).kind ≠ .dict) : IsFlat (found.map value) := by
  intro result same
  rcases map_eq_ok.mp same with ⟨content, -, rfl⟩
  exact flat content

theorem isFlat_moment (date : Except Fault Date) (hour minute second microsecond : Nat)
    (offset : Option Int) : IsFlat (moment date hour minute second microsecond offset) := by
  intro value found
  simp only [moment, bind, Except.bind, pure, Except.pure, throw, throwThe,
    MonadExceptOf.throw] at found
  repeat (first | split at found | cases found)
  all_goals simp [Value.kind]

theorem isFlat_of_time? (date : Except Fault Date) (characters : List Char) :
    ∀ outcome ∈ time? date characters, IsFlat outcome := by
  -- Every way through the parts of a time ends in a moment, part by part from the last one.
  unfold time?
  extract_lets isBlank timed
  have all : ∀ start, ∀ outcome ∈ timed start, IsFlat outcome := by
    intro start
    unfold timed
    split
    extract_lets minuted
    have all : ∀ found, ∀ outcome ∈ minuted found, IsFlat outcome := by
      intro found
      unfold minuted
      split
      split
      extract_lets formed
      have all : ∀ done, ∀ outcome ∈ formed done, IsFlat outcome := by
        intro done
        unfold formed
        split
        extract_lets microsecond zoned
        have all : ∀ offset, ∀ outcome ∈ zoned offset, IsFlat outcome := by
          intro offset outcome mem
          cases mem
          exact isFlat_moment _ _ _ _ _ _
        split
        · split <;> exact forall_mem_bind all
        · exact forall_mem_bind all
      split
      · exact forall_mem_bind all
      · exact all ()
    split <;> exact forall_mem_bind all
  split
  · split
    · exact forall_mem_bind all
    · split <;> exact forall_mem_bind all
  · exact forall_mem_bind all

theorem isFlat_of_date? {characters : List Char} {outcome : Except Fault Value}
    (found : date? characters = some outcome) : IsFlat outcome := by
  simp only [date?] at found
  split at found
  · split at found
    · split at found
      · cases found
      · split at found
        · split at found
          · cases found
            exact isFlat_map fun _ => by simp [Value.kind]
          · cases found
        · exact isFlat_of_time? _ _ _ found
    · cases found
  · cases found

theorem isFlat_plainValue (content : Text) : IsFlat (plainValue content) := by
  have one : ∀ value : Value, value.kind ≠ .dict → IsFlat (.ok value) := by
    intro value flat result same
    cases same
    exact flat
  unfold plainValue
  split
  · exact one _ (by simp [Value.kind])
  · split
    · exact one _ (by simp [Value.kind])
    · exact isFlat_map fun _ => by simp [Value.kind]
    · exact isFlat_map fun _ => by simp [Value.kind]
    · rename_i dated _ _ _
      exact isFlat_of_date? dated
    · split
      · exact one _ (by simp [Value.kind])
      · split
        · intro value same
          cases same
        · exact one _ (by simp [Value.kind])

end Scalars

theorem Node.distinctKeys_value {node : Node} {entries : List (Value × Value)}
    (mapping : node.value = .dict entries) : DistinctKeys Value.sameKey entries := by
  cases node with
  | scalar content isPlain =>
      exfalso
      unfold value scalarValue at mapping
      split at mapping
      · cases found : plainValue content with
        | error fault =>
            rw [found] at mapping
            cases mapping
        | ok value =>
            rw [found] at mapping
            apply isFlat_plainValue content value found
            exact congrArg Value.kind mapping
      · cases mapping
  | sequence items => cases mapping
  | mapping pairs =>
      cases mapping
      exact distinctKeys_entriesOf _

theorem distinctKeys_read {text : Text} {entries : List (Value × Value)}
    (mapping : read text = .ok (.dict entries)) : DistinctKeys Value.sameKey entries := by
  rcases bind_eq_ok.mp mapping with ⟨node, -, mapping⟩
  cases node with
  | none => cases mapping
  | some node =>
      dsimp only at mapping
      split at mapping
      · cases mapping
      · exact Node.distinctKeys_value (Except.ok.inj mapping)

end Document

end IndexWire
