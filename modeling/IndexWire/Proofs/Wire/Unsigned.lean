import IndexWire.Proofs.Wire.RoundTrip
import IndexWire.Proofs.Zigzag

/-!
# Unsigned counts

The counts before texts and collections have 32 bits. `Shape.read` takes them for signed numbers,
and so does not find a text or a collection whose count has its sign bit set. The readers here take
them for unsigned numbers, and find every collection of texts that can be written.
-/

namespace IndexWire

namespace Wire

variable {α : Type}

/-- Reads a text whose count is unsigned. -/
def readLongText : Parser Text := fun bytes => do
  let (count, rest) ← readVarint bytes
  let (content, rest) ← readBytes count rest
  match Utf8.decode content with
  | .ok text => .ok (text, rest)
  | .error _ => .error .malformed

def readLongPair : Parser (Text × Text) := fun bytes => do
  let (key, rest) ← readLongText bytes
  let (value, rest) ← readLongText rest
  return ((key, value), rest)

/-- Reads the unsigned count of a collection. -/
def readTally : Parser Nat := fun bytes =>
  (readWord 4 bytes).map fun (value, rest) => (Word.unsigned 32 value, rest)

/-- Reads an unsigned count and then as many values, and gives both. -/
def readTallied (read : Parser α) : Parser (Nat × List α) := fun bytes => do
  let (count, rest) ← readTally bytes
  (readMany read count rest).map fun (values, rest) => ((count, values), rest)

/-- Whether a count and the sizes of texts are all below a bound. -/
def CountedBelow (bound count : Nat) (texts : List Text) : Prop :=
  count < bound ∧ ∀ content ∈ texts, (Utf8.replaced content).length < bound

instance (bound count : Nat) (texts : List Text) : Decidable (CountedBelow bound count texts) :=
  inferInstanceAs (Decidable (_ ∧ _))

theorem spells_readLongText (content : Text) :
    Spells readLongText (spelling content) content.repair := by
  simp only [spelling]
  have decoded := Utf8.decode_replaced content
  generalize Utf8.replaced content = data at *
  exact (spells_readVarint data.length).andThen
    ((spells_readBytes data).andTake fun rest => by simp only [decoded])

theorem spells_readLongPair (pair : Text × Text) :
    Spells readLongPair (spelling pair.1 ++ spelling pair.2) (pair.1.repair, pair.2.repair) :=
  (spells_readLongText pair.1).andThen
    ((spells_readLongText pair.2).map (pair.1.repair, ·))

theorem spells_readTally {count : Nat} (few : count < 2 ^ 32) :
    Spells readTally (FixedWidth.encode 4 (Word.unsigned 32 count)) count := by
  have spelled := (spells_readWord 4 count).map (Word.unsigned 32)
  have same : Word.unsigned 32 (Word.signed 32 count) = count := by
    apply Int.ofNat_inj.mp
    rw [Word.cast_unsigned, Word.signed_emod, ← Word.cast_unsigned, Word.unsigned_of_lt few]
  rwa [same] at spelled

theorem Spells.readTallied {ι : Type} {read : Parser α} {spelling : ι → Bytes} {value : ι → α}
    {items : List ι} (few : items.length < 2 ^ 32)
    (each : ∀ item ∈ items, Spells read (spelling item) (value item)) :
    Spells (Wire.readTallied read)
      (FixedWidth.encode 4 (Word.unsigned 32 items.length) ++ items.flatMap spelling)
      (items.length, items.map value) :=
  (spells_readTally few).andThen ((Spells.readMany each).map (items.length, ·))

end Wire

namespace Plan

variable {count : Nat} {texts : List Text}

open Wire

theorem fault_counted_replace_eq_none_iff :
    (counted .replace count (texts.map Value.text)).fault = none ↔
      CountedBelow (2 ^ 32) count texts := by
  simp only [fault_counted_eq_none_iff, List.forall_mem_map, string,
    fault_text_replace_eq_none_iff, CountedBelow]

/-- A collection is written as its count and the spellings of its texts. -/
theorem bytes_counted_replace (counts : CountedBelow (2 ^ 32) count texts) :
    (counted .replace count (texts.map Value.text)).bytes
      = FixedWidth.encode 4 (Word.unsigned 32 count) ++ texts.flatMap spelling := by
  have spelled : (texts.map fun content => (string .replace (.text content)).bytes)
      = texts.map spelling := by
    apply List.map_congr_left
    intro content mem
    rw [string, bytes_text_replace (counts.2 content mem), spelling]
  rw [bytes_counted (fault_counted_replace_eq_none_iff.mpr counts), List.flatMap_map,
    List.flatMap_def, spelled, ← List.flatMap_def]

end Plan

namespace Wire

/-- The texts of entries in the order in which they are written. -/
def partsOf (entries : List (Text × Text)) : List Text :=
  entries.flatMap fun entry => [entry.1, entry.2]

/-- The elements of a set that is written are read back, and the count of them. -/
theorem spells_elements {texts : List Text} (counts : CountedBelow (2 ^ 32) texts.length texts) :
    Spells (readTallied readLongText)
      (Plan.counted .replace texts.length (texts.map Value.text)).bytes
      (texts.length, texts.map Text.repair) := by
  rw [Plan.bytes_counted_replace counts]
  exact Spells.readTallied counts.1 fun content _ => spells_readLongText content

/-- The entries of a map that is written are read back, and the count of them. -/
theorem spells_entries {entries : List (Text × Text)}
    (counts : CountedBelow (2 ^ 32) entries.length (partsOf entries)) :
    Spells (readTallied readLongPair)
      (Plan.counted .replace entries.length ((partsOf entries).map Value.text)).bytes
      (entries.length, entries.map (Prod.map Text.repair Text.repair)) := by
  have parts : (partsOf entries).flatMap spelling
      = entries.flatMap fun entry => spelling entry.1 ++ spelling entry.2 := by
    simp only [partsOf, List.flatMap_assoc, List.flatMap_cons, List.flatMap_nil, List.append_nil]
  rw [Plan.bytes_counted_replace counts, parts]
  exact Spells.readTallied counts.1 fun entry _ => spells_readLongPair entry

end Wire

end IndexWire
