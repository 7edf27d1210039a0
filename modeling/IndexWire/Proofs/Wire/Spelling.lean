import IndexWire.Proofs.Number
import IndexWire.Proofs.Text.Decoding
import IndexWire.Wire.Reader

/-!
# Spellings

Bytes spell a value for a reader when the reader finds the value in front of whatever follows them,
and runs out of input on every shorter part of them. The two are kept together because each reader
is built of smaller ones, and both are carried through the same compositions: a reader after a
reader, a reader repeated as often as a count tells, a count before the values that it counts.

Every accepted request writes a spelling of what `Request.datum` tells, as long as its lengths are
below the sign bit of the counts that stand before them.
-/

namespace IndexWire

namespace Wire

variable {α β : Type}

/-- Bytes from which a reader takes exactly one value, and of which it needs every byte. -/
structure Spells (read : Parser α) (bytes : Bytes) (value : α) : Prop where
  complete : ∀ rest, read (bytes ++ rest) = .ok (value, rest)
  truncated : ∀ part, part <+: bytes → part ≠ bytes → read part = .error .ended

/-- A part of two strings ends inside the first of them, or in the second. -/
theorem prefix_append_cases {part front back : Bytes} (short : part <+: front ++ back) :
    (part <+: front ∧ part ≠ front) ∨ ∃ later, part = front ++ later ∧ later <+: back := by
  rcases List.prefix_or_prefix_of_prefix short (List.prefix_append front back) with inside | beyond
  · by_cases whole : part = front
    · exact Or.inr ⟨[], by rw [whole, List.append_nil], List.nil_prefix⟩
    · exact Or.inl ⟨inside, whole⟩
  · rcases beyond with ⟨later, rfl⟩
    exact Or.inr ⟨later, rfl, (List.prefix_append_right_inj front).mp short⟩

namespace Spells

theorem map {read : Parser α} {bytes : Bytes} {value : α} (spelled : Spells read bytes value)
    (change : α → β) :
    Spells (fun input => (read input).map fun (value, rest) => (change value, rest)) bytes
      (change value) where
  complete rest := by
    simp only [spelled.complete rest, Except.map]
  truncated part short proper := by
    simp only [spelled.truncated part short proper, Except.map]

theorem nil {read : Parser α} {value : α} (found : ∀ rest, read rest = .ok (value, rest)) :
    Spells read [] value where
  complete := found
  truncated _ short proper := absurd (List.prefix_nil.mp short) proper

/-- A reader after a reader. -/
theorem andThen {read : Parser α} {next : α × Bytes → Except Failure (β × Bytes)}
    {front back : Bytes} {value : α} {result : β} (first : Spells read front value)
    (second : Spells (fun rest => next (value, rest)) back result) :
    Spells (fun input => read input >>= next) (front ++ back) result where
  complete rest := by
    simp only [List.append_assoc, first.complete, bind, Except.bind, second.complete]
  truncated part short proper := by
    rcases prefix_append_cases short with ⟨inside, cut⟩ | ⟨later, rfl, inside⟩
    · simp only [first.truncated part inside cut, bind, Except.bind]
    · have cut : later ≠ back := fun whole => proper (by rw [whole])
      simp only [first.complete, bind, Except.bind, second.truncated later inside cut]

/-- A reader, and a step after it that takes no bytes. -/
theorem andTake {read : Parser α} {next : α × Bytes → Except Failure (β × Bytes)} {bytes : Bytes}
    {value : α} {result : β} (first : Spells read bytes value)
    (found : ∀ rest, next (value, rest) = .ok (result, rest)) :
    Spells (fun input => read input >>= next) bytes result := by
  have spelled := first.andThen (nil found)
  rwa [List.append_nil] at spelled

/-- A reader repeated for each item of a list. -/
theorem readMany {ι : Type} {read : Parser α} {spelling : ι → Bytes} {value : ι → α}
    {items : List ι} (each : ∀ item ∈ items, Spells read (spelling item) (value item)) :
    Spells (Wire.readMany read items.length) (items.flatMap spelling) (items.map value) := by
  induction items with
  | nil => exact nil fun rest => rfl
  | cons item rest ih =>
      have first := each item List.mem_cons_self
      have later := ih fun other mem => each other (List.mem_cons_of_mem item mem)
      exact first.andThen (later.map (value item :: ·))

end Spells

theorem spells_readBytes (bytes : Bytes) : Spells (readBytes bytes.length) bytes bytes where
  complete rest := by
    simp [readBytes]
  truncated part short proper := by
    have fewer : part.length < bytes.length := by
      rcases Nat.lt_or_eq_of_le short.length_le with fewer | same
      · exact fewer
      · exact absurd (short.eq_of_length same) proper
    simp only [readBytes, if_neg (Nat.not_le.mpr fewer)]

theorem spells_readWord (count : Nat) (value : Int) :
    Spells (readWord count) (FixedWidth.encode count (Word.unsigned (8 * count) value))
      (Word.signed (8 * count) value) where
  complete rest := by
    have small : Word.unsigned (8 * count) value < 256 ^ count := by
      have below := Word.unsigned_lt (8 * count) value
      rwa [Nat.pow_mul] at below
    simp only [readWord, FixedWidth.decode_encode_append small, Word.signed_unsigned]
  truncated part short proper := by
    have fewer : part.length < count := by
      have shorter := short.length_le
      rw [FixedWidth.length_encode] at shorter
      rcases Nat.lt_or_eq_of_le shorter with fewer | same
      · exact fewer
      · exact absurd (short.eq_of_length (by rw [same, FixedWidth.length_encode])) proper
    simp only [readWord, FixedWidth.decode, if_neg (Nat.not_le.mpr fewer)]

/-- Every byte of a number but the last one tells that there is another. -/
theorem decode_of_prefix_encode {number : Nat} {part : Bytes}
    (short : part <+: Varint.encode number) (proper : part ≠ Varint.encode number) :
    Varint.decode part = none := by
  fun_induction Varint.encode number generalizing part with
  | case1 number small =>
      rcases List.prefix_cons_iff.mp short with rfl | ⟨later, rfl, inside⟩
      · rfl
      · exact absurd (by rw [List.prefix_nil.mp inside]) proper
  | case2 number large ih =>
      rcases List.prefix_cons_iff.mp short with rfl | ⟨later, rfl, inside⟩
      · rfl
      · have cut : later ≠ Varint.encode (number / 128) := fun whole => proper (by rw [whole])
        have group : ¬(UInt8.ofNat (number % 128 + 128)).toNat < 128 := by
          rw [UInt8.toNat_ofNat']
          omega
        simp only [Varint.decode, if_neg group, ih inside cut, Option.map_none]

theorem spells_readVarint (number : Nat) :
    Spells readVarint (Varint.encode number) number where
  complete rest := by
    simp only [readVarint, Varint.decode_encode_append]
  truncated part short proper := by
    simp only [readVarint, decode_of_prefix_encode short proper]

theorem spells_readSigned (width number : Nat) :
    Spells (readSigned width) (Varint.encode number) (Word.signed width number) :=
  (spells_readVarint number).map fun number => Word.signed width number

theorem spells_readZigzag {width : Nat} (positive : 0 < width) (value : Int) :
    Spells (readZigzag width) (Varint.encode (Word.zigzag width value))
      (Word.signed width value) := by
  have spelled := (spells_readVarint (Word.zigzag width value)).map fun number =>
    Word.unzigzag width number
  rw [Word.unzigzag_zigzag positive] at spelled
  exact spelled

/-- The bytes of a text, after the count of them. -/
def spelling (content : Text) : Bytes :=
  Varint.encode (Utf8.replaced content).length ++ Utf8.replaced content

theorem spells_readText {content : Text}
    (short : (Utf8.replaced content).length < 2 ^ 31) :
    Spells readText (spelling content) content.repair := by
  simp only [spelling]
  have decoded := Utf8.decode_replaced content
  generalize Utf8.replaced content = data at *
  have counted := spells_readSigned 32 data.length
  rw [Word.signed_of_lt short] at counted
  -- the check of the count computes: what is checked is the cast of a length
  exact counted.andThen ((spells_readBytes data).andTake fun rest => by simp only [decoded])

/-- A count and the values that it counts. -/
theorem Spells.readCounted {ι : Type} {read : Parser α} {spelling : ι → Bytes} {value : ι → α}
    {items : List ι} (few : items.length < 2 ^ 31)
    (each : ∀ item ∈ items, Spells read (spelling item) (value item)) :
    Spells (Wire.readCounted read)
      (FixedWidth.encode 4 (Word.unsigned 32 items.length) ++ items.flatMap spelling)
      (items.map value) := by
  have counted := spells_readWord 4 items.length
  rw [Word.signed_of_lt few] at counted
  exact counted.andThen (Spells.readMany each)

end Wire

end IndexWire
