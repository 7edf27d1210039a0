import IndexWire.Proofs.Sink.Delivery
import IndexWire.Proofs.Sink.Views
import IndexWire.Proofs.Wire.Spelling

/-!
# Reading back what was written

A sink writes values one after another, without marks between them. This file proves that they can
be told apart: a reader that knows the kinds of the values finds each of them in order, and stops
where whatever follows them begins.

The texts of a request and the entries of its collection must be fewer than the count before them
can tell with its sign bit clear. A request that is beyond this is written all the same, but its
reader takes the count for a negative number.

The length of a range asks for as many bytes, from its offset on. A memory keeps just these in front
of its cursor, whatever the size of the items; where they are bytes, these are all bytes of the
range.
-/

namespace IndexWire

namespace Request

open Wire

/-- The number of bytes that a text takes; a value that is no text takes none. -/
def textSize (value : Value) : Nat := (Utf8.replaced (value.text?.getD [])).length

/-- Whether the counts in a request leave the sign bit clear. -/
def IsShort : Request → Prop
  | string value => textSize value < 2 ^ 31
  | stringMap entries =>
      entries.length < 2 ^ 31 ∧
        ∀ entry ∈ entries, textSize entry.1 < 2 ^ 31 ∧ textSize entry.2 < 2 ^ 31
  | stringSet value =>
      (value.elements?.getD []).length < 2 ^ 31 ∧
        ∀ element ∈ value.elements?.getD [], textSize element < 2 ^ 31
  | _ => True

theorem spells_string {value : Value} (accepted : (Plan.string .replace value).fault = none)
    (short : textSize value < 2 ^ 31) :
    Spells readText (Plan.string .replace value).bytes (textDatum value) := by
  rcases Plan.exists_text_of_string accepted with ⟨content, rfl⟩
  have few : (Utf8.replaced content).length < 2 ^ 31 := short
  change Spells readText (Plan.text .replace content).bytes content.repair
  rw [Plan.bytes_text_replace (by omega)]
  exact spells_readText few

theorem spells_pair {entry : Value × Value}
    (accepted : ∀ value ∈ [entry.1, entry.2], (Plan.string .replace value).fault = none)
    (short : textSize entry.1 < 2 ^ 31 ∧ textSize entry.2 < 2 ^ 31) :
    Spells readPair ([entry.1, entry.2].flatMap fun value => (Plan.string .replace value).bytes)
      (textDatum entry.1, textDatum entry.2) := by
  have key := spells_string (accepted entry.1 (by simp)) short.1
  have value := spells_string (accepted entry.2 (by simp)) short.2
  rw [List.flatMap_cons, List.flatMap_cons, List.flatMap_nil, List.append_nil]
  exact key.andThen (value.map (textDatum entry.1, ·))

/-- An accepted request writes bytes that spell what a reader is to find. -/
theorem spells {request : Request} (accepted : (request.plan .replace).fault = none)
    (short : request.IsShort) :
    Spells request.shape.read (request.plan .replace).bytes request.datum := by
  cases request with
  | byte value =>
      exact (spells_readBytes [UInt8.ofNat (Word.unsigned 8 value)]).map Datum.bytes
  | bytes data offset length =>
      rcases Plan.slice_of_accepted accepted with ⟨start, count, rfl, size, inside, plan⟩
      have whole : ((data.drop start).take count).length = count := by
        rw [List.length_take, List.length_drop]
        omega
      have spelled := (spells_readBytes ((data.drop start).take count)).map Datum.bytes
      rw [whole] at spelled
      simp only [Request.plan, plan, Plan.bytes_range, shape, datum, rangeCount, size,
        Int.toNat_natCast]
      exact spelled
  | int16 value =>
      have fits := (Plan.fault_word_eq_none_iff 2 value).mp accepted
      simp only [Request.plan, Plan.bytes_word fits]
      exact (spells_readWord 2 value).map Datum.int
  | int32 value =>
      have fits := (Plan.fault_word_eq_none_iff 4 value).mp accepted
      simp only [Request.plan, Plan.bytes_word fits]
      exact (spells_readWord 4 value).map Datum.int
  | int64 value =>
      have fits := (Plan.fault_word_eq_none_iff 8 value).mp accepted
      simp only [Request.plan, Plan.bytes_word fits]
      exact (spells_readWord 8 value).map Datum.int
  | vint value =>
      have fits := (Plan.fault_vint_eq_none_iff value).mp accepted
      have spelled := spells_readSigned 32 (Word.unsigned 32 value)
      rw [Word.signed_unsigned] at spelled
      simp only [Request.plan, Plan.bytes_vint fits]
      exact spelled.map Datum.int
  | vlong value =>
      have fits := (Plan.fault_vlong_eq_none_iff value).mp accepted
      rcases Int.eq_ofNat_of_zero_le fits.1 with ⟨number, rfl⟩
      simp only [Request.plan, Plan.bytes_vlong_natCast (show number < 2 ^ 63 by omega)]
      exact (spells_readVarint number).map fun number => Datum.int number
  | zint32 value =>
      have fits := (Plan.fault_zint32_eq_none_iff value).mp accepted
      simp only [Request.plan, Plan.bytes_zint32 fits]
      exact (spells_readZigzag (by decide) value).map Datum.int
  | zint64 value =>
      have fits := (Plan.fault_zint64_eq_none_iff value).mp accepted
      simp only [Request.plan, Plan.bytes_zint64 fits]
      exact (spells_readZigzag (by decide) value).map Datum.int
  | string value => exact (spells_string accepted short).map Datum.text
  | stringMap entries =>
      have plan := Plan.stringMap_of_accepted accepted
      simp only [Request.plan, plan] at accepted ⊢
      have each := ((Plan.fault_counted_eq_none_iff _ _ _).mp accepted).2
      rw [List.forall_mem_flatMap] at each
      rw [Plan.bytes_counted accepted, List.flatMap_assoc]
      exact (Spells.readCounted short.1 fun entry mem =>
        spells_pair (each entry mem) (short.2 entry mem)).map Datum.entries
  | stringSet value =>
      rcases Plan.stringSet_of_accepted accepted with ⟨elements, found, plan⟩
      simp only [IsShort, found, Option.getD_some] at short
      simp only [Request.plan, plan, datum, found, Option.getD_some] at accepted ⊢
      have each := ((Plan.fault_counted_eq_none_iff _ _ _).mp accepted).2
      rw [Plan.bytes_counted accepted]
      exact (Spells.readCounted short.1 fun element mem =>
        spells_string (each element mem) (short.2 element mem)).map Datum.elements

end Request

namespace Sink

namespace Writing

/-- The number of items in a range of a view. -/
def itemCount (view : View) (offset : Int) (length : Option Int) : Nat :=
  (length.getD (view.count - offset)).toNat

/-- The bytes that a range of a view asks for: as many as it has items, from its start on. -/
def leading (view : View) (offset : Int) (length : Option Int) : Bytes :=
  let count := itemCount view offset length
  (view.part offset.toNat count).bytes.take count

/-- The shape of what a call writes. -/
def shape : Writing → Wire.Shape
  | .value request => request.shape
  | .items view offset length => .bytes (itemCount view offset length)

/-- What a reader finds where a call has written under the policy `replace`. -/
def datum : Writing → Wire.Datum
  | .value request => request.datum
  | .items view offset length => .bytes (leading view offset length)

/-- Whether the counts that a call writes leave the sign bit clear. -/
def IsShort : Writing → Prop
  | .value request => request.IsShort
  | .items _ _ _ => True

/-- Of a range of items that are bytes, a reader finds every byte. -/
theorem leading_of_narrow {view : View} (narrow : view.itemSize = 1) (offset : Int)
    (length : Option Int) :
    leading view offset length
      = (view.bytes.drop offset.toNat).take (itemCount view offset length) := by
  rw [leading, View.bytes_part_of_narrow narrow, List.take_take, Nat.min_self]

/-- How a call on a sink in memory ends. -/
def outcome (policy : SurrogatePolicy) : Writing → Option Fault
  | .value request => (request.plan policy).fault
  | .items view offset length =>
    match view.range offset length with
    | .error fault => some fault
    | .ok _ => none

/-- What a call adds to the value of a memory. -/
def kept (policy : SurrogatePolicy) : Writing → Bytes
  | .value request => (request.plan policy).bytes
  | .items view offset length =>
    match view.range offset length with
    | .error _ => []
    | .ok range => range.bytes.take range.count

/-- An accepted call adds bytes that spell what a reader is to find. -/
theorem spells {writing : Writing} (accepted : writing.outcome .replace = none)
    (short : writing.IsShort) :
    Wire.Spells writing.shape.read (writing.kept .replace) writing.datum := by
  cases writing with
  | value request => exact Request.spells accepted short
  | items view offset length =>
      cases found : view.range offset length with
      | error fault =>
          simp only [outcome, found] at accepted
          cases accepted
      | ok range =>
          rcases View.range_eq_ok found with ⟨start, count, rfl, size, inside, rfl⟩
          have counted : itemCount view start length = count := by
            rw [itemCount, size, Int.toNat_natCast]
          have items := View.count_part inside
          have enough : count ≤ (view.part start count).bytes.length :=
            items.symm.le.trans (View.count_le_length_bytes _)
          have spelled :=
            (Wire.spells_readBytes ((view.part start count).bytes.take count)).map Wire.Datum.bytes
          rw [List.length_take, Nat.min_eq_left enough] at spelled
          simp only [kept, found, shape, datum, leading, counted, items, Int.toNat_natCast]
          exact spelled

theorem spells_all {writings : List Writing}
    (accepted : ∀ writing ∈ writings, writing.outcome .replace = none)
    (short : ∀ writing ∈ writings, writing.IsShort) :
    Wire.Spells (Wire.Shape.readAll (writings.map shape))
      (writings.flatMap (kept .replace)) (writings.map datum) := by
  induction writings with
  | nil => exact Wire.Spells.nil fun rest => rfl
  | cons writing later ih =>
      rw [List.forall_mem_cons] at accepted short
      have first := spells accepted.1 short.1
      exact first.andThen ((ih accepted.2 short.2).map (writing.datum :: ·))

end Writing

/-- What requests leave in memory, and how they end. -/
theorem writeAll_memory (store : Store) (policy : SurrogatePolicy) (scratch : Option Bytes)
    (memory : Memory) (requests : List Request) :
    writeAll store ⟨policy, scratch, .memory memory⟩ requests
      = (store,
          ⟨policy, scratch,
            .memory (memory.put (requests.flatMap fun request => (request.plan policy).bytes))⟩,
          requests.map fun request => (request.plan policy).fault) := by
  induction requests generalizing memory with
  | nil => simp [writeAll]
  | cons request rest ih =>
      simp only [writeAll, write, carryOut, Destination.deliver_memory, ih, Memory.put_put,
        List.flatMap_cons, List.map_cons, Option.none_or, Plan.bytes]

/-- What a call does to a sink in memory. -/
theorem perform_memory (store : Store) (policy : SurrogatePolicy) (scratch : Option Bytes)
    (memory : Memory) (writing : Writing) :
    ∃ last : Memory, last.value = memory.value ++ writing.kept policy ∧
      perform store ⟨policy, scratch, .memory memory⟩ writing
        = { state := (store, ⟨policy, scratch, .memory last⟩)
            fault := writing.outcome policy } := by
  cases writing with
  | value request =>
      refine ⟨_, Memory.value_put memory (request.plan policy).bytes, ?_⟩
      simp only [perform, write, carryOut, Destination.deliver_memory, Option.none_or,
        Writing.outcome, Plan.bytes]
  | items view offset length =>
      simp only [perform, writeItems, Writing.kept, Writing.outcome]
      cases view.range offset length with
      | error fault => exact ⟨memory, by simp, rfl⟩
      | ok range =>
          cases items : range.items with
          | nil => exact ⟨memory, by simp [View.bytes, items], by simp [items]⟩
          | cons first rest =>
              refine ⟨_, Memory.value_overlay memory range.count range.bytes, ?_⟩
              simp [items, Destination.putItems, Attempt.map]

/-- What calls leave in memory, and how they end. -/
theorem performAll_memory (store : Store) (policy : SurrogatePolicy) (scratch : Option Bytes)
    (memory : Memory) (writings : List Writing) :
    ∃ last : Memory, last.value = memory.value ++ writings.flatMap (Writing.kept policy) ∧
      performAll store ⟨policy, scratch, .memory memory⟩ writings
        = (store, ⟨policy, scratch, .memory last⟩, writings.map (Writing.outcome policy)) := by
  induction writings generalizing memory with
  | nil => exact ⟨memory, by simp, rfl⟩
  | cons writing rest ih =>
      rcases perform_memory store policy scratch memory writing with ⟨middle, value, performed⟩
      rcases ih middle with ⟨last, later, all⟩
      refine ⟨last, ?_, ?_⟩
      · rw [later, value, List.append_assoc, List.flatMap_cons]
      · simp only [performAll, performed, all, List.map_cons]

end Sink

end IndexWire
