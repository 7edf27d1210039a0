import IndexWire.Proofs.Sink.Plan
import IndexWire.Sink.View

/-!
# Views of items

A view whose items are bytes is written like the byte string that it shows, whatever stands between
its items, but for a file, which takes no bytes that stand apart. All that is said of byte strings
is said of such views too.

Where items have several bytes, the bytes of a range are more than its items. Memory then keeps the
first of them, as many as there are items, and shows the others behind its cursor.
-/

namespace IndexWire

namespace View

/-- Three words of four bytes, the low byte of each first. -/
def threeWords : View where
  itemSize := 4
  items := [[1, 0, 0, 0], [2, 0, 0, 0], [3, 0, 0, 0]]
  itemSize_pos := by decide
  length_item := by decide

/-- Three bytes, with another byte between any two of them. -/
def everyOtherByte : View where
  itemSize := 1
  items := [[97], [99], [101]]
  isPacked := false
  itemSize_pos := by decide
  length_item := by decide

variable {view : View}

theorem length_bytes (view : View) : view.bytes.length = view.itemSize * view.count := by
  rw [bytes, List.length_flatten, List.map_congr_left view.length_item, List.map_const',
    List.sum_replicate_nat, Nat.mul_comm, count]

/-- An item has a byte at least. -/
theorem count_le_length_bytes (view : View) : view.count ≤ view.bytes.length := by
  rw [length_bytes]
  exact Nat.le_mul_of_pos_left view.count view.itemSize_pos

theorem length_bytes_of_narrow (narrow : view.itemSize = 1) : view.bytes.length = view.count := by
  rw [length_bytes, narrow, Nat.one_mul]

/-- Where items are bytes, each of them is a byte string of one byte. -/
theorem items_of_narrow (narrow : view.itemSize = 1) :
    view.items = view.bytes.map fun byte => [byte] := by
  have single := view.length_item
  rw [narrow] at single
  unfold bytes
  generalize view.items = items at single
  induction items with
  | nil => rfl
  | cons item rest ih =>
      rw [List.forall_mem_cons] at single
      rcases List.length_eq_one_iff.mp single.1 with ⟨byte, rfl⟩
      rw [List.flatten_cons, List.singleton_append, List.map_cons, ← ih single.2]

theorem bytes_part_of_narrow (narrow : view.itemSize = 1) (start count : Nat) :
    (view.part start count).bytes = (view.bytes.drop start).take count := by
  change ((view.items.drop start).take count).flatten = _
  rw [items_of_narrow narrow, ← List.map_drop, ← List.map_take, ← List.flatMap_def,
    List.flatMap_singleton']

theorem range_eq_ok {offset : Int} {length : Option Int} {range : View}
    (found : view.range offset length = .ok range) :
    ∃ start count : Nat, offset = start ∧ length.getD (view.count - offset) = count ∧
      start + count ≤ view.count ∧ range = view.part start count := by
  unfold View.range at found
  simp only at found
  split at found
  · cases found
  · rename_i inside
    rcases Int.eq_ofNat_of_zero_le (show 0 ≤ offset by omega) with ⟨start, rfl⟩
    rcases Int.eq_ofNat_of_zero_le (show 0 ≤ length.getD (view.count - start) by omega) with
        ⟨count, size⟩
    rw [size] at inside found
    cases found
    exact ⟨start, count, rfl, size, by omega, rfl⟩

theorem count_part {start count : Nat} (inside : start + count ≤ view.count) :
    (view.part start count).count = count := by
  simp only [View.count, part, List.length_take, List.length_drop] at inside ⊢
  omega

end View

namespace Destination

/-- Whether a destination takes the bytes of items that stand apart: all but a file do. -/
def TakesSpread : Destination → Prop
  | stream { device := .file _, .. } => False
  | _ => True

variable {store : Store} {destination : Destination} {items : View}

/-- Items that are bytes are handed over like a range of bytes. -/
theorem putItems_of_narrow (narrow : items.itemSize = 1)
    (layout : items.isContiguous ∨ destination.TakesSpread) :
    destination.putItems store items = destination.put store (.range items.bytes) := by
  have same := View.length_bytes_of_narrow narrow
  cases destination with
  | memory target => simp only [putItems, put, Piece.bytes, ← same, Memory.overlay_length]
  | counter count => simp only [putItems, put, Piece.bytes, same]
  | region target =>
      have handed : target.putItems (store.buffer target.buffer) items
          = target.put (store.buffer target.buffer) (.range items.bytes) := by
        simp only [Region.putItems, Region.put, Region.putRange, ← same]
      cases result : target.put (store.buffer target.buffer) (.range items.bytes) <;>
        simp only [putItems, put, handed, result]
  | stream target =>
      rcases target with ⟨name, written, device⟩
      have handed : device.writeItems store items = device.write store items.bytes := by
        cases device with
        | writer device => rfl
        | file device =>
            rcases layout with contiguous | spread
            · simp only [Device.writeItems, contiguous, if_true]
            · exact spread.elim
      cases result : (device.write store items.bytes).fault <;>
        simp only [putItems, put, Stream.putItems, Stream.put, Piece.bytes, handed, result, ← same]
  | recorder target => rfl

/-- To deliver one piece is to hand it over. -/
theorem deliver_singleton (store : Store) (destination : Destination) (piece : Piece) :
    destination.deliver store [piece] = destination.put store piece := by
  have quiet : (destination.put store piece).notices = [] := by
    cases destination with
    | memory target => rfl
    | counter count => rfl
    | region target =>
        simp only [put]
        split <;> rfl
    | stream target =>
        simp only [put, Attempt.map, Stream.put]
        split <;> rfl
    | recorder target =>
        simp only [put, Attempt.map, Recorder.put]
        split <;> rfl
  cases outcome : (destination.put store piece).fault with
  | some fault => simp only [deliver, outcome]
  | none =>
      simp only [deliver, outcome]
      rw [← outcome, ← quiet]

end Destination

namespace View

variable {view range : View} {offset : Int} {length : Option Int}

/-- A range that is refused is refused of the bytes too. -/
theorem slice_of_refused (narrow : view.itemSize = 1) {fault : Fault}
    (refused : view.range offset length = .error fault) :
    Plan.slice view.bytes offset length = .refused fault := by
  unfold View.range at refused
  simp only [Plan.slice, length_bytes_of_narrow narrow] at refused ⊢
  split at refused
  · rename_i outside
    cases refused
    rw [if_pos outside]
  · cases refused

/-- A range of items that are bytes is a range of the bytes. -/
theorem slice_of_range (narrow : view.itemSize = 1)
    (found : view.range offset length = .ok range) :
    Plan.slice view.bytes offset length = .range range.bytes := by
  rcases range_eq_ok found with ⟨start, count, rfl, size, inside, rfl⟩
  have same := length_bytes_of_narrow narrow
  have within : ¬((start : Int) < 0 ∨ (count : Int) < 0 ∨ (start : Int) + count > view.count) := by
    omega
  simp only [Plan.slice, same, size, if_neg within, bytes_part_of_narrow narrow]
  exact congrArg Plan.range (Bytes.slice_of_le (by omega))

theorem isContiguous_range (packed : view.isPacked) (found : view.range offset length = .ok range) :
    range.isContiguous := by
  rcases range_eq_ok found with ⟨start, count, -, -, -, rfl⟩
  simp [isContiguous, part, packed]

theorem itemSize_range (found : view.range offset length = .ok range) :
    range.itemSize = view.itemSize := by
  rcases range_eq_ok found with ⟨start, count, -, -, -, rfl⟩
  rfl

end View

namespace Sink

/-- A range of items that are bytes is written like a range of the bytes that they are. -/
theorem writeItems_of_narrow (store : Store) {sink : Sink} {view : View}
    (narrow : view.itemSize = 1) (layout : view.isPacked ∨ sink.destination.TakesSpread)
    (offset : Int) (length : Option Int) :
    sink.writeItems store view offset length
      = sink.write store (.bytes view.bytes offset length) := by
  simp only [write, Request.plan]
  cases found : view.range offset length with
  | error fault =>
      simp only [writeItems, found, View.slice_of_refused narrow found]
      rfl
  | ok range =>
      have thin : range.itemSize = 1 := (View.itemSize_range found).trans narrow
      simp only [writeItems, found, View.slice_of_range narrow found]
      cases items : range.items with
      | nil =>
          simp only [View.bytes, items]
          rfl
      | cons first rest =>
          have nonempty : range.bytes ≠ [] := by
            apply List.ne_nil_of_length_pos
            rw [View.length_bytes_of_narrow thin, View.count, items]
            exact Nat.succ_pos _
          have handed : sink.destination.putItems store range
              = sink.destination.put store (.range range.bytes) :=
            Destination.putItems_of_narrow thin
              (layout.imp_left fun packed => View.isContiguous_range packed found)
          rw [handed, carryOut, Plan.pieces_range nonempty, Destination.deliver_singleton,
            Plan.fault_range, Option.or_none]
          rfl

end Sink

end IndexWire
