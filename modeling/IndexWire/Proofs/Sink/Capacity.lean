import IndexWire.Proofs.Sink.Delivery
import Mathlib.Data.ENat.Lattice

/-!
# Room

How many bytes more a destination takes, and what it says to a piece that is too large for that. The
bytes taken come off the room and change nothing else about it, and so the room tells at which of
any pieces a delivery ends, and with which words.
-/

namespace IndexWire

namespace Destination

/-- How many bytes more a destination takes. -/
def capacity : Destination → ℕ∞
  | region target => target.remaining
  | stream target =>
    match target.device with
    | .writer device =>
      if device.isClosed then 0
      else device.budget.elim ⊤ fun budget => (budget - device.taken.length : Nat)
    | .file file => if file.isClosed then 0 else ⊤
  | recorder target => target.budget.elim ⊤ fun budget => (budget - target.taken.length : Nat)
  | _ => ⊤

theorem hasRoom_iff_le_capacity {destination : Destination} {count : Nat} (positive : 0 < count) :
    destination.HasRoom count ↔ (count : ℕ∞) ≤ destination.capacity := by
  cases destination with
  | memory target => simp [HasRoom, capacity]
  | counter number => simp [HasRoom, capacity]
  | region target =>
      simp only [HasRoom, capacity, Region.remaining, Nat.cast_le]
      omega
  | recorder target =>
      rcases target with ⟨taken, handed, budget, refusal⟩
      cases budget with
      | none => simp [HasRoom, capacity]
      | some budget =>
          simp only [HasRoom, capacity, Option.mem_some_iff, forall_eq', Option.elim_some,
            Nat.cast_le]
          omega
  | stream target =>
      rcases target with ⟨name, written, device⟩
      cases device with
      | file file => cases closed : file.isClosed <;> simp [HasRoom, capacity, closed, positive.ne']
      | writer device =>
          rcases device with ⟨taken, asked, flushes, isClosed, budget, refusal, limit⟩
          cases isClosed with
          | true => simp [HasRoom, capacity, positive.ne']
          | false =>
              cases budget with
              | none => simp [HasRoom, capacity]
              | some budget =>
                  simp only [HasRoom, capacity, Option.mem_some_iff, forall_eq', true_and,
                    Option.elim_some, Bool.false_eq_true, if_false, Nat.cast_le]
                  omega

/--
What a destination says to a piece for which it has no room after as many bytes more. One that
always has room says nothing.
-/
def refusal (destination : Destination) (more : Nat) (piece : Piece) : Fault :=
  match destination, piece with
  | region _, .byte _ => .regionFull
  | region target, .range bytes => .regionTooSmall bytes.length (target.remaining - more)
  | stream target, _ =>
    match target.device with
    | .writer device => if device.isClosed then .closed else device.refusal
    | .file _ => .closed
  | recorder target, _ => target.refusal
  | memory _, _ | counter _, _ => .closed

variable {store : Store} {destination : Destination}

theorem fault_put_of_no_room (whole : destination.IsWhole store) {piece : Piece}
    (full : ¬destination.HasRoom piece.bytes.length) :
    (destination.put store piece).fault = some (destination.refusal 0 piece) := by
  cases destination with
  | memory target => exact absurd trivial full
  | counter count => exact absurd trivial full
  | region target =>
      cases piece with
      | byte value =>
          have reached : target.position ≥ target.stop := by
            simp only [HasRoom, Piece.bytes, List.length_singleton] at full
            omega
          simp only [put, Region.put, Region.putByte, if_pos reached]
          rfl
      | range content =>
          have high := whole.high
          have tooMany : content.length > target.remaining := by
            simp only [HasRoom, Piece.bytes] at full
            unfold Region.remaining
            omega
          simp only [put, Region.put, Region.putRange, if_pos tooMany]
          rfl
  | recorder target =>
      simp only [put, Recorder.put_of_no_room full]
      rfl
  | stream target =>
      rcases target with ⟨name, written, device⟩
      cases device with
      | file file =>
          have closed : file.isClosed = true := by simpa [HasRoom] using full
          simp only [put, Stream.put, Device.write, closed, if_true]
          rfl
      | writer device =>
          cases closed : device.isClosed with
          | true =>
              simp only [put, Stream.put, Device.write, Writer.write, refusal, closed, if_true,
                Attempt.failed, Attempt.map]
          | false =>
              have beyond := Writer.write_of_no_room closed (not_and.mp full closed)
              simp only [put, Stream.put, Device.write, beyond, refusal, closed, Attempt.failed,
                Attempt.map, Bool.false_eq_true, if_false]

/-- The bytes that a destination has taken come off its room, and change nothing else about it. -/
theorem room_put (whole : destination.IsWhole store) {piece : Piece}
    (room : destination.HasRoom piece.bytes.length) :
    let after := (destination.put store piece).state.2
    (∀ more, after.HasRoom more → destination.HasRoom (piece.bytes.length + more)) ∧
      ∀ more later, after.refusal more later
        = destination.refusal (piece.bytes.length + more) later := by
  cases destination with
  | memory target => exact ⟨fun more roomy => trivial, fun more later => rfl⟩
  | counter count => exact ⟨fun more roomy => trivial, fun more later => rfl⟩
  | region target =>
      simp only [put, Region.put_of_room whole room]
      refine ⟨fun more roomy => ?_, fun more later => ?_⟩
      · simp only [HasRoom] at roomy ⊢
        omega
      · cases later with
        | byte value => rfl
        | range content => simp only [refusal, Region.remaining, Nat.sub_sub, Nat.add_assoc]
  | recorder target =>
      simp only [put, Recorder.put_of_room room, Attempt.map]
      refine ⟨fun more roomy budget bounded => ?_, fun more later => rfl⟩
      have below := roomy budget bounded
      simp only [List.length_append, List.length_reverse] at below
      omega
  | stream target =>
      rcases target with ⟨name, written, device⟩
      cases device with
      | file file =>
          have opened : file.isClosed = false := room
          simp only [put, Stream.put, Device.write, opened, Bool.false_eq_true, if_false,
            Attempt.map]
          exact ⟨fun more roomy => opened, fun more later => rfl⟩
      | writer device =>
          have accepted := Writer.write_of_room whole room.1 room.2
          simp only [put, Stream.put, Device.write, accepted, Attempt.map]
          refine ⟨fun more roomy => ⟨room.1, fun budget bounded => ?_⟩, fun more later => rfl⟩
          have below := roomy.2 budget bounded
          simp only [List.length_append, List.length_reverse] at below
          omega

/--
A delivery ends at the first piece for which there is no room behind the pieces before it. These are
taken, and nothing of the others.
-/
theorem deliver_of_no_room (whole : destination.IsWhole store) (front : List Piece) (piece : Piece)
    (back : List Piece)
    (room : front ≠ [] → destination.HasRoom (front.flatMap Piece.bytes).length)
    (full : ¬destination.HasRoom ((front.flatMap Piece.bytes).length + piece.bytes.length)) :
    (destination.deliver store (front ++ piece :: back)).fault
        = some (destination.refusal (front.flatMap Piece.bytes).length piece) ∧
      Took (store, destination) (front.flatMap Piece.bytes)
        (destination.deliver store (front ++ piece :: back)).state := by
  induction front generalizing store destination with
  | nil =>
      rw [List.flatMap_nil, List.length_nil, Nat.zero_add] at full
      have refused := fault_put_of_no_room whole full
      simp only [List.nil_append, deliver, refused, List.flatMap_nil]
      exact ⟨rfl, (put_of_no_room whole full).2⟩
  | cons first rest ih =>
      have roomy := room (List.cons_ne_nil first rest)
      rw [List.flatMap_cons, List.length_append] at roomy full
      rw [Nat.add_assoc] at full
      have one := roomy.mono (Nat.le_add_right first.bytes.length _)
      rcases put_of_room whole one with ⟨accepted, took⟩
      rcases room_put whole one with ⟨back, words⟩
      rcases ih took.whole (fun _ => took.room _ roomy) (fun more => full (back _ more)) with
          ⟨outcome, later⟩
      simp only [List.cons_append, deliver, accepted, List.flatMap_cons, List.length_append]
      rw [words] at outcome
      exact ⟨outcome, took.trans later⟩

end Destination

end IndexWire
