import IndexWire.Proofs.Sink.Copy
import IndexWire.Proofs.Sink.Views
import IndexWire.Session.Workspace

/-!
# Windows of a buffer

What a sink that writes to a window does to the buffer, call after call. No call of it, whether it
succeeds or fails, moves the cursor out of the window, changes the size of the buffer, or changes a
byte outside the window; the data may come from the same buffer, and what is copied from any source.

`Confines` is what a delivery of pieces keeps. A session goes on as `Uses` tells as long as nothing
but the sink reaches the bytes of the buffer. Items of several bytes are not so confined: their
bytes push all that stands behind the cursor away.
-/

namespace IndexWire

namespace Store

variable (store : Store) (id other : BufferId)

theorem length_pin : (store.pin id).buffers.length = store.buffers.length :=
  List.length_set

theorem length_unpin : (store.unpin id).buffers.length = store.buffers.length :=
  List.length_set

/-- A change of the pins of a buffer. -/
theorem bytes_setBuffer_pins (pins : Nat) :
    ((store.setBuffer id { store.buffer id with pins }).buffer other).bytes
      = (store.buffer other).bytes := by
  by_cases same : other = id
  · subst same
    by_cases made : other < store.buffers.length
    · rw [buffer_setBuffer_self made]
    · simp [setBuffer, Store.buffer, made]
  · rw [buffer_setBuffer_of_ne same]

theorem bytes_pin : ((store.pin id).buffer other).bytes = (store.buffer other).bytes :=
  bytes_setBuffer_pins store id other _

theorem bytes_unpin : ((store.unpin id).buffer other).bytes = (store.buffer other).bytes :=
  bytes_setBuffer_pins store id other _

end Store

/-- A part of a buffer, with the bytes that the buffer had at first. -/
structure Window where
  buffer : BufferId
  start : Nat
  stop : Nat
  original : Bytes

namespace Window

variable {window : Window} {store : Store} {destination : Destination}

/-- A destination that writes to a window, and a buffer that has not changed outside of it. -/
structure Confines (window : Window) (store : Store) (destination : Destination) : Prop where
  site : destination.site = .region window.buffer window.start window.stop
  whole : destination.IsWhole store
  size : (store.buffer window.buffer).bytes.length = window.original.length
  outside : ∀ index, index < window.start ∨ window.stop ≤ index →
    (store.buffer window.buffer).bytes[index]? = window.original[index]?

theorem Confines.exists_region (confines : window.Confines store destination) :
    ∃ position, destination = .region ⟨window.buffer, window.start, window.stop, position⟩ ∧
      Region.IsPlaced store ⟨window.buffer, window.start, window.stop, position⟩ := by
  rcases Destination.exists_region_of_site confines.site with ⟨position, rfl⟩
  exact ⟨position, rfl, confines.whole⟩

theorem Confines.made (confines : window.Confines store destination) :
    window.buffer < store.buffers.length := by
  rcases confines.exists_region with ⟨position, -, placed⟩
  exact placed.made

/-- A delivery writes into the window only. -/
theorem Confines.deliver (confines : window.Confines store destination) (pieces : List Piece) :
    window.Confines (destination.deliver store pieces).state.1
      (destination.deliver store pieces).state.2 := by
  rcases confines.exists_region with ⟨position, rfl, placed⟩
  rcases Destination.deliver_whole confines.whole pieces with ⟨taken, -, -, -, took⟩
  generalize taken.flatMap Piece.bytes = data at took
  rcases Destination.exists_region_of_site took.site with ⟨later, found⟩
  have after := took.whole
  have contents := took.contents
  have count := took.count
  rw [found] at after contents count
  have buffer := congrArg Memory.buffer (Option.some.inj contents)
  rw [Memory.buffer_ofBytes] at buffer
  have low := placed.low
  have high := placed.high
  have inside := placed.inside
  have lowAfter := after.low
  have highAfter := after.high
  simp only [Destination.count] at low high inside lowAfter highAfter count
  have cursor : (Memory.ofBytes (store.buffer window.buffer).bytes position).position
      = position := by
    simp only [Memory.position, Memory.ofBytes, List.length_reverse, List.length_take]
    omega
  refine ⟨took.site, took.whole, ?_, ?_⟩
  · rw [buffer, Memory.length_buffer_put, Memory.buffer_ofBytes, confines.size]
    simp only [Memory.ofBytes, List.length_drop]
    omega
  · intro index elsewhere
    rw [buffer, Memory.getElem?_buffer_put, Memory.buffer_ofBytes, confines.outside index elsewhere]
    rw [cursor]
    omega

theorem Confines.of_bytes {before after : Store} (confines : window.Confines before destination)
    (made : window.buffer < after.buffers.length)
    (same : (after.buffer window.buffer).bytes = (before.buffer window.buffer).bytes) :
    window.Confines after destination := by
  rcases confines.exists_region with ⟨position, rfl, placed⟩
  refine ⟨rfl, ⟨made, placed.low, placed.high, ?_⟩, ?_, ?_⟩
  · rw [same]
    exact placed.inside
  · rw [same]
    exact confines.size
  · rw [same]
    exact confines.outside

theorem Confines.pin (confines : window.Confines store destination) (id : BufferId) :
    window.Confines (store.pin id) destination :=
  confines.of_bytes (by rw [Store.length_pin]; exact confines.made) (Store.bytes_pin store id _)

theorem Confines.unpin (confines : window.Confines store destination) (id : BufferId) :
    window.Confines (store.unpin id) destination :=
  confines.of_bytes (by rw [Store.length_unpin]; exact confines.made) (Store.bytes_unpin store id _)

/-- The cursor moves inside the window only. -/
theorem Confines.reset {region changed : Region}
    (confines : window.Confines store (.region region)) {offset : Option Int}
    (moved : region.reset offset = .ok changed) : window.Confines store (.region changed) := by
  unfold Region.reset at moved
  simp only at moved
  split at moved
  · rename_i inside
    cases moved
    have placed : region.IsPlaced store := confines.whole
    refine ⟨confines.site, ⟨placed.made, ?_, ?_, placed.inside⟩, confines.size, confines.outside⟩
    · simp only
      omega
    · simp only
      omega
  · cases moved

end Window

namespace Session

@[simp]
theorem object?_setObject_self (session : Session) (name : Text) (object : Object) :
    (session.setObject name object).object? name = some object := by
  simp only [object?, setObject, find?_putEntry_self, Option.map_some]

theorem object?_setObject_of_ne {name other : Text} (different : other ≠ name) (session : Session)
    (object : Object) : (session.setObject name object).object? other = session.object? other := by
  simp only [object?, setObject, find?_putEntry_of_ne different]

/-- Whether a call is one of the sink of a name: a write, a copy, or a move of the cursor. -/
def Step.IsOn (name : Text) : Step → Prop
  | .write sink _ | .writeBytes sink _ _ _ | .copy sink _ _ | .reset sink _ => sink = name
  | _ => False

/--
How a session goes on in which only the sink of a name reaches the bytes of a buffer: it makes a
call of the sink, or it does anything that leaves the sink and these bytes as they are.
-/
inductive Uses (name : Text) (id : BufferId) (start : Session) : Session → Prop
  | refl : Uses name id start start
  | call {middle : Session} (step : Step) (own : step.IsOn name)
      (uses : Uses name id start middle) :
      Uses name id start (middle.step step).session
  | apart {middle later : Session} (uses : Uses name id start middle)
      (sink : later.object? name = middle.object? name)
      (bytes : (later.store.buffers[id]?).map Buffer.bytes
        = (middle.store.buffers[id]?).map Buffer.bytes) :
      Uses name id start later

/-- A session in which a name stands for a sink that is confined to a window. -/
def Guards (window : Window) (name : Text) (session : Session) : Prop :=
  ∃ sink, session.object? name = some (.sink sink) ∧
    window.Confines session.store sink.destination

variable {window : Window} {name : Text} {session : Session}

theorem guards_setObject {store : Store} {sink : Sink}
    (confines : window.Confines store sink.destination) :
    Guards window name ({ session with store }.setObject name (.sink sink)) :=
  ⟨sink, object?_setObject_self _ _ _, confines⟩

theorem Guards.write (guards : session.Guards window name) (request : Request) :
    (session.write name request).session.Guards window name := by
  rcases guards with ⟨sink, found, confines⟩
  simp only [Session.write, found]
  exact guards_setObject (confines.deliver _)

theorem Guards.writeBytes (guards : session.Guards window name) (data : Data) (offset : Int)
    (length : Option Int) :
    (session.writeBytes name data offset length).session.Guards window name := by
  unfold Session.writeBytes
  split
  · rcases guards with ⟨sink, found, confines⟩
    simp only [refused, found, Option.any_some]
    split
    · exact ⟨sink, found, confines⟩
    · simp only [lacking, found]
      exact ⟨sink, found, confines⟩
  · exact guards.write _
  · rename_i id given
    rcases guards with ⟨sink, found, confines⟩
    have pinned : Guards window name { session with store := session.store.pin id } :=
      ⟨sink, found, confines.pin id⟩
    rcases pinned.write (.bytes (session.store.buffer id).bytes offset length) with
        ⟨later, found, written⟩
    exact ⟨later, found, written.unpin id⟩

theorem Guards.copy (guards : session.Guards window name) (source : Text) (count : Int) :
    (session.copy name source count).session.Guards window name := by
  rcases guards with ⟨sink, found, confines⟩
  unfold Session.copy
  split
  · rename_i held origin given other
    rw [found] at given
    cases given
    have different : name ≠ source := by
      rintro rfl
      rw [found] at other
      cases other
    have kept := Transfer.copy_keeps (fun _ _ pieces kept => kept.deliver pieces)
      (Transfer.mk session.store sink origin) count confines
    refine ⟨_, ?_, kept⟩
    simp only [copyFrom]
    rw [object?_setObject_of_ne different, object?_setObject_self]
  · rename_i held other noSource given existing
    rw [found] at given
    cases given
    have untouched := Transfer.copy_of_nonpos
      (Transfer.mk session.store sink (.memory (.own []) 0)) (Int.min_le_right count 0)
    simp only [copyFromOther]
    split <;> exact guards_setObject (by rw [untouched.2]; exact confines)
  · exact ⟨sink, found, confines⟩
  · simp only [lacking, found]
    exact ⟨sink, found, confines⟩

theorem Guards.reset (guards : session.Guards window name) (offset : Option (Option Int)) :
    (session.reset name offset).session.Guards window name := by
  rcases guards with ⟨⟨policy, scratch, destination⟩, found, confines⟩
  rcases confines.exists_region with ⟨position, rfl, placed⟩
  simp only [Session.reset, found]
  split
  · rename_i changed moved
    exact guards_setObject (confines.reset moved)
  · exact ⟨_, found, confines⟩

/-- Every call of a sink that is confined to a window leaves it so. -/
theorem Guards.step (guards : session.Guards window name) {step : Step} (own : step.IsOn name) :
    (session.step step).session.Guards window name := by
  cases step with
  | write sink request =>
      obtain rfl : sink = name := own
      exact guards.write request
  | writeBytes sink data offset length =>
      obtain rfl : sink = name := own
      exact guards.writeBytes data offset length
  | copy sink source count =>
      obtain rfl : sink = name := own
      exact guards.copy source count
  | reset sink offset =>
      obtain rfl : sink = name := own
      exact guards.reset offset
  | _ => exact False.elim own

theorem Guards.apart (guards : session.Guards window name) {later : Session}
    (sink : later.object? name = session.object? name)
    (bytes : (later.store.buffers[window.buffer]?).map Buffer.bytes
      = (session.store.buffers[window.buffer]?).map Buffer.bytes) :
    later.Guards window name := by
  rcases guards with ⟨held, found, confines⟩
  refine ⟨held, sink.trans found, ?_⟩
  rw [List.getElem?_eq_getElem confines.made] at bytes
  rcases Option.map_eq_some_iff.mp bytes with ⟨buffer, there, same⟩
  apply confines.of_bytes
  · exact (List.getElem?_eq_some_iff.mp there).1
  · simp only [Store.buffer, there, List.getElem?_eq_getElem confines.made, Option.getD_some]
    exact same

/-- However a session goes on, the sink stays confined to its window. -/
theorem Guards.uses {start later : Session} (guards : start.Guards window name)
    (uses : Uses name window.buffer start later) : later.Guards window name := by
  induction uses with
  | refl => exact guards
  | call step own uses ih => exact ih.step own
  | apart uses sink bytes ih => exact ih.apart sink bytes

theorem store_choosePolicy (session : Session) (given : Option Value) :
    (session.choosePolicy given).1.store = session.store := by
  cases given <;> rfl

/-- A cursor is not moved to a place outside its window. -/
theorem reset_of_outside {sink : Sink} {region : Region}
    (found : session.object? name = some (.sink sink)) (target : sink.destination = .region region)
    {offset : Int} (outside : offset < region.start ∨ region.stop < offset) :
    session.reset name (some (some offset))
      = ⟨session, .failed (.cursorOutside offset region.start region.stop), []⟩ := by
  have refused : ¬((region.start : Int) ≤ offset ∧ offset ≤ region.stop) := by omega
  simp only [Session.reset, found, target, Option.join_some, Region.reset, Option.getD_some,
    if_neg refused, Session.failed]

section Construction

variable {buffer : Text} {id : BufferId} {policy : Option Value} {chosen : SurrogatePolicy}
  (given : (session.drop name).object? buffer = some (.buffer id))
  (valid : ((session.drop name).choosePolicy policy).2.result = .ok chosen)
  (offset : Int) (length : Option Int)

include given valid

theorem newSink_of_outside
    (outside : let size := ((session.drop name).store.buffer id).bytes.length
      let count := length.getD (size - offset)
      ¬(0 ≤ offset ∧ 0 ≤ count ∧ offset + count ≤ size)) :
    ∃ fault, (session.newSink name policy (.region buffer (some offset) length)).outcome
      = .failed fault := by
  simp only [newSink, destination?, given, Option.map_some, valid, Region.ofBuffer]
  rw [if_pos (by omega)]
  exact ⟨_, rfl⟩

theorem newSink_of_inside
    (inside : let size := ((session.drop name).store.buffer id).bytes.length
      let count := length.getD (size - offset)
      0 ≤ offset ∧ 0 ≤ count ∧ offset + count ≤ size) :
    let size := ((session.drop name).store.buffer id).bytes.length
    let count := length.getD (size - offset)
    let region : Region := ⟨id, offset.toNat, (offset + count).toNat, offset.toNat⟩
    let built := session.newSink name policy (.region buffer (some offset) length)
    built.outcome = .policy chosen ∧ built.session.store = (session.drop name).store ∧
      built.session.object? name
        = some (.sink { policy := chosen, destination := .region region }) := by
  simp only [newSink, destination?, given, Option.map_some, valid, Region.ofBuffer]
  rw [if_neg (by omega)]
  exact ⟨rfl, store_choosePolicy _ _, object?_setObject_self _ _ _⟩

end Construction

/--
A sink on a window of a buffer is made exactly when the window is inside the buffer. Whatever calls
it gets, its cursor stays in the window, and the buffer keeps its size and all bytes outside the
window; the cursor is not moved to a place outside the window.
-/
theorem window_confines (session : Session) {name buffer : Text} {id : BufferId} {original : Bytes}
    {policy : Option Value} {chosen : SurrogatePolicy}
    (given : (session.drop name).object? buffer = some (.buffer id))
    (holds : ((session.drop name).store.buffers[id]?).map Buffer.bytes = some original)
    (valid : ((session.drop name).choosePolicy policy).2.result = .ok chosen)
    (offset : Int) (length : Option Int) :
    let count := length.getD (original.length - offset)
    let built := session.step (.newSink name policy (.region buffer (some offset) length))
    ((∃ fault, built.outcome = .failed fault) ↔
      ¬(0 ≤ offset ∧ 0 ≤ count ∧ offset + count ≤ original.length)) ∧
    ((¬∃ fault, built.outcome = .failed fault) → ∀ later, Uses name id built.session later →
      ∃ sink region, later.object? name = some (.sink sink) ∧ sink.destination = .region region ∧
        region.buffer = id ∧ (region.start : Int) = offset ∧ (region.stop : Int) = offset + count ∧
        region.start ≤ region.position ∧ region.position ≤ region.stop ∧
        region.stop ≤ original.length ∧
        (region.remaining : Int) = (region.stop : Int) - region.position ∧
        (later.store.buffer id).bytes.length = original.length ∧
        (∀ index, index < region.start ∨ region.stop ≤ index →
          (later.store.buffer id).bytes[index]? = original[index]?) ∧
        ∀ target : Int, target < region.start ∨ region.stop < target →
          ∃ fault, later.step (.reset name (some (some target))) = ⟨later, .failed fault, []⟩) := by
  intro count built
  rcases Option.map_eq_some_iff.mp holds with ⟨held, there, rfl⟩
  have bytes : ((session.drop name).store.buffer id).bytes = held.bytes := by
    simp only [Store.buffer, there, Option.getD_some]
  by_cases inside : 0 ≤ offset ∧ 0 ≤ count ∧ offset + count ≤ held.bytes.length
  case neg =>
    have failed : ∃ fault, built.outcome = .failed fault :=
      newSink_of_outside given valid offset length (by simp only [bytes]; exact inside)
    exact ⟨iff_of_true failed inside, fun accepted => absurd failed accepted⟩
  case pos =>
    have made := newSink_of_inside given valid offset length (by simp only [bytes]; exact inside)
    simp only [bytes] at made
    have accepted : ¬∃ fault, built.outcome = .failed fault := by
      rintro ⟨fault, failed⟩
      rw [show built.outcome = _ from made.1] at failed
      cases failed
    refine ⟨iff_of_false accepted (not_not_intro inside), fun _ later uses => ?_⟩
    have placed : Region.IsPlaced built.session.store
        ⟨id, offset.toNat, (offset + count).toNat, offset.toNat⟩ := by
      rw [show built.session.store = _ from made.2.1]
      refine ⟨(List.getElem?_eq_some_iff.mp there).1, Nat.le_refl _, ?_, ?_⟩
      · simp only
        omega
      · rw [bytes]
        simp only
        omega
    have first : (built.session.store.buffer id).bytes = held.bytes := by
      rw [show built.session.store = _ from made.2.1, bytes]
    have guards : built.session.Guards
        ⟨id, offset.toNat, (offset + count).toNat, held.bytes⟩ name :=
      ⟨_, made.2.2, rfl, placed, congrArg List.length first,
        fun index _ => congrArg (·[index]?) first⟩
    rcases guards.uses uses with ⟨sink, found, confines⟩
    rcases confines.exists_region with ⟨position, target, cursor⟩
    have within : (offset + count).toNat ≤ held.bytes.length := by omega
    have remaining : ((Region.mk id offset.toNat (offset + count).toNat position).remaining : Int)
        = ((offset + count).toNat : Int) - position := Int.ofNat_sub cursor.high
    exact ⟨sink, _, found, target, rfl, Int.toNat_of_nonneg (by omega),
      Int.toNat_of_nonneg (by omega), cursor.low, cursor.high, within, remaining, confines.size,
      confines.outside, fun place outside => ⟨_, reset_of_outside found target outside⟩⟩

/-- A window of two bytes that gets two bytes, and then one for which there is no room. -/
theorem window_confines_full :
    let buffer := Text.ofString "buffer"
    let name := Text.ofString "sink"
    let session : Session :=
      { store := { buffers := [{ bytes := [1, 2, 3, 4] }] }, objects := [(buffer, .buffer 0)] }
    let built := session.step
      (.newSink name (some (.text SurrogatePolicy.replace.name)) (.region buffer (some 1) (some 2)))
    let later := (built.session.step (.write name (.int16 0x0506))).session
    let last := (later.step (.write name (.byte 7))).session
    (¬∃ fault, built.outcome = .failed fault) ∧
      ∃ region sink, last.object? name = some (.sink sink) ∧ sink.destination = .region region ∧
        (region.position : Int) ≤ 3 ∧ (last.store.buffer 0).bytes.length = 4 ∧
        (last.store.buffer 0).bytes[3]? = some 4 := by
  intro buffer name session built later last
  have given : (session.drop name).object? buffer = some (.buffer 0) := rfl
  have holds : ((session.drop name).store.buffers[0]?).map Buffer.bytes = some [1, 2, 3, 4] := rfl
  have valid : ((session.drop name).choosePolicy
      (some (.text SurrogatePolicy.replace.name))).2.result = .ok .replace := by rfl
  have confined := window_confines session given holds valid 1 (some 2)
  have accepted : ¬∃ fault, built.outcome = .failed fault := fun failed =>
    confined.1.mp failed (by decide)
  have uses : Session.Uses name 0 built.session last :=
    .call (.write name (.byte 7)) rfl (.call (.write name (.int16 0x0506)) rfl .refl)
  rcases confined.2 accepted last uses with
      ⟨sink, region, found, target, -, -, stop, -, high, -, -, size, outside, -⟩
  refine ⟨accepted, region, sink, found, target, ?_, size, outside 3 (Or.inr ?_)⟩
  · simp only [Option.getD_some] at stop
    omega
  · simp only [Option.getD_some] at stop
    omega

/--
A byte before a window of one byte is changed by a source that is read into the buffer, and items of
four bytes each make the buffer longer, although there is room for them in the window.
-/
theorem window_not_confined :
    let buffer := Text.ofString "buffer"
    let name := Text.ofString "sink"
    let source := Text.ofString "source"
    let replace := some (Value.text SurrogatePolicy.replace.name)
    let small : Session :=
      { store := { buffers := [{ bytes := [0, 0, 0, 0] }] }
        objects := [(buffer, .buffer 0), (source, .source (.memory (.own [7]) 0))] }
    let built := small.step (.newSink name replace (.region buffer (some 1) (some 1)))
    let read := (built.session.step (.readBytes source buffer 0 1)).session
    let later := read.step (.write name (.byte 1))
    let large : Session :=
      { store := { buffers := [{ bytes := [0, 1, 2, 3, 4, 5, 6, 7, 8, 9] }] }
        objects := [(buffer, .buffer 0)] }
    let wide := large.step (.newSink name replace (.region buffer (some 2) (some 3)))
    let written := wide.session.writeItems name View.threeWords 0 none
    (built.outcome = .policy .replace ∧ later.outcome = .done ∧
        (later.session.store.buffer 0).bytes = [7, 1, 0, 0]) ∧
      wide.outcome = .policy .replace ∧ written.outcome = .done ∧
        (written.session.store.buffer 0).bytes
          = [0, 1, 1, 0, 0, 0, 2, 0, 0, 0, 3, 0, 0, 0, 5, 6, 7, 8, 9] := by
  intro buffer name source replace small built read later large wide written
  refine ⟨⟨rfl, rfl, ?_⟩, rfl, rfl, ?_⟩
  · decide +kernel
  · decide +kernel

end Session

end IndexWire
