import IndexWire.Proofs.Session.Overlap
import IndexWire.Proofs.Session.Reassembly

/-!
# Writing beside others

A sink that writes to a window of a buffer does not notice what others have written to another
window. `Store.Overwritten` relates the store as it would be without the others to the store as it
is. The sink keeps the relation, since it does the same to both stores, and so do the others, since
they reach their own window only.
-/

namespace IndexWire

/-- Two stores that differ in no more than the bytes of a buffer. -/
def Store.DifferIn (id : BufferId) (before after : Store) : Prop :=
  after = before.refresh id (after.buffer id).bytes

/-- A store, and the same store after others have written to a window of a buffer. -/
structure Store.Overwritten (id : BufferId) (start stop : Nat) (alone actual : Store) : Prop where
  rest : Store.DifferIn id alone actual
  length : (actual.buffer id).bytes.length = (alone.buffer id).bytes.length
  outside : ∀ index, index < start ∨ stop ≤ index →
    (actual.buffer id).bytes[index]? = (alone.buffer id).bytes[index]?

namespace Store

theorem setBuffer_refresh {id other : BufferId} (different : other ≠ id) (store : Store)
    (buffer : Buffer) (bytes : Bytes) :
    (store.refresh id bytes).setBuffer other buffer
      = (store.setBuffer other buffer).refresh id bytes := by
  have same := buffer_setBuffer_of_ne (Ne.symm different) store buffer
  simp only [refresh, same]
  simp only [setBuffer, List.set_comm _ _ different]

theorem unpin_pin (store : Store) (id : BufferId) : (store.pin id).unpin id = store := by
  by_cases made : id < store.buffers.length
  · have again := buffer_setBuffer_self made
      { store.buffer id with pins := (store.buffer id).pins + 1 }
    have whole := refresh_self store id
    simp only [refresh, setBuffer] at whole
    simp only [pin, unpin, again, Nat.add_sub_cancel]
    simp only [setBuffer, List.set_set]
    exact whole
  · have missing (buffer : Buffer) : store.setBuffer id buffer = store :=
      setBuffer_of_not_made made buffer
    simp only [pin, unpin, missing]

namespace DifferIn

variable {id other : BufferId} {before middle after : Store}

theorem refl (id : BufferId) (store : Store) : store.DifferIn id store :=
  (refresh_self store id).symm

theorem trans (one : before.DifferIn id middle) (two : middle.DifferIn id after) :
    before.DifferIn id after :=
  calc after
      = middle.refresh id (after.buffer id).bytes := two
    _ = (before.refresh id (middle.buffer id).bytes).refresh id (after.buffer id).bytes :=
        congrArg (·.refresh id (after.buffer id).bytes) one
    _ = before.refresh id (after.buffer id).bytes := refresh_refresh before id _ _

theorem of_refresh (made : id < before.buffers.length) (bytes : Bytes) :
    before.DifferIn id (before.refresh id bytes) := by
  rw [DifferIn, Store.refresh, buffer_setBuffer_self made]
  rfl

theorem count (differ : before.DifferIn id after) :
    after.buffers.length = before.buffers.length := by
  rw [differ]
  exact List.length_set

theorem buffer_of_ne (differ : before.DifferIn id after) (different : other ≠ id) :
    after.buffer other = before.buffer other := by
  rw [differ]
  exact buffer_setBuffer_of_ne different before _

theorem setBuffer (differ : before.DifferIn id after) (different : other ≠ id) (buffer : Buffer) :
    (before.setBuffer other buffer).DifferIn id (after.setBuffer other buffer) := by
  have same := buffer_setBuffer_of_ne (Ne.symm different) after buffer
  rw [DifferIn, same, ← setBuffer_refresh different, ← differ]

theorem pin (differ : before.DifferIn id after) (different : other ≠ id) :
    (before.pin other).DifferIn id (after.pin other) := by
  rw [Store.pin, Store.pin, differ.buffer_of_ne different]
  exact differ.setBuffer different _

theorem unpin (differ : before.DifferIn id after) (different : other ≠ id) :
    (before.unpin other).DifferIn id (after.unpin other) := by
  rw [Store.unpin, Store.unpin, differ.buffer_of_ne different]
  exact differ.setBuffer different _

end DifferIn

namespace Overwritten

variable {id other : BufferId} {start stop : Nat} {alone actual later : Store}

theorem refl (id : BufferId) (start stop : Nat) (store : Store) :
    Overwritten id start stop store store :=
  ⟨.refl id store, rfl, fun _ _ => rfl⟩

theorem trans (one : Overwritten id start stop alone actual)
    (two : Overwritten id start stop actual later) : Overwritten id start stop alone later where
  rest := one.rest.trans two.rest
  length := two.length.trans one.length
  outside index elsewhere := (two.outside index elsewhere).trans (one.outside index elsewhere)

/-- A region stays in place when bytes of its buffer are overwritten. -/
theorem isPlaced (altered : Overwritten id start stop alone actual) {region : Region}
    (placed : region.IsPlaced alone) (own : region.buffer = id) : region.IsPlaced actual := by
  refine ⟨?_, placed.low, placed.high, ?_⟩
  · rw [altered.rest.count]
    exact placed.made
  · rw [own, altered.length, ← own]
    exact placed.inside

/-- Whatever avoids the buffer is there in both stores. -/
theorem origin_bytes (altered : Overwritten id start stop alone actual) {origin : Origin}
    (avoids : origin.Avoids (some (.buffer id))) : origin.bytes actual = origin.bytes alone := by
  apply Origin.bytes_eq_of_avoids avoids
  intro place elsewhere
  cases place with
  | buffer other =>
      have different : other ≠ id := by
        rintro rfl
        exact elsewhere rfl
      simp only [Place.bytes, altered.rest.buffer_of_ne different]
  | file location =>
      rw [altered.rest]
      rfl

/-- The same is made of both stores. -/
theorem refresh (altered : Overwritten id start stop alone actual)
    (made : id < alone.buffers.length)
    {first second : Bytes} (length : second.length = first.length)
    (outside : ∀ index, index < start ∨ stop ≤ index → second[index]? = first[index]?) :
    Overwritten id start stop (alone.refresh id first) (actual.refresh id second) := by
  have there : id < actual.buffers.length := by
    rw [altered.rest.count]
    exact made
  have one : ((alone.refresh id first).buffer id).bytes = first := by
    rw [Store.refresh, buffer_setBuffer_self made]
  have two : ((actual.refresh id second).buffer id).bytes = second := by
    rw [Store.refresh, buffer_setBuffer_self there]
  refine ⟨?_, by rw [one, two, length], by rw [one, two]; exact outside⟩
  rw [DifferIn, two, altered.rest, refresh_refresh, refresh_refresh]

theorem pin (altered : Overwritten id start stop alone actual) (different : other ≠ id) :
    Overwritten id start stop (alone.pin other) (actual.pin other) := by
  have one := bytes_pin alone other id
  have two := bytes_pin actual other id
  exact ⟨altered.rest.pin different, by rw [one, two, altered.length],
    by rw [one, two]; exact altered.outside⟩

theorem unpin (altered : Overwritten id start stop alone actual) (different : other ≠ id) :
    Overwritten id start stop (alone.unpin other) (actual.unpin other) := by
  have one := bytes_unpin alone other id
  have two := bytes_unpin actual other id
  exact ⟨altered.rest.unpin different, by rw [one, two, altered.length],
    by rw [one, two]; exact altered.outside⟩

end Overwritten

end Store

/-- A destination that writes to a window of a buffer in a store. -/
structure Destination.WritesTo (id : BufferId) (store : Store) (destination : Destination) :
    Prop where
  site : ∃ low high, destination.site = .region id low high
  whole : destination.IsWhole store

/-- Two attempts that end alike, in states that are related. -/
structure Attempt.Beside {State : Type} (related : State → State → Prop) (one two : Attempt State) :
    Prop where
  fault : two.fault = one.fault
  notices : two.notices = one.notices
  state : related one.state two.state

namespace Destination

variable {id : BufferId} {start stop : Nat} {alone actual store : Store} {destination : Destination}

theorem WritesTo.exists_region (writes : destination.WritesTo id store) :
    ∃ region : Region, destination = .region region ∧ region.buffer = id ∧
      region.IsPlaced store := by
  rcases writes.site with ⟨low, high, site⟩
  rcases exists_region_of_site site with ⟨position, rfl⟩
  exact ⟨_, rfl, rfl, writes.whole⟩

theorem put_region_of_room_eq {region : Region} (placed : region.IsPlaced store) {piece : Piece}
    (room : region.position + piece.bytes.length ≤ region.stop) :
    (Destination.region region).put store piece
      = { state :=
            (store.refresh region.buffer
              ((store.buffer region.buffer).bytes.take region.position ++ piece.bytes
                ++ (store.buffer region.buffer).bytes.drop (region.position + piece.bytes.length)),
              .region { region with position := region.position + piece.bytes.length }) } := by
  have inside : region.position ≤ (store.buffer region.buffer).bytes.length :=
    Nat.le_trans placed.high placed.inside
  simp only [put, Region.put_of_room placed room, Bytes.splice_of_le inside]
  rfl

theorem put_region_of_no_room_eq {region : Region} (placed : region.IsPlaced store) {piece : Piece}
    (full : ¬region.position + piece.bytes.length ≤ region.stop) :
    (Destination.region region).put store piece
      = .failed (store, .region region) ((Destination.region region).refusal 0 piece) := by
  rcases Region.put_of_no_room placed full with ⟨fault, refused⟩
  have reason := @fault_put_of_no_room store (.region region) placed piece full
  simp only [put, refused, Attempt.failed, Option.some.injEq] at reason ⊢
  rw [reason]

/-- A piece is put alike whatever others have written to their window. -/
theorem WritesTo.put (writes : destination.WritesTo id alone)
    (altered : Store.Overwritten id start stop alone actual) (piece : Piece) :
    (destination.put alone piece).Beside
      (fun one two => two.2 = one.2 ∧ one.2.WritesTo id one.1 ∧
        Store.Overwritten id start stop one.1 two.1)
      (destination.put actual piece) := by
  rcases writes.exists_region with ⟨region, rfl, rfl, placed⟩
  have there : region.IsPlaced actual := altered.isPlaced placed rfl
  by_cases room : region.position + piece.bytes.length ≤ region.stop
  · have whole := (put_region_of_room placed room).2.whole
    rw [put_region_of_room_eq placed room] at whole ⊢
    rw [put_region_of_room_eq there room]
    refine ⟨rfl, rfl, rfl, ⟨⟨_, _, rfl⟩, whole⟩, altered.refresh placed.made ?_ ?_⟩
    · simp only [List.length_append, List.length_take, List.length_drop, altered.length]
    · intro index elsewhere
      have inside := Nat.le_trans placed.high placed.inside
      rw [Bytes.getElem?_overlay inside,
        Bytes.getElem?_overlay (by rw [altered.length]; exact inside),
        altered.outside index elsewhere]
  · rw [put_region_of_no_room_eq placed room, put_region_of_no_room_eq there room]
    exact ⟨rfl, rfl, rfl, writes, altered⟩

theorem WritesTo.deliver (writes : destination.WritesTo id alone)
    (altered : Store.Overwritten id start stop alone actual) (pieces : List Piece) :
    (destination.deliver alone pieces).Beside
      (fun one two => two.2 = one.2 ∧ one.2.WritesTo id one.1 ∧
        Store.Overwritten id start stop one.1 two.1)
      (destination.deliver actual pieces) := by
  induction pieces generalizing alone actual destination with
  | nil => exact ⟨rfl, rfl, rfl, writes, altered⟩
  | cons piece rest ih =>
      have first := writes.put altered piece
      rcases first.state with ⟨same, still, later⟩
      simp only [Destination.deliver, first.fault]
      split
      · exact first
      · rw [same]
        exact ih still later

/-- A delivery changes nothing in a store but the bytes of its buffer. -/
theorem WritesTo.differIn_deliver (writes : destination.WritesTo id store) (pieces : List Piece) :
    (destination.deliver store pieces).state.2.WritesTo id
        (destination.deliver store pieces).state.1 ∧
      store.DifferIn id (destination.deliver store pieces).state.1 := by
  induction pieces generalizing store destination with
  | nil => exact ⟨writes, .refl id store⟩
  | cons piece rest ih =>
      have first : (destination.put store piece).state.2.WritesTo id
            (destination.put store piece).state.1 ∧
          store.DifferIn id (destination.put store piece).state.1 := by
        have still := (writes.put (.refl id 0 0 store) piece).state.2.1
        refine ⟨still, ?_⟩
        rcases writes.exists_region with ⟨region, rfl, rfl, placed⟩
        by_cases room : region.position + piece.bytes.length ≤ region.stop
        · rw [put_region_of_room_eq placed room]
          exact .of_refresh placed.made _
        · rw [put_region_of_no_room_eq placed room]
          exact .refl _ store
      simp only [Destination.deliver]
      split
      · exact first
      · rcases ih first.1 with ⟨still, differ⟩
        exact ⟨still, first.2.trans differ⟩

end Destination

/-! ## Copies -/

/-- Two transfers with the same sink and the same source, one of them beside others. -/
structure Transfer.Beside (id : BufferId) (start stop : Nat) (one two : Transfer) : Prop where
  store : Store.Overwritten id start stop one.store two.store
  sink : two.sink = one.sink
  source : two.source = one.source
  writes : one.sink.destination.WritesTo id one.store
  avoids : one.source.origin.Avoids (some (.buffer id))

namespace Transfer.Beside

variable {id : BufferId} {start stop : Nat} {one two : Transfer}

theorem load (beside : one.Beside id start stop two) (count : Nat) :
    (one.load count).Beside (Transfer.Beside id start stop) (two.load count) := by
  rcases one with ⟨store, sink, source⟩
  rcases two with ⟨other, held, origin⟩
  cases beside.sink
  cases beside.source
  have read := Source.readInto_congr (beside.store.origin_bytes beside.avoids)
    { bytes := sink.scratch.getD [] } 0 count
  simp only [Transfer.load, read, Attempt.map]
  refine ⟨rfl, rfl, beside.store, rfl, rfl, beside.writes, ?_⟩
  rw [Source.origin_readInto]
  exact beside.avoids

theorem unload (beside : one.Beside id start stop two) (count : Nat) :
    (one.unload count).Beside (Transfer.Beside id start stop) (two.unload count) := by
  rcases one with ⟨store, sink, source⟩
  rcases two with ⟨other, held, origin⟩
  cases beside.sink
  cases beside.source
  have delivered := beside.writes.deliver beside.store
    (Plan.slice (sink.scratch.getD []) 0 (some (count : Int))).pieces
  rcases delivered.state with ⟨same, still, later⟩
  refine ⟨?_, delivered.notices, later, ?_, rfl, still, beside.avoids⟩
  · simp only [Transfer.unload, Sink.write, Sink.carryOut, Request.plan, Attempt.map,
      delivered.fault]
  · simp only [Transfer.unload, Sink.write, Sink.carryOut, Request.plan, Attempt.map, same]

theorem moveBlocks (beside : one.Beside id start stop two) (left : Nat) :
    (one.moveBlocks left).Beside (Transfer.Beside id start stop) (two.moveBlocks left) := by
  fun_induction Transfer.moveBlocks one left generalizing two with
  | case1 transfer left unfinished count loaded fault =>
      rename_i failed
      have read := beside.load count
      rw [moveBlocks_of_load_fault unfinished (read.fault.trans failed)]
      exact read
  | case2 transfer left unfinished count loaded accepted unloaded fault =>
      rename_i failed
      have read := beside.load count
      have written := read.state.unload count
      rw [moveBlocks_of_unload_fault unfinished (read.fault.trans accepted)
        (written.fault.trans failed)]
      exact written
  | case3 transfer left unfinished count loaded accepted =>
      rename_i unloaded success ih
      have read := beside.load count
      have written := read.state.unload count
      rw [moveBlocks_of_unload unfinished (read.fault.trans accepted)
        (written.fault.trans success)]
      exact ih written.state
  | case4 transfer left finished =>
      rw [Transfer.moveBlocks, dif_neg finished]
      exact ⟨rfl, rfl, beside⟩

/-- A copy goes alike whatever others have written to their window. -/
theorem copy (beside : one.Beside id start stop two) (count : Int) :
    (one.copy count).Beside (Transfer.Beside id start stop) (two.copy count) := by
  by_cases negative : count < 0
  · simp only [Transfer.copy, if_pos negative]
    exact ⟨rfl, rfl, beside⟩
  · have start : Transfer.Beside id start stop { one with sink := one.sink.withScratch }
        { two with sink := two.sink.withScratch } :=
      ⟨beside.store, congrArg Sink.withScratch beside.sink, beside.source, beside.writes,
        beside.avoids⟩
    have moved := start.moveBlocks count.toNat
    simp only [Transfer.copy, if_neg negative, moved.fault]
    split
    · exact moved
    · exact ⟨rfl, by rw [moved.notices], moved.state⟩

end Transfer.Beside

end IndexWire
