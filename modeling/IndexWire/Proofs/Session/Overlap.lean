import IndexWire.Proofs.Session.Window
import IndexWire.Proofs.Sink.Fitting

/-!
# Moving bytes inside of one buffer

A source and a window may share a buffer, and then a copy writes over bytes that it has still to
read. It reads a block as a whole before it writes it, and so a byte that is read has been written
over before exactly if an earlier block reached it. Within one block the order does not matter, and
a request that writes a range of the buffer itself stores the range as it was.

`Overlaid` tells what the buffer is between two blocks.
-/

namespace IndexWire

namespace Bytes

/-- What bytes put over others of a string make of it. -/
theorem getElem?_overlay {bytes data : Bytes} {start : Nat} (inside : start ≤ bytes.length)
    (index : Nat) :
    (bytes.take start ++ data ++ bytes.drop (start + data.length))[index]?
      = if start ≤ index ∧ index < start + data.length then data[index - start]?
        else bytes[index]? := by
  have front : (bytes.take start).length = start := List.length_take_of_le inside
  rw [List.append_assoc]
  by_cases before : index < start
  · rw [List.getElem?_append_left (by omega), if_neg (by omega), List.getElem?_take_of_lt before]
  · rw [List.getElem?_append_right (by omega), front]
    by_cases within : index < start + data.length
    · rw [List.getElem?_append_left (by omega), if_pos (by omega)]
    · rw [List.getElem?_append_right (by omega), if_neg (by omega), List.getElem?_drop]
      congr 1
      omega

/--
A string in which so many bytes from `start` on have been moved to `cursor` on, by blocks of a size.
A block may have read what an earlier one has written.
-/
structure Overlaid (size start cursor : Nat) (original : Bytes) (moved : Nat) (current : Bytes) :
    Prop where
  length : current.length = original.length
  outside : ∀ index, index < cursor ∨ cursor + moved ≤ index → current[index]? = original[index]?
  inside : ∀ index < moved,
    current[cursor + index]?
      = if cursor ≤ start + index ∧ start + index < cursor + size * (index / size) then
          current[start + index]?
        else original[start + index]?

namespace Overlaid

variable {size start cursor moved count : Nat} {original current : Bytes}

theorem refl (size start cursor : Nat) (original : Bytes) :
    Overlaid size start cursor original 0 original where
  length := rfl
  outside _ _ := rfl
  inside _ less := absurd less (Nat.not_lt_zero _)

/-- After whole blocks, one block more. -/
theorem block (overlaid : Overlaid size start cursor original moved current)
    (aligned : size ∣ moved) (fits : count ≤ size)
    (read : start + moved + count ≤ original.length)
    (room : cursor + moved + count ≤ original.length) :
    Overlaid size start cursor original (moved + count)
      (current.take (cursor + moved) ++ (current.drop (start + moved)).take count
        ++ current.drop (cursor + moved + count)) := by
  have length := overlaid.length
  have data : ((current.drop (start + moved)).take count).length = count := by
    rw [List.length_take, List.length_drop]
    omega
  have within : cursor + moved ≤ current.length := by omega
  have lookup := @getElem?_overlay current ((current.drop (start + moved)).take count) _ within
  rw [data] at lookup
  constructor
  case length =>
    simp only [List.length_append, data, List.length_take, List.length_drop]
    omega
  case outside =>
    intro index elsewhere
    rw [lookup, if_neg (by omega)]
    apply overlaid.outside
    omega
  case inside =>
    intro index less
    rw [lookup, lookup (start + index)]
    by_cases old : index < moved
    · -- an earlier block read nothing from where this one is
      have block : size * (index / size) ≤ index := Nat.mul_div_le index size
      rw [if_neg (by omega), overlaid.inside index old]
      split
      · rw [if_neg (by omega)]
      · rfl
    · obtain ⟨offset, rfl⟩ : ∃ offset, index = moved + offset := ⟨index - moved, by omega⟩
      have reads : ((current.drop (start + moved)).take count)[cursor + (moved + offset)
          - (cursor + moved)]? = current[start + (moved + offset)]? := by
        rw [List.getElem?_take_of_lt (by omega), List.getElem?_drop]
        congr 1
        omega
      have block : size * ((moved + offset) / size) = moved := by
        rcases aligned with ⟨blocks, rfl⟩
        rw [Nat.mul_add_div (by omega), Nat.div_eq_of_lt (by omega), Nat.add_zero]
      rw [if_pos (by omega), reads, block]
      by_cases written : cursor ≤ start + (moved + offset)
          ∧ start + (moved + offset) < cursor + moved
      · rw [if_pos written, if_neg (by omega)]
      · rw [if_neg written]
        apply overlaid.outside
        omega

/-- The bytes that a copy has read where it had written, told by how far up it moves them. -/
theorem getElem?_moved (overlaid : Overlaid size start cursor original moved current) {index : Nat}
    (less : index < moved) :
    let distance : Int := cursor - start
    current[cursor + index]?
      = if 0 < distance ∧ distance ≤ index ∧ index - distance < (size * (index / size) : Nat) then
          current[(cursor + index - distance).toNat]?
        else original[start + index]? := by
  intro distance
  have block : size * (index / size) ≤ index := Nat.mul_div_le index size
  have back : (cursor + index - distance).toNat = start + index := by omega
  have written : (cursor ≤ start + index ∧ start + index < cursor + size * (index / size))
      ↔ 0 < distance ∧ distance ≤ index ∧ index - distance < (size * (index / size) : Nat) := by
    omega
  rw [overlaid.inside index less, back]
  exact if_congr written rfl rfl

/-- The bytes moved are those that were there, unless the copy has read what it had written. -/
theorem take_drop_eq (overlaid : Overlaid size start cursor original moved current)
    (apart : cursor ≤ start ∨ start + moved ≤ cursor ∨ moved ≤ size) :
    (current.drop cursor).take moved = (original.drop start).take moved := by
  have length := overlaid.length
  apply List.ext_getElem?
  intro index
  by_cases less : index < moved
  · rw [List.getElem?_take_of_lt less, List.getElem?_take_of_lt less, List.getElem?_drop,
      List.getElem?_drop, overlaid.inside index less, if_neg]
    have block : size * (index / size) ≤ index := Nat.mul_div_le index size
    rcases apart with behind | before | single
    · omega
    · omega
    · rw [Nat.div_eq_of_lt (by omega), Nat.mul_zero]
      omega
  · rw [List.getElem?_take_eq_none (by omega), List.getElem?_take_eq_none (by omega)]

end Overlaid

end Bytes

/-- A source in memory puts its next bytes over the first ones of any scratch buffer. -/
theorem Source.readInto_memory_scratch {store : Store} {content : Content} {start count : Nat}
    (inside : start + count ≤ (content.bytes store).length) (scratch : Bytes) :
    (memory content start).readInto store none { bytes := scratch } 0 count
      = { state :=
            (memory content (start + count : Nat),
              { bytes := ((content.bytes store).drop start).take count ++ scratch.drop count }) }
    := by
  have left : ¬(count : Int) > remaining store content start := by
    simp only [remaining]
    omega
  have read : (content.bytes store).slice start (start + count : Nat)
      = ((content.bytes store).drop start).take count := Bytes.slice_of_le inside
  have spliced (data : Bytes) : scratch.splice 0 (0 + count) data = data ++ scratch.drop count := by
    have law := @Bytes.splice_of_le scratch 0 count (Nat.zero_le scratch.length) data
    simpa using law
  simp only [readInto, if_neg left, ← Int.natCast_add, read, Buffer.splice, spliced, ne_eq,
    not_true_eq_false, and_false, if_false]

namespace Transfer

variable {region : Region} {cursor start moved left : Nat} {original : Bytes} {transfer : Transfer}

/-- A copy inside of one buffer, after so many bytes. -/
structure IsInside (region : Region) (cursor start : Nat) (original : Bytes) (moved : Nat)
    (transfer : Transfer) : Prop where
  destination : transfer.sink.destination = .region region
  placed : region.IsPlaced transfer.store
  position : region.position = cursor + moved
  source : transfer.source = .memory (.shared region.buffer) (start + moved : Nat)
  scratch : transfer.sink.scratch.isSome
  overlaid : Bytes.Overlaid blockSize start cursor original moved
    (transfer.store.buffer region.buffer).bytes

/-- A block is read as a whole, and then written. -/
theorem IsInside.block (inside : IsInside region cursor start original moved transfer)
    (aligned : blockSize ∣ moved) (unfinished : 0 < left)
    (read : start + moved + left ≤ original.length) (room : left ≤ region.remaining) :
    ∃ later : Transfer, transfer.moveBlocks left = later.moveBlocks (left - min left blockSize) ∧
      IsInside { region with position := region.position + min left blockSize } cursor start
        original (moved + min left blockSize) later := by
  rcases transfer with ⟨store, sink, source⟩
  rcases inside with ⟨destination, placed, position, rfl, buffered, overlaid⟩
  rcases Option.isSome_iff_exists.mp buffered with ⟨scratch, buffer⟩
  have less : min left blockSize ≤ left := Nat.min_le_left left blockSize
  have most : min left blockSize ≤ blockSize := Nat.min_le_right left blockSize
  have length : (store.buffer region.buffer).bytes.length = original.length := overlaid.length
  have high := placed.high
  have stop : region.stop ≤ (store.buffer region.buffer).bytes.length := placed.inside
  have fits : region.position + min left blockSize ≤ region.stop := by
    simp only [Region.remaining] at room
    omega
  have loaded := @Source.readInto_memory_scratch store (.shared region.buffer) (start + moved)
    (min left blockSize) (by simp only [Content.bytes]; omega) scratch
  have next := overlaid.block aligned most (by omega) (by omega)
  have whole : (((store.buffer region.buffer).bytes.drop (start + moved)).take
      (min left blockSize)).length = min left blockSize := by
    rw [List.length_take, List.length_drop]
    omega
  simp only [Content.bytes] at loaded
  generalize ((store.buffer region.buffer).bytes.drop (start + moved)).take (min left blockSize)
    = block at loaded whole next
  have bytes : [Piece.range block].flatMap Piece.bytes = block := by simp [Piece.bytes]
  have sound : (Destination.region region).IsWhole store := placed
  rcases Destination.deliver_of_room sound (by rw [bytes, whole]; exact fits) with ⟨accepted, took⟩
  rw [bytes] at took
  rcases took.eq_of_region placed with ⟨reached, further, result⟩
  have goesOn := (moveBlocks_of_read store buffer unfinished whole loaded).1
  rw [destination] at goesOn
  refine ⟨_, goesOn accepted, ?_⟩
  rw [whole] at reached further result
  refine ⟨reached, further, ?_, ?_, rfl, ?_⟩
  · simp only [position, Nat.add_assoc]
  · simp only [Nat.add_assoc]
  · rw [position] at result
    simp only [result]
    exact next

/-- A copy inside of one buffer does not fail where it has the bytes and the room for them. -/
theorem IsInside.moveBlocks (inside : IsInside region cursor start original moved transfer)
    (aligned : blockSize ∣ moved) (read : start + moved + left ≤ original.length)
    (room : left ≤ region.remaining) :
    (transfer.moveBlocks left).fault = none ∧
      IsInside { region with position := region.position + left } cursor start original
        (moved + left) (transfer.moveBlocks left).state := by
  induction left using Nat.strongRecOn generalizing transfer moved region with
  | ind left ih =>
      rcases Nat.eq_zero_or_pos left with rfl | unfinished
      · rw [moveBlocks_zero]
        exact ⟨rfl, inside⟩
      · rcases inside.block aligned unfinished read room with ⟨later, goesOn, further⟩
        rw [goesOn]
        rcases Nat.le_total left blockSize with last | more
        · rw [Nat.min_eq_left last] at further ⊢
          rw [Nat.sub_self, moveBlocks_zero]
          exact ⟨rfl, further⟩
        · have positive : 0 < blockSize := by decide
          rw [Nat.min_eq_right more] at further ⊢
          have rest := ih (left - blockSize) (by omega) further
            (Nat.dvd_add aligned (Nat.dvd_refl blockSize)) (by omega)
            (by simp only [Region.remaining] at room ⊢; omega)
          simp only [Nat.add_assoc, Nat.add_sub_cancel' more] at rest
          exact rest

/-- What a copy inside of one buffer makes of the buffer; a negative count is refused. -/
theorem copy_inside {store : Store} {sink : Sink} (target : sink.destination = .region region)
    (placed : region.IsPlaced store) {count : Int}
    (read : start + count ≤ (store.buffer region.buffer).bytes.length)
    (room : count ≤ region.remaining) :
    let copied := (Transfer.mk store sink (.memory (.shared region.buffer) start)).copy count
    (copied.fault = none ↔ 0 ≤ count) ∧
      Bytes.Overlaid blockSize start region.position (store.buffer region.buffer).bytes count.toNat
        (copied.state.store.buffer region.buffer).bytes := by
  intro copied
  by_cases negative : count < 0
  · have refused : copied
        = .failed ⟨store, sink, .memory (.shared region.buffer) start⟩ (.negativeCount count) :=
      if_pos negative
    rw [refused, Int.toNat_of_nonpos (Int.le_of_lt negative)]
    refine ⟨?_, Bytes.Overlaid.refl _ _ _ _⟩
    simpa [Attempt.failed] using negative
  · rcases Int.eq_ofNat_of_zero_le (Int.not_lt.mp negative) with ⟨count, rfl⟩
    have first : IsInside region region.position start (store.buffer region.buffer).bytes 0
        ⟨store, sink.withScratch, .memory (.shared region.buffer) start⟩ :=
      ⟨target, placed, rfl, rfl, rfl, Bytes.Overlaid.refl _ _ _ _⟩
    have moved := @IsInside.moveBlocks _ _ _ _ count _ _ first (Nat.dvd_zero blockSize) (by omega)
      (by omega)
    rw [Nat.zero_add] at moved
    have outside := copy_of_nonneg ⟨store, sink, .memory (.shared region.buffer) start⟩
      (Int.natCast_nonneg count)
    change copied.state = _ ∧ copied.fault = _ at outside
    rw [outside.1, outside.2, Int.toNat_natCast]
    exact ⟨iff_of_true moved.1 (Int.natCast_nonneg count), moved.2.overlaid⟩

end Transfer

namespace Bytes

@[simp]
theorem flatten_filled (bytes : Bytes) : (filled bytes).flatten = bytes := by
  cases bytes <;> simp [filled]

end Bytes

theorem Region.IsPlaced.pin {region : Region} {store : Store} (placed : region.IsPlaced store)
    (id : BufferId) : region.IsPlaced (store.pin id) := by
  refine ⟨?_, placed.low, placed.high, ?_⟩
  · rw [Store.length_pin]
    exact placed.made
  · rw [Store.bytes_pin]
    exact placed.inside

namespace Sink

variable {store : Store} {sink : Sink} {region : Region}

/-- A window takes a range of bytes that is inside of them exactly when it has room for it. -/
theorem write_range (target : sink.destination = .region region) (placed : region.IsPlaced store)
    (data : Bytes) (offset : Int) (length : Option Int) :
    let count := length.getD (data.length - offset)
    let attempt := sink.write store (.bytes data offset length)
    let before := (store.buffer region.buffer).bytes
    (attempt.fault = none ↔
        0 ≤ offset ∧ 0 ≤ count ∧ offset + count ≤ data.length ∧ count ≤ region.remaining) ∧
      (attempt.fault = none →
        (attempt.state.1.buffer region.buffer).bytes
          = before.take region.position ++ (data.drop offset.toNat).take count.toNat
            ++ before.drop (region.position + count.toNat)) := by
  intro count attempt before
  have accepts := Request.fault_plan_eq_none_iff sink.policy (.bytes data offset length)
  change (Plan.slice data offset length).fault = none ↔ 0 ≤ offset ∧ 0 ≤ count ∧ _ at accepts
  have outcome : attempt.fault
      = (sink.destination.deliver store (Plan.slice data offset length).pieces).fault.or
          (Plan.slice data offset length).fault := rfl
  have state : attempt.state.1
      = (sink.destination.deliver store (Plan.slice data offset length).pieces).state.1 := rfl
  by_cases accepted : (Plan.slice data offset length).fault = none
  · rcases Plan.slice_of_accepted accepted with ⟨start, size, rfl, counted, inside, plan⟩
    change count = size at counted
    have taken : ((data.drop start).take size).length = size := by
      rw [List.length_take, List.length_drop]
      omega
    rcases Destination.deliver_fitting placed
      (Plan.isWrittenAs_range ((data.drop start).take size)) with ⟨fits, first, success, -, took⟩
    rw [first.eq_length_iff, Bytes.flatten_filled, taken, ← plan] at success
    rw [target, accepted, Option.or_none] at outcome
    rw [outcome, success, counted]
    refine ⟨by omega, fun room => ?_⟩
    have all := first.eq_length_iff.mpr (by rwa [Bytes.flatten_filled, taken])
    rw [all, List.take_length, Bytes.flatten_filled, ← plan] at took
    have result := (took.eq_of_region placed).2.2
    rw [state, target, result, taken]
    rfl
  · have refused : attempt.fault ≠ none := by
      rw [outcome, Ne, Option.or_eq_none_iff]
      exact fun both => accepted both.2
    refine ⟨iff_of_false refused ?_, fun success => absurd success refused⟩
    rintro ⟨start, positive, inside, -⟩
    exact accepted (accepts.mpr ⟨start, positive, inside⟩)

end Sink

namespace Session

theorem outcomeOf_eq_done_iff (fault : Option Fault) : outcomeOf fault = .done ↔ fault = none := by
  cases fault <;> simp [outcomeOf]

/-- A copy of a session is that of the objects that are named. -/
theorem copy_between {session : Session} {name other : Text} {sink : Sink} {source : Source}
    (found : session.object? name = some (.sink sink))
    (origin : session.object? other = some (.source source)) (count : Int) :
    let copied := (Transfer.mk session.store sink source).copy count
    let answer := session.step (.copy name other count)
    answer.outcome = outcomeOf copied.fault ∧ answer.session.store = copied.state.store := by
  simp only [step, copy, found, origin]
  exact ⟨rfl, rfl⟩

/-- A shared buffer that is given to a write is viewed for as long as that takes. -/
theorem writeBytes_of_shared {session : Session} {name : Text} {sink : Sink} {data : Data}
    {id : BufferId} (found : session.object? name = some (.sink sink))
    (given : session.content? data = some (.shared id)) (offset : Int) (length : Option Int) :
    let bytes := (session.store.buffer id).bytes
    let attempt := sink.write (session.store.pin id) (.bytes bytes offset length)
    let answer := session.writeBytes name data offset length
    answer.outcome = outcomeOf attempt.fault ∧
      answer.session.store = attempt.state.1.unpin id := by
  have held : Session.object? { session with store := session.store.pin id } name
      = some (.sink sink) := found
  simp only [Session.writeBytes, given, Session.write, held]
  exact ⟨trivial, rfl⟩

/--
A copy from a position of a buffer to a window of the same buffer changes nothing outside of the
bytes that it writes. A byte that an earlier block has written over is moved as it was written
there, and every other as it was at first; so the bytes moved are those that were there, unless the
copy goes up by less than its length and has more than one block. A range of the buffer that is
written at once is stored as it was.
-/
theorem moves_inside_buffer (session : Session) {name : Text} {sink : Sink} {region : Region}
    (found : session.object? name = some (.sink sink)) (target : sink.destination = .region region)
    (placed : region.IsPlaced session.store) :
    let original := (session.store.buffer region.buffer).bytes
    let cursor := region.position
    (∀ (source : Text) (start : Nat) (count : Int),
      session.object? source = some (.source (.memory (.shared region.buffer) start)) →
      start + count ≤ original.length → count ≤ region.remaining →
      let answer := session.step (.copy name source count)
      let final := (answer.session.store.buffer region.buffer).bytes
      let distance : Int := cursor - start
      (answer.outcome = .done ↔ 0 ≤ count) ∧ final.length = original.length ∧
        (∀ index : Nat, index < cursor ∨ cursor + count ≤ index →
          final[index]? = original[index]?) ∧
        (∀ index : Nat, index < count →
          final[cursor + index]?
            = if 0 < distance ∧ distance ≤ index
                  ∧ index - distance < (16384 * (index / 16384) : Nat) then
                final[(cursor + index - distance).toNat]?
              else original[start + index]?) ∧
        (cursor ≤ start ∨ start + count ≤ cursor ∨ count ≤ 16384 →
          (final.drop cursor).take count.toNat = (original.drop start).take count.toNat)) ∧
    ∀ (data : Data) (offset : Int) (length : Option Int),
      session.content? data = some (.shared region.buffer) →
      let count := length.getD (original.length - offset)
      let answer := session.step (.writeBytes name data offset length)
      (answer.outcome = .done ↔
          0 ≤ offset ∧ 0 ≤ count ∧ offset + count ≤ original.length ∧ count ≤ region.remaining) ∧
        (answer.outcome = .done →
          (answer.session.store.buffer region.buffer).bytes
            = original.take cursor ++ (original.drop offset.toNat).take count.toNat
              ++ original.drop (cursor + count.toNat)) := by
  intro original cursor
  constructor
  · intro source start count origin read room answer final distance
    rcases copy_between found origin count with ⟨outcome, store⟩
    rcases Transfer.copy_inside target placed read room with ⟨success, overlaid⟩
    rw [← store] at overlaid
    change answer.outcome = _ at outcome
    refine ⟨?_, overlaid.length, ?_, ?_, ?_⟩
    · rw [outcome, outcomeOf_eq_done_iff]
      exact success
    · intro index elsewhere
      apply overlaid.outside
      omega
    · intro index less
      exact overlaid.getElem?_moved (by omega)
    · intro apart
      apply overlaid.take_drop_eq
      have size : blockSize = 16384 := rfl
      omega
  · intro data offset length given count answer
    rcases writeBytes_of_shared found given offset length with ⟨outcome, store⟩
    have range := Sink.write_range target (placed.pin region.buffer) original offset length
    change answer.outcome = _ at outcome
    change answer.session.store = _ at store
    rw [Store.bytes_pin] at range
    rw [outcome, outcomeOf_eq_done_iff, store, Store.bytes_unpin]
    exact range

/-- A copy that goes up by one byte repeats the last byte of its first block, and no other. -/
theorem moves_inside_buffer_second_block :
    let name := Text.ofString "sink"
    let source := Text.ofString "source"
    let sink : Sink := { policy := .strict, destination := .region ⟨0, 1, 16386, 1⟩ }
    let session : Session :=
      { store := { buffers := [{ bytes := (List.range 16386).map UInt8.ofNat }] }
        objects := [(name, .sink sink), (source, .source (.memory (.shared 0) 0))] }
    let final := ((session.step (.copy name source 16385)).session.store.buffer 0).bytes
    final[16383]? = some 254 ∧ final[16384]? = some 255 ∧ final[16385]? = some 255 := by
  intro name source sink session final
  have bytes : (session.store.buffer 0).bytes = (List.range 16386).map UInt8.ofNat := by
    simp only [Store.buffer, session, List.getElem?_cons_zero, Option.getD_some]
  have length : (session.store.buffer 0).bytes.length = 16386 := by
    rw [bytes, List.length_map, List.length_range]
  have placed : Region.IsPlaced session.store ⟨0, 1, 16386, 1⟩ := by
    refine ⟨by decide, by decide, by decide, ?_⟩
    rw [length]
  have found : session.object? name = some (.sink sink) := rfl
  have copied := (moves_inside_buffer session found rfl placed).1 source 0 16385 rfl
    (by rw [length]; decide) (by decide)
  rcases copied with ⟨-, -, -, moved, -⟩
  have early := moved 16382 (by decide)
  have last := moved 16383 (by decide)
  have first := moved 16384 (by decide)
  rw [if_neg (by decide)] at early last
  rw [if_pos (by decide)] at first
  simp only [bytes] at early last
  refine ⟨early.trans ?_, last.trans ?_, first.trans (last.trans ?_)⟩
  · simp
  · simp
  · simp

end Session

end IndexWire
