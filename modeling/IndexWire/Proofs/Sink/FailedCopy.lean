import IndexWire.Proofs.Sink.Capacity
import IndexWire.Proofs.Sink.Copy
import IndexWire.Proofs.Source.Shortage

/-!
# Copies that fail

A copy moves whole blocks for as long as the source has them and the destination has room for them.
It fails at the first block that one of the two does not allow: a block that cannot be read as a
whole is not written at all, and one that cannot be written has been read. The fault is that of the
source or of the destination as it is, and nothing is reported.
-/

namespace IndexWire

/-- Where a block of a copy ends, in bytes from the start of the copy. -/
def blockEnd (count index : Nat) : Nat := min ((index + 1) * blockSize) count

section Notices

variable (store : Store)

theorem Destination.notices_put (destination : Destination) (piece : Piece) :
    (destination.put store piece).notices = [] := by
  cases destination with
  | memory target => rfl
  | counter count => rfl
  | region target =>
      simp only [put]
      split <;> rfl
  | recorder target =>
      simp only [put, Recorder.put, Attempt.map]
      split <;> rfl
  | stream target =>
      simp only [put, Stream.put, Attempt.map]
      split <;> rfl

theorem Destination.notices_deliver (destination : Destination) (pieces : List Piece) :
    (destination.deliver store pieces).notices = [] := by
  induction pieces generalizing store destination with
  | nil => rfl
  | cons piece rest ih =>
      simp only [deliver]
      split
      · exact notices_put store destination piece
      · exact ih _ _

theorem Input.notices_fill (input : Input) (shared : Option BufferId) (target : Memory)
    (room wanted filled : Nat) :
    (input.fill store shared target room wanted filled).notices = [] := by
  fun_induction fill store input shared target room wanted filled with
  | case3 store input target room filled unfinished changed head tail answer size fits filledTo
      next ih =>
      exact ih
  | _ => rfl

theorem Source.notices_readInto (source : Source) (shared : Option BufferId) (target : Buffer)
    (offset length : Int) : (source.readInto store shared target offset length).notices = [] := by
  cases source with
  | memory content position =>
      simp only [readInto]
      split
      · rfl
      · split <;> rfl
  | stream input => exact Input.notices_fill store input shared _ _ _ _

end Notices

namespace Transfer

theorem notices_moveBlocks (transfer : Transfer) (left : Nat) :
    (transfer.moveBlocks left).notices = [] := by
  fun_induction Transfer.moveBlocks transfer left with
  | case1 transfer left unfinished count loaded =>
      exact Source.notices_readInto transfer.store transfer.source none _ 0 count
  | case2 transfer left unfinished count loaded accepted =>
      exact Destination.notices_deliver _ _ _
  | case3 transfer left unfinished count loaded accepted =>
      rename_i unloaded success ih
      exact ih
  | case4 => rfl

/-- A copy that fails reports nothing. -/
theorem notices_copy_of_fault {transfer : Transfer} {count : Int}
    (failed : (transfer.copy count).fault ≠ none) : (transfer.copy count).notices = [] := by
  by_cases negative : count < 0
  · rw [copy, if_pos negative]
    rfl
  · simp only [copy, if_neg negative] at failed ⊢
    split
    · exact notices_moveBlocks _ _
    · rename_i success
      simp only [success] at failed
      exact absurd rfl failed

theorem limit_moveBlocks (transfer : Transfer) (left : Nat) :
    (transfer.moveBlocks left).state.source.limit = transfer.source.limit := by
  fun_induction Transfer.moveBlocks transfer left with
  | case1 transfer left unfinished count loaded =>
      exact Source.limit_readInto transfer.store transfer.source none _ 0 count
  | case2 transfer left unfinished count loaded accepted =>
      exact Source.limit_readInto transfer.store transfer.source none _ 0 count
  | case3 transfer left unfinished count loaded accepted =>
      rename_i unloaded success ih
      exact ih.trans (Source.limit_readInto transfer.store transfer.source none _ 0 count)
  | case4 => rfl

/-- What a copy has come to when its first blocks have been moved. -/
structure Reached (start : Transfer) (index : Nat) (reached : Transfer) : Prop where
  scratch : ∃ scratch, reached.sink.scratch = some scratch ∧ scratch.length = blockSize
  delivered : (start.sink.destination.deliver start.store (Bytes.blocks blockSize
    ((start.source.upcoming start.store).take (index * blockSize)))).fault = none
  state : (reached.store, reached.sink.destination)
    = (start.sink.destination.deliver start.store (Bytes.blocks blockSize
      ((start.source.upcoming start.store).take (index * blockSize)))).state
  took : Destination.Took (start.store, start.sink.destination)
    ((start.source.upcoming start.store).take (index * blockSize))
    (reached.store, reached.sink.destination)
  advanced : Source.Advanced start.store (index * blockSize) start.source reached.source
  limit : reached.source.limit = start.source.limit
  same : reached.source.origin.bytes reached.store = reached.source.origin.bytes start.store

/-- Whole blocks are moved where the source holds them and the destination has room for them. -/
theorem moveBlocks_whole (start : Transfer) (index : Nat)
    (whole : start.sink.destination.IsWhole start.store) (block : start.sink.HasBlock)
    (avoids : start.source.origin.Avoids start.sink.destination.site.place?)
    (holds : start.source.Holds start.store (index * blockSize))
    (room : index ≠ 0 → start.sink.destination.HasRoom (index * blockSize)) :
    let moved := { start with sink := start.sink.withScratch }.moveBlocks (index * blockSize)
    moved.fault = none ∧ start.Reached index moved.state := by
  intro moved
  have underWay : IsUnderWay { start with sink := start.sink.withScratch } :=
    ⟨congrArg some block.length, holds.position_nonneg⟩
  have scratch := Option.map_eq_some_iff.mp (underWay.moveBlocks (index * blockSize)).block
  have limit : moved.state.source.limit = start.source.limit := limit_moveBlocks _ _
  rcases Nat.eq_zero_or_pos index with rfl | positive
  · have unmoved : moved = { state := { start with sink := start.sink.withScratch } } := by
      simp only [moved, Nat.zero_mul, moveBlocks_zero]
    change ∃ bytes, moved.state.sink.scratch = some bytes ∧ _ at scratch
    rw [unmoved] at scratch limit ⊢
    have nothing : (start.source.upcoming start.store).take (0 * blockSize) = [] := by
      rw [Nat.zero_mul, List.take_zero]
    refine ⟨rfl, scratch, ?_, ?_, ?_, ?_, limit, rfl⟩
    · rw [nothing]
      rfl
    · rw [nothing]
      rfl
    · rw [nothing]
      exact Destination.Took.nil whole
    · rw [Nat.zero_mul]
      exact Source.Advanced.refl start.source
  · have roomy := room (Nat.ne_of_gt positive)
    have apart : start.source.IsApart start.store start.store start.sink.destination :=
      ⟨avoids, rfl⟩
    rcases copy_of_holds start.store start.sink start.source whole block apart roomy holds with
        ⟨success, state, took, -, advanced⟩
    rcases copy_of_nonneg start (Int.natCast_nonneg (index * blockSize)) with ⟨same, outcome⟩
    rw [Int.toNat_natCast] at same outcome
    change _ = moved.state at same
    rw [outcome] at success
    rw [same] at state advanced
    have length := List.length_take_of_le holds.le_length_upcoming
    have bytes := @Bytes.flatMap_blocks blockSize (by decide)
      ((start.source.upcoming start.store).take (index * blockSize))
    rcases Destination.deliver_of_room whole (by rw [bytes, length]; exact roomy) with
        ⟨accepted, -⟩
    rw [← state] at took
    have later := apart.took took advanced.origin
    exact ⟨success, scratch, accepted, state, took, advanced, limit, later.same⟩

/-- The first block of a copy that is beyond a limit below its count. -/
theorem exists_first_block {limit : ℕ∞} {count : Nat} (short : limit < count) :
    ∃ index, index * blockSize < count ∧ (index * blockSize : Nat) ≤ limit ∧
      (∀ earlier < index, (blockEnd count earlier : ℕ∞) ≤ limit) ∧
        limit < blockEnd count index := by
  have positive : 0 < blockSize := by decide
  obtain ⟨reach, rfl⟩ := ENat.ne_top_iff_exists.mp (ne_top_of_lt short)
  have below := Nat.cast_lt.mp short
  have least : reach / blockSize * blockSize ≤ reach := Nat.div_mul_le_self reach blockSize
  have most : reach < (reach / blockSize + 1) * blockSize := by
    rw [Nat.mul_comm]
    exact Nat.lt_mul_div_succ reach positive
  refine ⟨reach / blockSize, by omega, Nat.cast_le.mpr least, fun earlier less => ?_, ?_⟩
  · have inside : (earlier + 1) * blockSize ≤ reach / blockSize * blockSize :=
      Nat.mul_le_mul_right blockSize less
    exact Nat.cast_le.mpr (Nat.le_trans (Nat.min_le_left _ _) (Nat.le_trans inside least))
  · exact Nat.cast_lt.mpr (Nat.lt_min.mpr ⟨most, below⟩)

/-- How many bytes a block of a copy has that starts before the end of the copy. -/
theorem blockEnd_eq {count index : Nat} (starts : index * blockSize < count) :
    blockEnd count index = index * blockSize + min (count - index * blockSize) blockSize := by
  unfold blockEnd
  rw [Nat.succ_mul]
  omega

section Failure

variable {start : Transfer} {count available index : Nat}
  (whole : start.sink.destination.IsWhole start.store) (block : start.sink.HasBlock)
  (avoids : start.source.origin.Avoids start.sink.destination.site.place?)
  (ends : start.source.Ends start.store available)
  (starts : index * blockSize < count) (held : index * blockSize ≤ available)
  (room : (index * blockSize : Nat) ≤ start.sink.destination.capacity)

include whole block avoids ends starts held room

/-- The blocks that are allowed are moved, and the copy goes on with the rest of its bytes. -/
theorem exists_reached :
    ∃ reached, start.Reached index reached ∧
      (start.copy count).state = (reached.moveBlocks (count - index * blockSize)).state ∧
      (start.copy count).fault = (reached.moveBlocks (count - index * blockSize)).fault := by
  have roomy : index ≠ 0 → start.sink.destination.HasRoom (index * blockSize) := by
    intro some
    have positive : 0 < index * blockSize := Nat.mul_pos (Nat.pos_of_ne_zero some) (by decide)
    exact (Destination.hasRoom_iff_le_capacity positive).mpr room
  rcases moveBlocks_whole start index whole block avoids (ends.holds.mono held) roomy with
      ⟨success, reached⟩
  have split : index * blockSize + (count - index * blockSize) = count :=
    Nat.add_sub_cancel' (Nat.le_of_lt starts)
  have later := moveBlocks_add _ (count - index * blockSize) success
  rw [split] at later
  rcases copy_of_nonneg start (Int.natCast_nonneg count) with ⟨same, outcome⟩
  rw [Int.toNat_natCast, later] at same outcome
  exact ⟨_, reached, same, outcome⟩

/-- A block that the source does not have as a whole is read as far as it goes, and not written. -/
theorem copy_of_short_read (short : available < blockEnd count index) :
    let data := (start.source.upcoming start.store).take (index * blockSize)
    let copied := start.copy count
    copied.fault
        = some (start.source.limit.shortage (start.source.position + available)
          (blockEnd count index - index * blockSize) (available - index * blockSize)) ∧
      Destination.Took (start.store, start.sink.destination) data
        (copied.state.store, copied.state.sink.destination) ∧
      copied.state.source.origin = start.source.origin ∧
      copied.state.source.position
        = start.source.position + index * blockSize
          + start.source.limit.spent (available - index * blockSize) := by
  intro data copied
  rcases exists_reached whole block avoids ends starts held room with
      ⟨⟨store, sink, source⟩, reached, state, outcome⟩
  rcases reached.scratch with ⟨scratch, buffer, size⟩
  have length := blockEnd_eq starts
  have fits : min (count - index * blockSize) blockSize ≤ (Buffer.mk scratch 0).bytes.length := by
    rw [size]
    exact Nat.min_le_right _ _
  have left := ends.advanced held reached.advanced
  have few : available - index * blockSize < min (count - index * blockSize) blockSize := by omega
  rcases Source.readInto_of_short left few fits with ⟨fault, position⟩
  rw [← Source.readInto_congr reached.same] at fault position
  rcases load_of_scratch store source buffer (min (count - index * blockSize) blockSize) with
      ⟨loaded, failed⟩
  rw [fault] at failed
  rw [moveBlocks_of_load_fault (Nat.sub_pos_of_lt starts) failed] at state outcome
  rw [loaded] at state
  have stop : source.position + (available - index * blockSize : Nat)
      = start.source.position + available := by
    rw [reached.advanced.position]
    omega
  have wanted : blockEnd count index - index * blockSize
      = min (count - index * blockSize) blockSize := by omega
  refine ⟨?_, ?_, ?_, ?_⟩
  · change (start.copy count).fault = _
    rw [outcome, failed, reached.limit, stop, wanted]
  · change Destination.Took _ _ ((start.copy count).state.store, _)
    rw [state]
    exact reached.took
  · change (start.copy count).state.source.origin = _
    rw [state]
    exact (Source.origin_readInto _ _ _ _).trans reached.advanced.origin
  · change (start.copy count).state.source.position = _
    rw [state]
    rw [position, reached.advanced.position, reached.limit]
    push_cast
    rfl

/-- A block for which the destination has no room is read, and not written. -/
theorem copy_of_short_room (holds : blockEnd count index ≤ available)
    (full : start.sink.destination.capacity < blockEnd count index) :
    let data := (start.source.upcoming start.store).take (index * blockSize)
    let refused := ((start.source.upcoming start.store).drop (index * blockSize)).take
      (blockEnd count index - index * blockSize)
    let copied := start.copy count
    copied.fault = some (start.sink.destination.refusal (index * blockSize) (.range refused)) ∧
      Destination.Took (start.store, start.sink.destination) data
        (copied.state.store, copied.state.sink.destination) ∧
      copied.state.source.origin = start.source.origin ∧
      copied.state.source.position = start.source.position + blockEnd count index := by
  intro data refused copied
  rcases exists_reached whole block avoids ends starts held room with
      ⟨⟨store, sink, source⟩, reached, state, outcome⟩
  rcases reached.scratch with ⟨scratch, buffer, size⟩
  have length := blockEnd_eq starts
  have wanted : blockEnd count index - index * blockSize
      = min (count - index * blockSize) blockSize := by omega
  have left := ends.advanced held reached.advanced
  have enough : min (count - index * blockSize) blockSize ≤ available - index * blockSize := by
    omega
  rcases moveBlocks_of_holds store buffer size (Nat.sub_pos_of_lt starts)
    ((left.holds.mono enough).congr reached.same) with ⟨later, advanced, -, stops⟩
  have next : (source.upcoming store).take (min (count - index * blockSize) blockSize) = refused
      := by
    have upcoming : source.upcoming store = source.upcoming start.store := by
      rw [Source.upcoming, reached.same, Source.upcoming]
    rw [upcoming, reached.advanced.upcoming ends.holds.position_nonneg, ← wanted]
  have size : refused.length = min (count - index * blockSize) blockSize := by
    rw [← next]
    exact List.length_take_of_le ((left.holds.mono enough).congr reached.same).le_length_upcoming
  have moved : data.length = index * blockSize := List.length_take_of_le (ends.ends.symm ▸ held)
  have bytes : (Bytes.blocks blockSize data).flatMap Piece.bytes = data :=
    Bytes.flatMap_blocks (by decide) data
  have roomy : Bytes.blocks blockSize data ≠ [] →
      start.sink.destination.HasRoom
        ((Bytes.blocks blockSize data).flatMap Piece.bytes).length := by
    intro some
    have positive : 0 < data.length := by
      refine List.length_pos_iff.mpr fun none => some ?_
      rw [none]
      rfl
    rw [bytes, moved]
    exact (Destination.hasRoom_iff_le_capacity (moved ▸ positive)).mpr room
  have tooMuch : ¬start.sink.destination.HasRoom
      (((Bytes.blocks blockSize data).flatMap Piece.bytes).length
        + (Piece.range refused).bytes.length) := by
    have total : data.length + refused.length = blockEnd count index := by omega
    have positive : 0 < min (count - index * blockSize) blockSize :=
      Nat.lt_min.mpr ⟨Nat.sub_pos_of_lt starts, by decide⟩
    rw [bytes]
    change ¬start.sink.destination.HasRoom (data.length + refused.length)
    rw [total, Destination.hasRoom_iff_le_capacity (by omega)]
    exact not_le.mpr full
  rcases Destination.deliver_of_no_room whole _ _ [] roomy tooMuch with ⟨fault, took⟩
  rw [Destination.deliver_append reached.delivered, ← reached.state, bytes] at fault took
  rw [moved] at fault
  rw [next] at stops
  rcases stops _ fault with ⟨final, failed⟩
  rw [final] at state
  rw [failed] at outcome
  refine ⟨outcome, ?_, ?_, ?_⟩
  · change Destination.Took _ _ ((start.copy count).state.store, _)
    rw [state]
    exact took
  · change (start.copy count).state.source.origin = _
    rw [state]
    exact advanced.origin.trans reached.advanced.origin
  · change (start.copy count).state.source.position = _
    rw [state]
    change later.position = _
    rw [advanced.position, reached.advanced.position, length]
    push_cast
    omega

end Failure

/--
A copy of more bytes than its source has or its destination takes fails at the first block that ends
beyond one of the two. The destination has then taken the blocks before it. If the source does not
have the block, the fault is that of the source, and a stream has given all of its bytes; otherwise
it is that of the destination, and the source stands behind the block. Nothing is reported.
-/
theorem copy_fails_at_block (start : Transfer) (count available : Nat)
    (whole : start.sink.destination.IsWhole start.store) (block : start.sink.HasBlock)
    (avoids : start.source.origin.Avoids start.sink.destination.site.place?)
    (ends : start.source.Ends start.store available)
    (short : min start.sink.destination.capacity available < count) :
    ∃ index,
      (∀ earlier < index,
        (blockEnd count earlier : ℕ∞) ≤ min start.sink.destination.capacity available) ∧
      min start.sink.destination.capacity available < blockEnd count index ∧
      index * blockSize < count ∧
      let data := (start.source.upcoming start.store).take (index * blockSize)
      let next := ((start.source.upcoming start.store).drop (index * blockSize)).take
        (blockEnd count index - index * blockSize)
      let copied := start.copy count
      data.length = index * blockSize ∧
        Destination.Took (start.store, start.sink.destination) data
          (copied.state.store, copied.state.sink.destination) ∧
        copied.state.source.origin = start.source.origin ∧
        copied.notices = [] ∧
        (available < blockEnd count index →
          copied.fault
              = some (start.source.limit.shortage (start.source.position + available)
                (blockEnd count index - index * blockSize) (available - index * blockSize)) ∧
            copied.state.source.position
              = start.source.position + index * blockSize
                + start.source.limit.spent (available - index * blockSize)) ∧
        (blockEnd count index ≤ available →
          copied.fault
              = some (start.sink.destination.refusal (index * blockSize) (.range next)) ∧
            copied.state.source.position = start.source.position + blockEnd count index) := by
  rcases exists_first_block short with ⟨index, starts, least, earlier, beyond⟩
  refine ⟨index, earlier, beyond, starts, ?_⟩
  intro data next copied
  have held : index * blockSize ≤ available := Nat.cast_le.mp (le_trans least (min_le_right _ _))
  have room := le_trans least (min_le_left _ _)
  have length : data.length = index * blockSize :=
    List.length_take_of_le (ends.ends.symm ▸ held)
  refine ⟨length, ?_⟩
  rcases Nat.lt_or_ge available (blockEnd count index) with unread | holds
  · rcases copy_of_short_read whole block avoids ends starts held room unread with
        ⟨fault, took, origin, position⟩
    have failed : copied.fault ≠ none := by
      rw [fault]
      exact Option.some_ne_none _
    refine ⟨took, origin, notices_copy_of_fault failed, fun _ => ⟨fault, position⟩, ?_⟩
    exact fun holds => absurd unread (Nat.not_lt.mpr holds)
  · have full : start.sink.destination.capacity < blockEnd count index := by
      rcases min_lt_iff.mp beyond with full | unread
      · exact full
      · exact absurd (Nat.cast_lt.mp unread) (Nat.not_lt.mpr holds)
    rcases copy_of_short_room whole block avoids ends starts held room holds full with
        ⟨fault, took, origin, position⟩
    have failed : copied.fault ≠ none := by
      rw [fault]
      exact Option.some_ne_none _
    refine ⟨took, origin, notices_copy_of_fault failed, ?_, fun _ => ⟨fault, position⟩⟩
    exact fun unread => absurd unread (Nat.not_lt.mpr holds)

/-- A device that takes 20000 bytes gets one block of 40000 bytes, two of which have been read. -/
theorem copy_fails_at_block_second :
    let start : Transfer :=
      ⟨{},
        { policy := .replace
          destination := .stream
            { name := [], device := .writer { budget := some 20000, refusal := .regionFull } } },
        .stream (.reader { data := .own (List.replicate 40000 7) })⟩
    let copied := start.copy (40000 : Nat)
    copied.fault = some .regionFull ∧ copied.state.sink.destination.count = 16384 ∧
      copied.state.source.position = 32768 ∧ copied.notices = [] := by
  intro start
  have ready : Reader.IsReady 40000 { data := .own (List.replicate 40000 7) } :=
    ⟨by simp, by simp [Reply.Gives], by simp⟩
  have size : (start.source.upcoming start.store).length = 40000 := by
    simp only [start, Source.upcoming, Source.origin, Input.origin, Content.origin, Origin.bytes,
      Source.position, Input.position, Int.toNat_natCast, List.length_drop, List.length_replicate]
  have capacity : start.sink.destination.capacity = (20000 : Nat) := rfl
  have ends : start.source.Ends start.store 40000 := ⟨⟨ready, Nat.le_of_eq size.symm⟩, size⟩
  have least : min start.sink.destination.capacity (40000 : Nat) = (20000 : Nat) := by
    rw [capacity]
    exact min_eq_left (Nat.cast_le.mpr (by decide))
  have short : min start.sink.destination.capacity (40000 : Nat) < (40000 : Nat) := by
    rw [least]
    exact Nat.cast_lt.mpr (by decide)
  have moved := copy_fails_at_block start 40000 40000 rfl (fun bytes none => by cases none)
    (Origin.avoids_own _ _) ends short
  rw [least] at moved
  -- a name without a value, so that nothing evaluates the copy
  obtain ⟨copied, ran⟩ : ∃ copied, copied = start.copy (40000 : Nat) := ⟨_, rfl⟩
  rw [← ran] at moved ⊢
  rcases moved with ⟨index, earlier, beyond, starts, length, took, -, silent, -, refused⟩
  have block : blockSize = 16384 := rfl
  have after := Nat.cast_lt.mp beyond
  obtain rfl : index = 1 := by
    by_contra other
    rcases Nat.lt_or_gt_of_ne other with none | more
    · obtain rfl : index = 0 := by omega
      exact absurd after (by decide)
    · exact absurd (Nat.cast_le.mp (earlier 1 more)) (by decide)
  rcases refused (by decide) with ⟨fault, position⟩
  have count := took.count
  rw [length, block, show start.sink.destination.count = 0 from rfl] at count
  rw [show blockEnd 40000 1 = 32768 by decide, show start.source.position = 0 from rfl] at position
  exact ⟨fault, count.trans (by decide), position.trans (by decide), silent⟩

end Transfer

end IndexWire
