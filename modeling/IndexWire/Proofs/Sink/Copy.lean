import IndexWire.Proofs.Sink.Delivery
import IndexWire.Proofs.Sink.Plan
import IndexWire.Proofs.Source.Reading
import IndexWire.Sink.Basic

/-!
# Copying

A copy reads and writes by turns. Where the destination has room and the source reads nothing that
is written to, the two do not affect each other: what is read can be told beforehand, as `fetch`
does, and what is written is then one delivery. From a source that holds enough bytes, `fetch` gives
the next of them in blocks, the last of which may be shorter.
-/

namespace IndexWire

/-- A sink whose scratch buffer has the size of a block, if there has been a copy. -/
def Sink.HasBlock (sink : Sink) : Prop := ∀ bytes ∈ sink.scratch, bytes.length = blockSize

theorem Sink.HasBlock.length {sink : Sink} (block : sink.HasBlock) :
    (sink.scratch.getD (List.replicate blockSize 0)).length = blockSize := by
  cases found : sink.scratch with
  | none => exact List.length_replicate
  | some bytes => exact block bytes found

/-- What reading for a copy gives: pieces, what it leaves, and why there are no more. -/
structure Fetched where
  source : Source
  scratch : Bytes
  pieces : List Piece := []
  fault : Option Fault := none

/-- Reads `left` bytes in blocks as a copy does, up to the first block that cannot be read. -/
def Source.fetch (store : Store) (source : Source) (scratch : Bytes) (left : Nat) : Fetched :=
  if _unfinished : 0 < left then
    let count := min left blockSize
    let loaded := source.readInto store none { bytes := scratch } 0 count
    let plan := Plan.slice loaded.state.2.bytes 0 (some count)
    match loaded.fault.or plan.fault with
    | some fault =>
      { source := loaded.state.1, scratch := loaded.state.2.bytes, fault := some fault }
    | none =>
      let later := loaded.state.1.fetch store loaded.state.2.bytes (left - count)
      { later with pieces := plan.pieces ++ later.pieces }
  else { source, scratch }
termination_by left
decreasing_by
  simp only [blockSize]
  omega

/-- Bytes cut into blocks of a size, and what is left after the last whole one. -/
def Bytes.blocks (size : Nat) (data : Bytes) : List Piece :=
  let whole := (List.range (data.length / size)).map fun index =>
    Piece.range ((data.drop (index * size)).take size)
  whole ++
    if data.length % size = 0 then [] else [.range (data.drop (data.length / size * size))]

section Blocks

variable {size : Nat}

theorem Bytes.blocks_eq_cons (positive : 0 < size) {data : Bytes} (nonempty : 0 < data.length) :
    blocks size data = .range (data.take (min data.length size))
      :: blocks size (data.drop (min data.length size)) := by
  rcases Nat.lt_or_ge data.length size with short | long
  · rw [Nat.min_eq_left (Nat.le_of_lt short), List.take_length, List.drop_length]
    simp [blocks, Nat.div_eq_of_lt short, Nat.mod_eq_of_lt short, Nat.ne_of_gt nonempty]
  · have length : (data.drop size).length = data.length - size := List.length_drop
    have division : data.length / size = (data.length - size) / size + 1 :=
      Nat.div_eq_sub_div positive long
    have remainder : data.length % size = (data.length - size) % size := Nat.mod_eq_sub_mod long
    rw [Nat.min_eq_right long]
    simp only [blocks, length, ← remainder, division, List.range_succ_eq_map, List.map_cons,
      List.map_map, List.cons_append, List.drop_drop, Nat.zero_mul, List.drop_zero]
    congr 2
    · apply List.map_congr_left
      intro index mem
      simp only [Function.comp_apply]
      congr 3
      rw [Nat.succ_mul, Nat.add_comm]
    · rw [Nat.succ_mul, Nat.add_comm]

theorem Bytes.flatMap_blocks (positive : 0 < size) (data : Bytes) :
    (blocks size data).flatMap Piece.bytes = data := by
  generalize length : data.length = count
  induction count using Nat.strongRecOn generalizing data with
  | ind count ih =>
      rcases Nat.eq_zero_or_pos count with rfl | nonempty
      · rw [List.eq_nil_of_length_eq_zero length]
        simp [blocks]
      · have block : 0 < min data.length size := Nat.lt_min.mpr ⟨by omega, positive⟩
        have shorter : data.length - min data.length size < count := by omega
        rw [blocks_eq_cons positive (by omega), List.flatMap_cons,
          ih _ shorter _ List.length_drop]
        exact List.take_append_drop _ data

end Blocks

/-- A source that a destination does not write to, and that finds the same bytes in two stores. -/
structure Source.IsApart (base store : Store) (destination : Destination) (source : Source) :
    Prop where
  avoids : source.origin.Avoids destination.site.place?
  same : source.origin.bytes store = source.origin.bytes base

theorem Source.IsApart.took {base : Store} {before after : Store × Destination} {data : Bytes}
    {source changed : Source} (apart : source.IsApart base before.1 before.2)
    (took : Destination.Took before data after) (origin : changed.origin = source.origin) :
    changed.IsApart base after.1 after.2 where
  avoids := by
    rw [origin, took.site]
    exact apart.avoids
  same := by
    rw [origin, Origin.bytes_eq_of_avoids apart.avoids took.others]
    exact apart.same

namespace Transfer

theorem load_of_scratch (store : Store) {sink : Sink} (source : Source) {scratch : Bytes}
    (buffer : sink.scratch = some scratch) (count : Nat) :
    let loaded := source.readInto store none { bytes := scratch } 0 count
    ((Transfer.mk store sink source).load count).state
        = ⟨store, { sink with scratch := some loaded.state.2.bytes }, loaded.state.1⟩ ∧
      ((Transfer.mk store sink source).load count).fault = loaded.fault := by
  simp only [load, buffer, Option.getD_some, Attempt.map, and_self]

theorem unload_of_scratch (store : Store) (sink : Sink) (source : Source) (scratch : Bytes)
    (count : Nat) :
    let plan := Plan.slice scratch 0 (some count)
    let delivered := sink.destination.deliver store plan.pieces
    let unloaded := (Transfer.mk store { sink with scratch := some scratch } source).unload count
    unloaded.state
        = ⟨delivered.state.1,
            { sink with scratch := some scratch, destination := delivered.state.2 }, source⟩ ∧
      unloaded.fault = delivered.fault.or plan.fault := by
  simp only [unload, Option.getD_some, Sink.write, Sink.carryOut, Request.plan, Attempt.map,
    and_self]

/-- What holds between the blocks of a copy, whatever is read and written. -/
structure IsUnderWay (transfer : Transfer) : Prop where
  block : transfer.sink.scratch.map List.length = some blockSize
  inside : 0 ≤ transfer.source.position

theorem IsUnderWay.load {transfer : Transfer} (underWay : transfer.IsUnderWay) {count : Nat}
    (fits : count ≤ blockSize) : (transfer.load count).state.IsUnderWay := by
  rcases transfer with ⟨store, sink, source⟩
  rcases Option.map_eq_some_iff.mp underWay.block with ⟨scratch, buffer, size⟩
  have room : count ≤ (Buffer.mk scratch 0).bytes.length := by
    rw [size]
    exact fits
  rcases Source.length_readInto underWay.inside room with ⟨length, inside⟩
  rw [(load_of_scratch store source buffer count).1]
  exact ⟨congrArg some (length.trans size), inside⟩

theorem IsUnderWay.unload {transfer : Transfer} (underWay : transfer.IsUnderWay) (count : Nat) :
    (transfer.unload count).state.IsUnderWay :=
  ⟨underWay.block, underWay.inside⟩

theorem IsUnderWay.moveBlocks {transfer : Transfer} (underWay : transfer.IsUnderWay) (left : Nat) :
    (transfer.moveBlocks left).state.IsUnderWay := by
  fun_induction Transfer.moveBlocks transfer left with
  | case1 transfer left unfinished count loaded =>
      exact underWay.load (Nat.min_le_right left blockSize)
  | case2 transfer left unfinished count loaded accepted =>
      exact (underWay.load (Nat.min_le_right left blockSize)).unload count
  | case3 transfer left unfinished count loaded accepted =>
      rename_i unloaded success ih
      exact ih ((underWay.load (Nat.min_le_right left blockSize)).unload count)
  | case4 transfer left finished => exact underWay

theorem copy_of_nonneg (transfer : Transfer) {count : Int} (positive : 0 ≤ count) :
    let moved := { transfer with sink := transfer.sink.withScratch }.moveBlocks count.toNat
    (transfer.copy count).state = moved.state ∧ (transfer.copy count).fault = moved.fault := by
  simp only [copy, if_neg (Int.not_lt.mpr positive)]
  split <;> exact ⟨rfl, rfl⟩

section Keeps

variable {keeps : Store → Destination → Prop}
  (each : ∀ store destination pieces, keeps store destination →
    keeps (destination.deliver store pieces).state.1 (destination.deliver store pieces).state.2)

include each

theorem moveBlocks_keeps (transfer : Transfer) (left : Nat)
    (kept : keeps transfer.store transfer.sink.destination) :
    keeps (transfer.moveBlocks left).state.store
      (transfer.moveBlocks left).state.sink.destination := by
  fun_induction Transfer.moveBlocks transfer left with
  | case1 transfer left unfinished count loaded => exact kept
  | case2 transfer left unfinished count loaded accepted => exact each _ _ _ kept
  | case3 transfer left unfinished count loaded accepted =>
      rename_i unloaded success ih
      exact ih (each _ _ _ kept)
  | case4 transfer left finished => exact kept

/-- What every delivery keeps, every copy keeps, whatever the source and wherever it fails. -/
theorem copy_keeps (transfer : Transfer) (count : Int)
    (kept : keeps transfer.store transfer.sink.destination) :
    keeps (transfer.copy count).state.store (transfer.copy count).state.sink.destination := by
  by_cases negative : count < 0
  · rw [copy, if_pos negative]
    exact kept
  · rw [(copy_of_nonneg transfer (Int.not_lt.mp negative)).1]
    exact moveBlocks_keeps each _ _ kept

end Keeps

/-- A copy of no bytes, or of fewer, reaches neither the store nor the destination. -/
theorem copy_of_nonpos (transfer : Transfer) {count : Int} (none : count ≤ 0) :
    (transfer.copy count).state.store = transfer.store ∧
      (transfer.copy count).state.sink.destination = transfer.sink.destination := by
  by_cases negative : count < 0
  · rw [copy, if_pos negative]
    exact ⟨rfl, rfl⟩
  · obtain rfl : count = 0 := by omega
    rw [(copy_of_nonneg transfer (Int.le_refl 0)).1, moveBlocks, dif_neg (by decide)]
    exact ⟨rfl, rfl⟩

section Step

variable {transfer : Transfer} {left : Nat} {fault : Fault}

theorem moveBlocks_zero (transfer : Transfer) : transfer.moveBlocks 0 = { state := transfer } := by
  rw [moveBlocks, dif_neg (Nat.lt_irrefl 0)]

theorem moveBlocks_of_load_fault (unfinished : 0 < left)
    (failed : (transfer.load (min left blockSize)).fault = some fault) :
    transfer.moveBlocks left = transfer.load (min left blockSize) := by
  rw [moveBlocks, dif_pos unfinished]
  simp only [failed]

theorem moveBlocks_of_unload_fault (unfinished : 0 < left)
    (loaded : (transfer.load (min left blockSize)).fault = none)
    (failed : ((transfer.load (min left blockSize)).state.unload (min left blockSize)).fault
      = some fault) :
    transfer.moveBlocks left
      = (transfer.load (min left blockSize)).state.unload (min left blockSize) := by
  rw [moveBlocks, dif_pos unfinished]
  simp only [loaded, failed]

theorem moveBlocks_of_unload (unfinished : 0 < left)
    (loaded : (transfer.load (min left blockSize)).fault = none)
    (unloaded : ((transfer.load (min left blockSize)).state.unload (min left blockSize)).fault
      = none) :
    transfer.moveBlocks left
      = ((transfer.load (min left blockSize)).state.unload (min left blockSize)).state.moveBlocks
          (left - min left blockSize) := by
  rw [moveBlocks, dif_pos unfinished]
  simp only [loaded, unloaded]

end Step

section Block

variable (store : Store) {sink : Sink} (source : Source) {scratch : Bytes} {left : Nat}
  (buffer : sink.scratch = some scratch) (unfinished : 0 < left)

include buffer unfinished

/-- A copy ends at a block that cannot be read, or that is not there as a whole. -/
theorem moveBlocks_of_no_block :
    let loaded := source.readInto store none { bytes := scratch } 0 (min left blockSize : Nat)
    let plan := Plan.slice loaded.state.2.bytes 0 (some (min left blockSize : Nat))
    let copied := (Transfer.mk store sink source).moveBlocks left
    ∀ fault, loaded.fault.or plan.fault = some fault →
      copied.state = ⟨store, { sink with scratch := some loaded.state.2.bytes }, loaded.state.1⟩ ∧
        copied.fault = some fault := by
  intro loaded plan copied fault failed
  rcases load_of_scratch store source buffer (min left blockSize) with ⟨state, outcome⟩
  change _ = loaded.fault at outcome
  cases reading : loaded.fault with
  | some cause =>
      rw [reading, Option.some_or] at failed
      rw [reading, failed] at outcome
      simp only [copied, moveBlocks_of_load_fault unfinished outcome]
      exact ⟨state, outcome⟩
  | none =>
      rw [reading, Option.none_or] at failed
      have nothing : plan.pieces = [] :=
        Plan.pieces_of_slice_fault (by rw [failed]; exact Option.some_ne_none fault)
      rw [reading] at outcome
      rcases unload_of_scratch store sink loaded.state.1 loaded.state.2.bytes
        (min left blockSize) with ⟨kept, refused⟩
      change _ = Option.or _ plan.fault at refused
      rw [nothing, failed] at refused
      rw [nothing] at kept
      rw [← state] at kept refused
      simp only [copied, moveBlocks_of_unload_fault unfinished outcome refused]
      exact ⟨kept, refused⟩

/--
A block that has been read is handed over. The copy goes on from there if the block is taken, and
ends there if it is not.
-/
theorem moveBlocks_of_block :
    let loaded := source.readInto store none { bytes := scratch } 0 (min left blockSize : Nat)
    let plan := Plan.slice loaded.state.2.bytes 0 (some (min left blockSize : Nat))
    let delivered := sink.destination.deliver store plan.pieces
    let moved : Transfer :=
      ⟨delivered.state.1,
        { sink with scratch := some loaded.state.2.bytes, destination := delivered.state.2 },
        loaded.state.1⟩
    let copied := (Transfer.mk store sink source).moveBlocks left
    loaded.fault.or plan.fault = none →
      (delivered.fault = none → copied = moved.moveBlocks (left - min left blockSize)) ∧
        ∀ fault, delivered.fault = some fault → copied.state = moved ∧ copied.fault = some fault
    := by
  intro loaded plan delivered moved copied read
  rcases Option.or_eq_none_iff.mp read with ⟨reading, planned⟩
  rcases load_of_scratch store source buffer (min left blockSize) with ⟨state, outcome⟩
  change _ = loaded.fault at outcome
  rw [reading] at outcome
  rcases unload_of_scratch store sink loaded.state.1 loaded.state.2.bytes (min left blockSize) with
      ⟨kept, taken⟩
  change _ = Option.or delivered.fault plan.fault at taken
  rw [planned, Option.or_none, ← state] at taken
  rw [← state] at kept
  refine ⟨fun accepted => ?_, fun fault refused => ?_⟩
  · simp only [copied, moveBlocks_of_unload unfinished outcome (taken.trans accepted), kept]
    rfl
  · simp only [copied, moveBlocks_of_unload_fault unfinished outcome (taken.trans refused)]
    exact ⟨kept, taken.trans refused⟩

end Block

/-- A copy is a delivery of what can be read, if there is room for it. -/
theorem moveBlocks_of_room {base : Store} (store : Store) (sink : Sink) (source : Source)
    {scratch : Bytes} {left : Nat} (buffer : sink.scratch = some scratch)
    (whole : sink.destination.IsWhole store)
    (apart : source.IsApart base store sink.destination)
    (room : sink.destination.HasRoom
      ((source.fetch base scratch left).pieces.flatMap Piece.bytes).length) :
    let fetched := source.fetch base scratch left
    let delivered := sink.destination.deliver store fetched.pieces
    ((Transfer.mk store sink source).moveBlocks left).state
        = ⟨delivered.state.1,
            { sink with scratch := some fetched.scratch, destination := delivered.state.2 },
            fetched.source⟩ ∧
      ((Transfer.mk store sink source).moveBlocks left).fault = fetched.fault := by
  -- the store changes with each block that is written, while all of them are fetched from `base`
  fun_induction Source.fetch base source scratch left generalizing store sink with
  | case1 source scratch left unfinished count loaded plan =>
      rename_i fault failed
      have ended := moveBlocks_of_no_block store source buffer unfinished
      rw [Source.readInto_congr apart.same] at ended
      exact ended fault failed
  | case2 source scratch left unfinished count loaded plan accepted =>
      rename_i later ih
      rw [List.flatMap_append, List.length_append] at room
      rcases Destination.deliver_of_room whole
        (room.mono (Nat.le_add_right (plan.pieces.flatMap Piece.bytes).length _)) with
          ⟨delivered, took⟩
      have origin : loaded.state.1.origin = source.origin :=
        Source.origin_readInto source { bytes := scratch } 0 count
      have goesOn := moveBlocks_of_block store source buffer unfinished
      rw [Source.readInto_congr apart.same] at goesOn
      rw [(goesOn accepted).1 delivered]
      simp only [Destination.deliver_append delivered]
      exact ih _ _ rfl took.whole (apart.took took origin) (took.room _ room)
  | case3 source scratch left finished =>
      rw [moveBlocks, dif_neg finished]
      simp only [Destination.deliver, ← buffer]
      exact ⟨trivial, trivial⟩

end Transfer

namespace Source

variable {store : Store} {source : Source} {scratch : Bytes}

theorem readInto_scratch {count : Nat} (holds : source.Holds store count)
    (fits : count ≤ scratch.length) :
    let loaded := source.readInto store none { bytes := scratch } 0 count
    loaded.fault = none ∧
      Plan.slice loaded.state.2.bytes 0 (some count)
        = .range ((source.upcoming store).take count) ∧
      loaded.state.2.bytes.length = scratch.length ∧
      Advanced store count source loaded.state.1 := by
  rcases readInto_of_holds holds { bytes := scratch } fits with ⟨changed, read, advanced⟩
  have block : ((source.upcoming store).take count).length = count :=
    List.length_take_of_le holds.le_length_upcoming
  simp only [read]
  refine ⟨trivial, ?_, ?_, advanced⟩
  · rw [Plan.slice_of_le (by rw [List.length_append, block]; exact Nat.le_add_right _ _),
      List.take_left' block]
  · rw [List.length_append, block, List.length_drop]
    omega

/-- From a source that holds enough bytes a copy reads the next of them in blocks. -/
theorem fetch_of_holds {left : Nat} (room : blockSize ≤ scratch.length)
    (holds : source.Holds store left) :
    let fetched := source.fetch store scratch left
    fetched.pieces = Bytes.blocks blockSize ((source.upcoming store).take left) ∧
      fetched.fault = none ∧ fetched.scratch.length = scratch.length ∧
      Advanced store left source fetched.source := by
  have blockSize_pos : 0 < blockSize := by decide
  fun_induction Source.fetch store source scratch left with
  | case1 source scratch left unfinished count loaded plan =>
      rename_i fault failed
      have less : count ≤ left := Nat.min_le_left left blockSize
      obtain ⟨success, planned, length, advanced⟩ :=
        readInto_scratch (holds.mono less) (Nat.le_trans (Nat.min_le_right left blockSize) room)
      have clear : loaded.fault.or plan.fault = none := by
        rw [show loaded.fault = none from success, show plan = _ from planned]
        rfl
      rw [clear] at failed
      exact absurd failed.symm (Option.some_ne_none fault)
  | case2 source scratch left unfinished count loaded plan accepted =>
      rename_i later ih
      have less : count ≤ left := Nat.min_le_left left blockSize
      obtain ⟨success, planned, length, advanced⟩ :=
        readInto_scratch (holds.mono less) (Nat.le_trans (Nat.min_le_right left blockSize) room)
      have split : count + (left - count) = left := Nat.add_sub_cancel' less
      rcases ih (by rw [length]; exact room) (advanced.holds _ (by rw [split]; exact holds)) with
          ⟨pieces, complete, same, further⟩
      have enough : ((source.upcoming store).take left).length = left :=
        List.length_take_of_le holds.le_length_upcoming
      refine ⟨?_, complete, same.trans length, split ▸ advanced.trans further⟩
      have nonempty : (source.upcoming store).take count ≠ [] := by
        apply List.ne_nil_of_length_pos
        rw [List.length_take_of_le (holds.mono less).le_length_upcoming]
        exact Nat.lt_min.mpr ⟨unfinished, blockSize_pos⟩
      have first : plan.pieces = [.range ((source.upcoming store).take count)] := by
        rw [show plan = _ from planned, Plan.pieces_range nonempty]
      rw [Bytes.blocks_eq_cons blockSize_pos (by rw [enough]; exact unfinished), enough]
      change plan.pieces ++ later.pieces
        = .range (List.take count _) :: Bytes.blocks _ (List.drop count _)
      rw [first, show later.pieces = _ from pieces, advanced.upcoming holds.position_nonneg,
        List.take_take, Nat.min_eq_left less, List.drop_take]
      rfl
  | case3 source scratch left finished =>
      obtain rfl : left = 0 := Nat.eq_zero_of_not_pos finished
      refine ⟨?_, rfl, rfl, Advanced.refl source⟩
      simp [Bytes.blocks]

end Source

namespace Transfer

theorem plan_byte (policy : SurrogatePolicy) (byte : UInt8) :
    (Request.byte byte.toNat).plan policy = { pieces := [.byte byte] } := by
  have small : byte.toNat < 2 ^ 8 := byte.toNat_lt
  simp only [Request.plan, Word.unsigned_of_lt small, UInt8.ofNat_toNat]

/-- One byte after another, a source that holds enough bytes is moved to a destination. -/
theorem moveBytes_of_holds {base : Store} (store : Store) (sink : Sink) (source : Source)
    {count : Nat} (whole : sink.destination.IsWhole store)
    (apart : source.IsApart base store sink.destination)
    (room : sink.destination.HasRoom count) (holds : source.Holds base count) :
    let moved := (Transfer.mk store sink source).moveBytes count
    moved.fault = none ∧
      Destination.Took (store, sink.destination) ((source.upcoming base).take count)
        (moved.state.store, moved.state.sink.destination) ∧
      Source.Advanced base count source moved.state.source := by
  induction count generalizing store sink source with
  | zero =>
      refine ⟨rfl, ?_, Source.Advanced.refl source⟩
      rw [List.take_zero]
      exact Destination.Took.nil whole
  | succ count ih =>
      have one : 1 ≤ count + 1 := Nat.le_add_left 1 count
      rcases Source.readInto_of_holds (holds.mono one) { bytes := [0] } (Nat.le_refl 1) with
          ⟨changed, read, advanced⟩
      rw [← Source.readInto_congr apart.same] at read
      obtain ⟨byte, later, next⟩ : ∃ byte later, source.upcoming base = byte :: later := by
        cases next : source.upcoming base with
        | nil => exact absurd holds.le_length_upcoming (by simp [next])
        | cons byte later => exact ⟨byte, later, rfl⟩
      have rest := advanced.upcoming holds.position_nonneg
      rw [next] at read rest ⊢
      simp only [List.take_succ_cons, List.take_zero, List.drop_succ_cons, List.drop_zero,
        List.append_nil] at read rest
      have takes : sink.destination.HasRoom ([Piece.byte byte].flatMap Piece.bytes).length :=
        room.mono one
      rcases Destination.deliver_of_room whole takes with ⟨accepted, took⟩
      rcases ih (sink.destination.deliver store [.byte byte]).state.1
          { sink with destination := (sink.destination.deliver store [.byte byte]).state.2 } changed
          took.whole (apart.took took advanced.origin)
          (took.room count (by rw [Nat.add_comm]; exact room))
          (advanced.holds count (by rw [Nat.add_comm]; exact holds)) with ⟨success, further, final⟩
      have step : (Transfer.mk store sink source).moveBytes (count + 1)
          = (Transfer.mk (sink.destination.deliver store [.byte byte]).state.1
              { sink with destination := (sink.destination.deliver store [.byte byte]).state.2 }
              changed).moveBytes count := by
        rw [moveBytes]
        simp only [show (1 : Int) = (1 : Nat) from rfl, read, List.headD_cons, Sink.write,
          plan_byte, Sink.carryOut, accepted, Option.none_or]
      rw [step]
      rw [rest] at further
      have total := advanced.trans final
      rw [Nat.add_comm] at total
      exact ⟨success, took.trans further, total⟩

/-- A copy without a negative count is a delivery of what can be read, if there is room for it. -/
theorem copy_of_room {base : Store} (store : Store) (sink : Sink) (source : Source) {count : Int}
    (positive : 0 ≤ count) (whole : sink.destination.IsWhole store)
    (apart : source.IsApart base store sink.destination)
    {scratch : Bytes} (buffer : sink.scratch.getD (List.replicate blockSize 0) = scratch)
    (room : sink.destination.HasRoom
      ((source.fetch base scratch count.toNat).pieces.flatMap Piece.bytes).length) :
    let fetched := source.fetch base scratch count.toNat
    let delivered := sink.destination.deliver store fetched.pieces
    let copied := (Transfer.mk store sink source).copy count
    copied.state
        = ⟨delivered.state.1,
            { sink with scratch := some fetched.scratch, destination := delivered.state.2 },
            fetched.source⟩ ∧
      copied.fault = fetched.fault := by
  intro fetched delivered copied
  have moved := moveBlocks_of_room store sink.withScratch source
    (congrArg some buffer) whole apart room
  have outside := copy_of_nonneg ⟨store, sink, source⟩ positive
  rw [outside.1, outside.2]
  exact moved

/-- A copy from a source that holds enough bytes is a delivery of them in blocks. -/
theorem copy_of_holds {base : Store} (store : Store) (sink : Sink) (source : Source) {count : Nat}
    (whole : sink.destination.IsWhole store)
    (block : sink.HasBlock)
    (apart : source.IsApart base store sink.destination)
    (room : sink.destination.HasRoom count) (holds : source.Holds base count) :
    let data := (source.upcoming base).take count
    let delivered := sink.destination.deliver store (Bytes.blocks blockSize data)
    let copied := (Transfer.mk store sink source).copy count
    copied.fault = none ∧
      (copied.state.store, copied.state.sink.destination) = delivered.state ∧
      Destination.Took (store, sink.destination) data delivered.state ∧
      copied.state.sink.HasBlock ∧
      Source.Advanced base count source copied.state.source := by
  intro data delivered copied
  have size := block.length
  have length : data.length = count := List.length_take_of_le holds.le_length_upcoming
  rcases Source.fetch_of_holds (Nat.le_of_eq size.symm) holds with
      ⟨pieces, complete, kept, advanced⟩
  have bytes : (Bytes.blocks blockSize data).flatMap Piece.bytes = data :=
    Bytes.flatMap_blocks (by decide) data
  have roomy : sink.destination.HasRoom
      ((Bytes.blocks blockSize data).flatMap Piece.bytes).length := by
    rw [bytes, length]
    exact room
  rcases Destination.deliver_of_room whole roomy with ⟨accepted, took⟩
  rw [bytes] at took
  rcases copy_of_room store sink source (Int.natCast_nonneg count) whole apart
    rfl (by rw [Int.toNat_natCast, pieces]; exact roomy) with ⟨state, outcome⟩
  rw [Int.toNat_natCast] at state outcome
  rw [pieces] at state
  change copied.state = _ at state
  change copied.fault = _ at outcome
  rw [outcome, state]
  refine ⟨complete, rfl, took, ?_, advanced⟩
  rintro bytes ⟨⟩
  exact kept.trans size

section Block

variable {sink : Sink} {source later : Source} {scratch block : Bytes} {left : Nat}

/--
A block that has been read is handed over. The copy goes on from there if the block is taken, and
ends there if it is not.
-/
theorem moveBlocks_of_read (store : Store) (buffer : sink.scratch = some scratch)
    (unfinished : 0 < left) (whole : block.length = min left blockSize)
    (read : source.readInto store none { bytes := scratch } 0 (min left blockSize : Nat)
      = { state := (later, { bytes := block ++ scratch.drop (min left blockSize) }) }) :
    let delivered := sink.destination.deliver store [.range block]
    let moved : Transfer :=
      ⟨delivered.state.1,
        { sink with
          scratch := some (block ++ scratch.drop (min left blockSize))
          destination := delivered.state.2 }, later⟩
    (delivered.fault = none →
      (Transfer.mk store sink source).moveBlocks left
        = moved.moveBlocks (left - min left blockSize)) ∧
    ∀ fault, delivered.fault = some fault →
      ((Transfer.mk store sink source).moveBlocks left).state = moved ∧
        ((Transfer.mk store sink source).moveBlocks left).fault = some fault := by
  have positive : 0 < min left blockSize := Nat.lt_min.mpr ⟨unfinished, by decide⟩
  have planned : Plan.slice (block ++ scratch.drop (min left blockSize)) 0
      (some (min left blockSize : Nat)) = .range block := by
    rw [Plan.slice_of_le (by rw [List.length_append, whole]; exact Nat.le_add_right _ _),
      List.take_left' whole]
  have nonempty : block ≠ [] := List.ne_nil_of_length_pos (by rw [whole]; exact positive)
  have handed := moveBlocks_of_block store source buffer unfinished
  rw [read] at handed
  simp only [planned, Plan.pieces_range nonempty, Plan.fault_range, Option.or_none] at handed
  exact handed trivial

/--
From a source that holds enough bytes a copy reads the next block and hands it over. It goes on from
there if the block is taken, and ends there if it is not.
-/
theorem moveBlocks_of_holds (store : Store) (buffer : sink.scratch = some scratch)
    (size : scratch.length = blockSize) (unfinished : 0 < left)
    (holds : source.Holds store (min left blockSize)) :
    let block := (source.upcoming store).take (min left blockSize)
    let delivered := sink.destination.deliver store [.range block]
    ∃ later, source.Advanced store (min left blockSize) later ∧
      let moved : Transfer :=
        ⟨delivered.state.1,
          { sink with
            scratch := some (block ++ scratch.drop (min left blockSize))
            destination := delivered.state.2 }, later⟩
      (delivered.fault = none →
        (Transfer.mk store sink source).moveBlocks left
          = moved.moveBlocks (left - min left blockSize)) ∧
      ∀ fault, delivered.fault = some fault →
        ((Transfer.mk store sink source).moveBlocks left).state = moved ∧
          ((Transfer.mk store sink source).moveBlocks left).fault = some fault := by
  intro block delivered
  have fits : min left blockSize ≤ scratch.length := by
    rw [size]
    exact Nat.min_le_right left blockSize
  rcases Source.readInto_of_holds holds { bytes := scratch } fits with ⟨later, read, advanced⟩
  have whole : block.length = min left blockSize :=
    List.length_take_of_le holds.le_length_upcoming
  exact ⟨later, advanced, moveBlocks_of_read store buffer unfinished whole read⟩

end Block

/-- A copy does not fail where the source holds enough bytes and the destination takes them. -/
theorem moveBlocks_of_takes (store : Store) {sink : Sink} {source : Source} {scratch : Bytes}
    {left : Nat} (buffer : sink.scratch = some scratch) (size : scratch.length = blockSize)
    (takes : sink.destination.Takes store left) (holds : source.Holds store left) :
    ((Transfer.mk store sink source).moveBlocks left).fault = none := by
  induction left using Nat.strongRecOn generalizing store sink source scratch with
  | ind left ih =>
      rcases Nat.eq_zero_or_pos left with rfl | unfinished
      · simp [moveBlocks]
      · have less : min left blockSize ≤ left := Nat.min_le_left left blockSize
        have split : min left blockSize + (left - min left blockSize) = left :=
          Nat.add_sub_cancel' less
        have block := List.length_take_of_le (holds.mono less).le_length_upcoming
        rcases moveBlocks_of_holds store buffer size unfinished (holds.mono less) with
            ⟨later, advanced, goesOn, -⟩
        generalize (source.upcoming store).take (min left blockSize) = data at block goesOn
        have bytes : ([Piece.range data].flatMap Piece.bytes).length = min left blockSize := by
          simpa [Piece.bytes] using block
        rw [goesOn (takes _ (by rw [bytes]; exact less))]
        refine ih _ ?_ _ rfl ?_ ?_ ?_
        · have positive : 0 < min left blockSize := Nat.lt_min.mpr ⟨unfinished, by decide⟩
          exact Nat.sub_lt unfinished positive
        · rw [List.length_append, List.length_drop, block]
          have most := Nat.min_le_right left blockSize
          omega
        · exact Destination.Takes.deliver (by rw [bytes, split]; exact takes)
        · have rest := advanced.holds _ (by rw [split]; exact holds)
          exact rest.of_grown fun place => Destination.length_le_deliver _ _ place

/-- A copy of a sink that has the room fails only for a negative count, and then does nothing. -/
theorem copy_of_takes (store : Store) {sink : Sink} {source : Source} {count : Int}
    (block : sink.HasBlock) (takes : sink.destination.Takes store count.toNat)
    (holds : source.Holds store count.toNat) :
    (((Transfer.mk store sink source).copy count).fault ≠ none ↔ count < 0) ∧
      (count < 0 → ((Transfer.mk store sink source).copy count).state = ⟨store, sink, source⟩) := by
  by_cases negative : count < 0
  · simp [copy, negative, Attempt.failed]
  · have moved :=
      @moveBlocks_of_takes store sink.withScratch source _ _ rfl block.length takes holds
    have outcome := (copy_of_nonneg ⟨store, sink, source⟩ (Int.not_lt.mp negative)).2
    refine ⟨?_, fun less => absurd less negative⟩
    rw [outcome]
    exact ⟨fun failed => absurd moved failed, fun less => absurd less negative⟩

/-- Whole blocks that are moved without a fault can be moved before the rest. -/
theorem moveBlocks_add (transfer : Transfer) {blocks : Nat} (rest : Nat)
    (moved : (transfer.moveBlocks (blocks * blockSize)).fault = none) :
    transfer.moveBlocks (blocks * blockSize + rest)
      = (transfer.moveBlocks (blocks * blockSize)).state.moveBlocks rest := by
  induction blocks generalizing transfer with
  | zero => rw [Nat.zero_mul, Nat.zero_add, moveBlocks_zero]
  | succ blocks ih =>
      have positive : 0 < blockSize := by decide
      have left : (blocks + 1) * blockSize = blocks * blockSize + blockSize := Nat.succ_mul _ _
      have first : min ((blocks + 1) * blockSize) blockSize = blockSize := by omega
      have same : min ((blocks + 1) * blockSize + rest) blockSize = blockSize := by omega
      have less : (blocks + 1) * blockSize - blockSize = blocks * blockSize := by omega
      have further : (blocks + 1) * blockSize + rest - blockSize = blocks * blockSize + rest := by
        omega
      have some : 0 < (blocks + 1) * blockSize := by omega
      have more : 0 < (blocks + 1) * blockSize + rest := by omega
      cases loaded : (transfer.load blockSize).fault with
      | some fault =>
          rw [moveBlocks_of_load_fault some (by rw [first]; exact loaded), first, loaded] at moved
          cases moved
      | none =>
          cases unloaded : ((transfer.load blockSize).state.unload blockSize).fault with
          | some fault =>
              rw [moveBlocks_of_unload_fault some (by rw [first]; exact loaded)
                (by rw [first]; exact unloaded), first, unloaded] at moved
              cases moved
          | none =>
              have short := moveBlocks_of_unload some (by rw [first]; exact loaded)
                (by rw [first]; exact unloaded)
              have long := moveBlocks_of_unload more (by rw [same]; exact loaded)
                (by rw [same]; exact unloaded)
              rw [first, less] at short
              rw [same, further] at long
              rw [short] at moved ⊢
              rw [long]
              exact ih _ moved

section Steady

variable {keeps : Store → Destination → Prop} {origin : Origin} {base : Bytes}
  (each : ∀ store destination pieces, keeps store destination →
    keeps (destination.deliver store pieces).state.1 (destination.deliver store pieces).state.2)
  (steady : ∀ store destination, keeps store destination → base <+: origin.bytes store)

include each steady

/--
Where the deliveries leave the bytes that are read as they are, a copy moves them, also if it reads
what it writes to.
-/
theorem moveBlocks_of_steady {store : Store} {sink : Sink} {source : Source} {scratch : Bytes}
    {left : Nat} (buffer : sink.scratch = some scratch) (size : scratch.length = blockSize)
    (kept : keeps store sink.destination) (same : source.origin = origin)
    (whole : sink.destination.IsWhole store) (room : sink.destination.HasRoom left)
    (holds : source.Holds store left) (inside : source.position + left ≤ base.length) :
    let moved := (Transfer.mk store sink source).moveBlocks left
    moved.fault = none ∧
      Destination.Took (store, sink.destination) ((base.drop source.position.toNat).take left)
        (moved.state.store, moved.state.sink.destination) ∧
      moved.state.source.origin = origin ∧
      moved.state.source.position = source.position + left := by
  induction left using Nat.strongRecOn generalizing store sink source scratch with
  | ind left ih =>
      rcases Nat.eq_zero_or_pos left with rfl | unfinished
      · rw [moveBlocks_zero, List.take_zero]
        exact ⟨rfl, Destination.Took.nil whole, same, (Int.add_zero _).symm⟩
      · have less : min left blockSize ≤ left := Nat.min_le_left left blockSize
        have split : min left blockSize + (left - min left blockSize) = left :=
          Nat.add_sub_cancel' less
        have nonneg := holds.position_nonneg
        have block := List.length_take_of_le (holds.mono less).le_length_upcoming
        have read : (source.upcoming store).take (min left blockSize)
            = (base.drop source.position.toNat).take (min left blockSize) := by
          rcases steady store sink.destination kept with ⟨later, bytes⟩
          rw [Source.upcoming, same, ← bytes, List.drop_append_of_le_length (by omega),
            List.take_append_of_le_length (by rw [List.length_drop]; omega)]
        rcases moveBlocks_of_holds store buffer size unfinished (holds.mono less) with
            ⟨later, advanced, goesOn, -⟩
        rw [read] at block goesOn
        have total : (base.drop source.position.toNat).take left
            = (base.drop source.position.toNat).take (min left blockSize)
              ++ (base.drop (source.position.toNat + min left blockSize)).take
                (left - min left blockSize) := by
          rw [← List.drop_drop, ← List.take_add, split]
        generalize (base.drop source.position.toNat).take (min left blockSize) = data
          at block goesOn total
        have bytes : [Piece.range data].flatMap Piece.bytes = data := by simp [Piece.bytes]
        rcases Destination.deliver_of_room whole (by rw [bytes, block]; exact room.mono less) with
            ⟨accepted, took⟩
        rw [bytes] at took
        have rest := advanced.holds _ (by rw [split]; exact holds)
        have further := advanced.position
        have start : later.position.toNat = source.position.toNat + min left blockSize := by
          omega
        rw [goesOn accepted]
        have less : left - min left blockSize < left :=
          Nat.sub_lt unfinished (Nat.lt_min.mpr ⟨unfinished, by decide⟩)
        have length : (data ++ scratch.drop (min left blockSize)).length = blockSize := by
          rw [List.length_append, List.length_drop, block, size,
            Nat.add_sub_cancel' (Nat.min_le_right left blockSize)]
        rcases @ih (left - min left blockSize) less _
          { sink with
            scratch := some (data ++ scratch.drop (min left blockSize))
            destination := (sink.destination.deliver store [.range data]).state.2 }
          later _ rfl length (each _ _ _ kept) (advanced.origin.trans same) took.whole
          (took.room _ (by rw [block, split]; exact room))
          (rest.of_grown fun place => Destination.length_le_deliver _ _ place)
          (by rw [further]; omega) with ⟨success, more, final, position⟩
        rw [start] at more
        rw [total]
        exact ⟨success, took.trans more, final, by rw [position, further]; omega⟩

end Steady

/-- An attempt that has moved bytes: the destination took them, and the source is behind them. -/
structure Moved (start : Transfer) (data : Bytes) (attempt : Attempt Transfer) : Prop where
  success : attempt.fault = none
  took : Destination.Took (start.store, start.sink.destination) data
    (attempt.state.store, attempt.state.sink.destination)
  origin : attempt.state.source.origin = start.source.origin
  position : attempt.state.source.position = start.source.position + data.length

/--
A copy does what moving one byte after another does. It hands over blocks of 16384 bytes and then
what is left, and two copies do what one of the sum of their counts does.
-/
theorem copy_moves_as_bytes (start : Transfer) (count : Nat)
    (whole : start.sink.destination.IsWhole start.store)
    (block : start.sink.HasBlock)
    (avoids : start.source.origin.Avoids start.sink.destination.site.place?)
    (room : start.sink.destination.HasRoom count)
    (holds : start.source.Holds start.store count) :
    let data := (start.source.upcoming start.store).take count
    data.length = count ∧
      start.Moved data (start.copy count) ∧
      start.Moved data (start.moveBytes count) ∧
      ((start.copy count).state.store, (start.copy count).state.sink.destination)
        = (start.sink.destination.deliver start.store (Bytes.blocks blockSize data)).state ∧
      ∀ first second : Nat, first + second = count →
        (start.copy first).fault = none ∧
          start.Moved data ((start.copy first).state.copy second) := by
  intro data
  have length : data.length = count := List.length_take_of_le holds.le_length_upcoming
  rcases start with ⟨store, sink, source⟩
  have apart : source.IsApart store store sink.destination := ⟨avoids, rfl⟩
  refine ⟨length, ?_, ?_, ?_, ?_⟩
  · rcases copy_of_holds store sink source whole block apart room holds with
        ⟨success, state, took, -, advanced⟩
    rw [← state] at took
    exact ⟨success, took, advanced.origin, length.symm ▸ advanced.position⟩
  · rcases moveBytes_of_holds store sink source whole apart room holds with
        ⟨success, took, advanced⟩
    exact ⟨success, took, advanced.origin, length.symm ▸ advanced.position⟩
  · exact (copy_of_holds store sink source whole block apart room holds).2.1
  · intro first second sum
    have less : first ≤ count := by omega
    rcases copy_of_holds store sink source whole block apart (room.mono less) (holds.mono less) with
        ⟨success, state, took, kept, advanced⟩
    rw [← state] at took
    have one : ((source.upcoming store).take first).length = first :=
      List.length_take_of_le (holds.mono less).le_length_upcoming
    rcases copy_of_holds _ _ _ took.whole kept
        (apart.took took advanced.origin)
        (took.room second (by rw [one, sum]; exact room))
        (advanced.holds second (by rw [sum]; exact holds)) with
        ⟨completed, final, later, -, further⟩
    rw [← final] at later
    have both := took.trans later
    have final := advanced.trans further
    rw [advanced.upcoming holds.position_nonneg, ← List.take_add, sum] at both
    refine ⟨success, completed, both, final.origin, ?_⟩
    rw [final.position, sum, length]

/-- A stream that gives one byte and then what it is asked for, copied into a window. -/
theorem copy_moves_as_bytes_window :
    let start : Transfer :=
      ⟨{ buffers := [{ bytes := [0, 0, 0, 0] }] },
        { policy := .strict, destination := .region ⟨0, 1, 4, 1⟩ },
        .stream (.reader { data := .own [5, 6, 7, 8], replies := [.give (some 1)] })⟩
    start.Moved [5, 6, 7] (start.copy 3) ∧ start.Moved [5, 6, 7] (start.moveBytes 3) := by
  intro start
  have whole : start.sink.destination.IsWhole start.store :=
    ⟨by decide, by decide, by decide, by decide⟩
  have ready : Reader.IsReady 3 { data := .own [5, 6, 7, 8], replies := [.give (some 1)] } :=
    ⟨by simp [Reply.Gives], by simp [Reply.Gives], by simp⟩
  have moved := copy_moves_as_bytes start 3 whole (fun bytes none => by cases none)
    (Origin.avoids_own _ _)
    (show 1 + 3 ≤ 4 by decide) ⟨ready, show 3 ≤ 4 by decide⟩
  exact ⟨moved.2.1, moved.2.2.1⟩

end Transfer

end IndexWire
