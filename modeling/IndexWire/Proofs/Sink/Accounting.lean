import IndexWire.Proofs.Sink.Copy

/-!
# Streams to a device

A stream counts the bytes of each write that its device does not refuse, and does not ask how many
of them the device keeps. The count and what is kept are two tallies of the same writes: `asks`
tells which writes come of portions that are handed over in order, and `Accounts` how both tallies
follow from them.
-/

namespace IndexWire

/-- A write that a stream asks of its device. -/
structure Ask where
  bytes : Bytes
  /-- Why the device refused the bytes, if it did. -/
  refusal : Option Fault

namespace Ask

/-- The portions that were not refused. -/
def taken (asks : List Ask) : List Bytes :=
  (asks.filter fun ask => ask.refusal.isNone).map Ask.bytes

/-- The fault of the first portion that was refused. -/
def fault? (asks : List Ask) : Option Fault := asks.findSome? Ask.refusal

theorem taken_append (first second : List Ask) :
    taken (first ++ second) = taken first ++ taken second := by
  simp only [taken, List.filter_append, List.map_append]

end Ask

namespace Writer

/-- What a device keeps of bytes that it does not refuse. -/
def part (device : Writer) (bytes : Bytes) : Bytes := bytes.take (device.limit.getD bytes.length)

/-- Whether a device keeps all of each portion that it does not refuse. -/
def Fits (device : Writer) (portions : List Bytes) : Prop :=
  ∀ limit ∈ device.limit, ∀ bytes ∈ portions, bytes.length ≤ limit

theorem length_part_le (device : Writer) (bytes : Bytes) :
    (device.part bytes).length ≤ bytes.length := List.length_take_le' _ _

theorem flatMap_part_of_fits {device : Writer} {portions : List Bytes}
    (fits : device.Fits portions) : portions.flatMap device.part = portions.flatten := by
  have whole : ∀ bytes ∈ portions, device.part bytes = bytes := by
    intro bytes mem
    unfold part
    cases limited : device.limit with
    | none => exact List.take_length
    | some limit => exact List.take_of_length_le (fits limit limited bytes mem)
  rw [List.flatMap_def, List.map_congr_left whole, List.map_id']

theorem length_flatMap_part_le (device : Writer) (portions : List Bytes) :
    (portions.flatMap device.part).length ≤ (portions.map List.length).sum := by
  induction portions with
  | nil => exact Nat.le_refl 0
  | cons bytes rest ih =>
      rw [List.flatMap_cons, List.length_append, List.map_cons, List.sum_cons]
      exact Nat.add_le_add (device.length_part_le bytes) ih

theorem fits_of_length {device : Writer} {portions : List Bytes}
    (length : (portions.flatMap device.part).length = (portions.map List.length).sum) :
    device.Fits portions := by
  induction portions with
  | nil => exact fun limit limited bytes mem => absurd mem List.not_mem_nil
  | cons bytes rest ih =>
      rw [List.flatMap_cons, List.length_append, List.map_cons, List.sum_cons] at length
      have front := device.length_part_le bytes
      have back := device.length_flatMap_part_le rest
      intro limit limited
      rw [List.forall_mem_cons]
      refine ⟨?_, ih (by omega) limit limited⟩
      have whole : (device.part bytes).length = bytes.length := by omega
      rw [part, Option.mem_def.mp limited, Option.getD_some, List.length_take] at whole
      omega

/-- The writes of portions in order, up to the first that is refused. -/
def asks (device : Writer) : List Bytes → List Ask
  | [] => []
  | bytes :: rest =>
    let attempt := device.write bytes
    match attempt.fault with
    | some fault => [⟨bytes, some fault⟩]
    | none => ⟨bytes, none⟩ :: attempt.state.asks rest

/-- A device that is open notes each write, and what it refuses changes nothing else. -/
theorem write_of_fault {device : Writer} {bytes : Bytes} {fault : Fault}
    (refused : (device.write bytes).fault = some fault) :
    (device.write bytes).state
      = if device.isClosed then device
        else { device with asked := bytes.length :: device.asked } := by
  unfold write at refused ⊢
  split
  · rfl
  · rename_i opened
    rw [if_neg opened] at refused
    simp only at refused ⊢
    split
    · rfl
    · rename_i within
      rw [if_neg within] at refused
      cases refused

theorem write_of_taken {device : Writer} {bytes : Bytes}
    (accepted : (device.write bytes).fault = none) :
    device.isClosed = false ∧
      (device.write bytes).state
        = { device with
            taken := (device.part bytes).reverse ++ device.taken
            asked := bytes.length :: device.asked } := by
  unfold write at accepted ⊢
  split at accepted
  · cases accepted
  · rename_i opened
    rw [if_neg opened]
    simp only at accepted ⊢
    split at accepted
    · cases accepted
    · rename_i within
      rw [if_neg within]
      exact ⟨Bool.not_eq_true _ ▸ opened, rfl⟩

/-- A device that neither took bytes nor noted a write. -/
structure Spared (before after : Writer) : Prop where
  taken : after.taken = before.taken
  asked : after.asked = before.asked
  limit : after.limit = before.limit

theorem Spared.refl (device : Writer) : device.Spared device := ⟨rfl, rfl, rfl⟩

theorem spared_flush (device : Writer) :
    device.Spared device.flush.state ∧ device.flush.state.isClosed = device.isClosed := by
  unfold flush
  split <;> exact ⟨⟨rfl, rfl, rfl⟩, rfl⟩

theorem asks_of_closed {device : Writer} (closed : device.isClosed = true) {portions : List Bytes}
    (nonempty : portions ≠ []) : Ask.fault? (device.asks portions) = some .closed := by
  cases portions with
  | nil => exact absurd rfl nonempty
  | cons bytes rest => simp [asks, write, closed, Attempt.failed, Ask.fault?]

end Writer

/-- How the count of a stream and its device come of writes. -/
structure Accounts (before : Nat × Writer) (asks : List Ask) (after : Nat × Writer) : Prop where
  count : after.1 = before.1 + ((Ask.taken asks).map List.length).sum
  kept : after.2.kept = before.2.kept ++ (Ask.taken asks).flatMap before.2.part
  limit : after.2.limit = before.2.limit

namespace Accounts

variable {before middle after : Nat × Writer} {first second : List Ask}

theorem of_spared (count : Nat) {device changed : Writer} (spared : device.Spared changed) :
    Accounts (count, device) [] (count, changed) where
  count := rfl
  kept := by simp [Ask.taken, Writer.kept, spared.taken]
  limit := spared.limit

theorem trans (one : Accounts before first middle) (two : Accounts middle second after) :
    Accounts before (first ++ second) after where
  count := by
    rw [two.count, one.count, Ask.taken_append, List.map_append, List.sum_append, Nat.add_assoc]
  kept := by
    have same : middle.2.part = before.2.part := by
      funext bytes
      rw [Writer.part, one.limit, Writer.part]
    rw [two.kept, one.kept, same, Ask.taken_append, List.flatMap_append, List.append_assoc]
  limit := two.limit.trans one.limit

end Accounts

/-- What a call that hands portions to a device makes of the count and the device. -/
structure Handled (before : Nat × Writer) (portions : List Bytes) (after : Nat × Writer) : Prop
    where
  accounts : Accounts before (before.2.asks portions) after
  isClosed : after.2.isClosed = before.2.isClosed
  /-- An open device has noted just the writes that are accounted for. -/
  noted : before.2.isClosed = false →
    after.2.writes = before.2.writes ++ (before.2.asks portions).map fun ask => ask.bytes.length
  untouched : portions = [] ∨ before.2.isClosed = true → after = before

namespace Handled

variable {count : Nat} {device : Writer} {bytes : Bytes} {rest : List Bytes}

theorem nil (before : Nat × Writer) : Handled before [] before where
  accounts := .of_spared before.1 (.refl before.2)
  isClosed := rfl
  noted _ := (List.append_nil _).symm
  untouched _ := rfl

theorem refused {fault : Fault} (refused : (device.write bytes).fault = some fault) :
    Handled (count, device) (bytes :: rest) (count, (device.write bytes).state) := by
  have state := Writer.write_of_fault refused
  have asks : device.asks (bytes :: rest) = [⟨bytes, some fault⟩] := by
    simp only [Writer.asks, refused]
  have accounts {changed : Writer} (taken : changed.taken = device.taken)
      (limit : changed.limit = device.limit) :
      Accounts (count, device) (device.asks (bytes :: rest)) (count, changed) := by
    rw [asks]
    exact ⟨rfl, by simp [Ask.taken, Writer.kept, taken], limit⟩
  by_cases closed : device.isClosed = true
  · rw [if_pos closed] at state
    rw [state]
    refine ⟨accounts rfl rfl, rfl, fun opened => ?_, fun _ => rfl⟩
    cases closed.symm.trans opened
  · rw [if_neg closed] at state
    rw [state]
    refine ⟨accounts rfl rfl, rfl, fun _ => ?_, fun untouched => ?_⟩
    · rw [asks]
      exact List.reverse_cons
    · exact absurd (untouched.resolve_left (List.cons_ne_nil bytes rest)) closed

theorem taken {after : Nat × Writer} (accepted : (device.write bytes).fault = none)
    (later : Handled (count + bytes.length, (device.write bytes).state) rest after) :
    Handled (count, device) (bytes :: rest) after := by
  rcases Writer.write_of_taken accepted with ⟨opened, state⟩
  have asks : device.asks (bytes :: rest)
      = [⟨bytes, none⟩] ++ (device.write bytes).state.asks rest := by
    simp only [Writer.asks, accepted, List.singleton_append]
  have one : Accounts (count, device) [⟨bytes, none⟩]
      (count + bytes.length, (device.write bytes).state) := by
    rw [state]
    refine ⟨?_, ?_, rfl⟩
    · simp [Ask.taken]
    · simp [Ask.taken, Writer.kept]
  have noted : (device.write bytes).state.writes = device.writes ++ [bytes.length] := by
    rw [state]
    exact List.reverse_cons
  have same : (device.write bytes).state.isClosed = device.isClosed := by rw [state]
  refine ⟨?_, later.isClosed.trans same, fun _ => ?_, fun untouched => ?_⟩
  · rw [asks]
    exact one.trans later.accounts
  · rw [later.noted (same.trans opened), noted, asks, List.map_append, List.append_assoc]
    rfl
  · cases opened.symm.trans (untouched.resolve_left (List.cons_ne_nil bytes rest))

end Handled

namespace Destination

/-- A stream hands the pieces to its device, and counts those that are taken. -/
theorem deliver_stream (store : Store) (name : Text) (count : Nat) (device : Writer)
    (pieces : List Piece) :
    let delivered := (Destination.stream ⟨name, count, .writer device⟩).deliver store pieces
    let portions := pieces.map Piece.bytes
    ∃ total after, delivered.state = (store, .stream ⟨name, total, .writer after⟩) ∧
      delivered.fault = Ask.fault? (device.asks portions) ∧
      Handled (count, device) portions (total, after) := by
  induction pieces generalizing count device with
  | nil => exact ⟨count, device, rfl, rfl, .nil _⟩
  | cons piece rest ih =>
      cases answer : (device.write piece.bytes).fault with
      | some fault =>
          refine ⟨count, (device.write piece.bytes).state, ?_, ?_, .refused answer⟩
          · simp only [deliver, put, Stream.put, Device.write, Attempt.map, answer, Attempt.failed]
          · simp only [deliver, put, Stream.put, Device.write, Attempt.map, answer, Attempt.failed,
              List.map_cons, Writer.asks, Ask.fault?, List.findSome?_cons]
      | none =>
          rcases ih (count + piece.bytes.length) (device.write piece.bytes).state with
              ⟨total, after, state, fault, handled⟩
          refine ⟨total, after, ?_, ?_, .taken answer handled⟩
          · simp only [deliver, put, Stream.put, Device.write, Attempt.map, answer]
            exact state
          · simp only [deliver, put, Stream.put, Device.write, Attempt.map, answer, List.map_cons,
              Writer.asks, Ask.fault?, List.findSome?_cons]
            exact fault

theorem deliver_append_of_fault {store : Store} {destination : Destination} {first : List Piece}
    {fault : Fault} (refused : (destination.deliver store first).fault = some fault)
    (second : List Piece) :
    destination.deliver store (first ++ second) = destination.deliver store first := by
  induction first generalizing store destination with
  | nil => cases refused
  | cons piece rest ih =>
      cases answer : (destination.put store piece).fault with
      | some cause => simp only [List.cons_append, deliver, answer]
      | none =>
          simp only [List.cons_append, deliver, answer] at refused ⊢
          exact ih refused

end Destination

namespace Source

/-- What a copy would write, and how it would end, if all of it were taken. -/
def copyPlan (store : Store) (source : Source) (scratch : Option Bytes) (count : Int) : Plan :=
  if count < 0 then .refused (.negativeCount count)
  else
    let fetched := source.fetch store (scratch.getD (List.replicate blockSize 0)) count.toNat
    ⟨fetched.pieces, fetched.fault⟩

theorem isFilled_copyPlan (store : Store) (source : Source) (scratch : Option Bytes)
    (count : Int) : (source.copyPlan store scratch count).IsFilled := by
  have fetched (bytes : Bytes) (left : Nat) :
      ∀ piece ∈ (source.fetch store bytes left).pieces, piece.bytes ≠ [] := by
    fun_induction Source.fetch store source bytes left with
    | case1 | case3 => exact fun piece mem => absurd mem List.not_mem_nil
    | case2 source bytes left unfinished count loaded plan accepted later ih =>
        intro piece mem
        rcases List.mem_append.mp mem with here | further
        · exact (Request.built_plan .strict (.bytes _ 0 (some count))).isFilled piece here
        · exact ih piece further
  unfold copyPlan
  split
  · exact (Plan.Built.refused (Or.inl rfl)).isFilled
  · exact fetched _ _

end Source

namespace Transfer

/--
To a destination that leaves the store alone, a copy is a delivery of what can be read, up to the
first block that is not taken.
-/
theorem moveBlocks_aside (store : Store) (sink : Sink) (source : Source) {scratch : Bytes}
    {left : Nat} (buffer : sink.scratch = some scratch)
    (aside : ∀ pieces, (sink.destination.deliver store pieces).state.1 = store) :
    let fetched := source.fetch store scratch left
    let delivered := sink.destination.deliver store fetched.pieces
    let moved := (Transfer.mk store sink source).moveBlocks left
    moved.fault = delivered.fault.or fetched.fault ∧
      ∃ changed after, moved.state
        = ⟨store, { sink with scratch := changed, destination := delivered.state.2 }, after⟩ := by
  fun_induction Source.fetch store source scratch left generalizing sink with
  | case1 source scratch left unfinished count loaded plan =>
      rename_i fault failed
      rcases moveBlocks_of_no_block store source buffer unfinished fault failed with
          ⟨state, outcome⟩
      exact ⟨outcome, _, _, state⟩
  | case2 source scratch left unfinished count loaded plan accepted =>
      rename_i later ih
      rcases moveBlocks_of_block store source buffer unfinished accepted with ⟨goesOn, ends⟩
      have here := aside plan.pieces
      cases answer : (sink.destination.deliver store plan.pieces).fault with
      | some fault =>
          rcases ends fault answer with ⟨state, outcome⟩
          rw [aside (Plan.slice _ _ _).pieces] at state
          simp only [Destination.deliver_append_of_fault answer, answer, Option.some_or]
          exact ⟨outcome, _, _, state⟩
      | none =>
          have after (pieces : List Piece) :
              (((sink.destination.deliver store plan.pieces).state.2).deliver store pieces).state.1
                = store := by
            have both := aside (plan.pieces ++ pieces)
            rwa [Destination.deliver_append answer, here] at both
          rw [goesOn answer, aside (Plan.slice _ _ _).pieces]
          simp only [Destination.deliver_append answer, here]
          exact ih { sink with
            scratch := some loaded.state.2.bytes
            destination := (sink.destination.deliver store plan.pieces).state.2 } rfl after
  | case3 source scratch left finished =>
      rw [moveBlocks, dif_neg finished]
      exact ⟨rfl, sink.scratch, source, rfl⟩

theorem copy_aside (store : Store) (sink : Sink) (source : Source) (count : Int)
    (aside : ∀ pieces, (sink.destination.deliver store pieces).state.1 = store) :
    let plan := source.copyPlan store sink.scratch count
    let delivered := sink.destination.deliver store plan.pieces
    let copied := (Transfer.mk store sink source).copy count
    copied.fault = delivered.fault.or plan.fault ∧
      ∃ changed after, copied.state
        = ⟨store, { sink with scratch := changed, destination := delivered.state.2 }, after⟩ := by
  by_cases negative : count < 0
  · simp only [copy, Source.copyPlan, if_pos negative]
    exact ⟨rfl, sink.scratch, source, rfl⟩
  · rcases copy_of_nonneg ⟨store, sink, source⟩ (Int.not_lt.mp negative) with ⟨state, outcome⟩
    simp only [state, outcome, Source.copyPlan, if_neg negative]
    exact moveBlocks_aside store sink.withScratch source rfl aside

end Transfer

end IndexWire
