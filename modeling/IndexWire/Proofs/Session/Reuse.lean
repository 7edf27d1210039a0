import IndexWire.Proofs.Session.Reassembly
import IndexWire.Proofs.Session.Settings

/-!
# Using a sink in memory again

A sink in memory whose cursor has been moved to its start keeps its buffer, and its copies go
through a scratch buffer that still has the bytes of earlier copies. Neither is ever seen: what a
call puts into memory, and how it ends, depends on neither, and so the sink goes on as a new one
would.

The proof is a lockstep simulation, in which `Twins` relates the session with the sink that is used
again to the one with a new sink. No source may have gone back to a position before its bytes, as a
read of a negative length makes it: from there a copy puts what the scratch buffer had before.
-/

namespace IndexWire

/-! ## What is put into memory -/

namespace Source

/-- A read for a block puts a chunk over the front of its target, whatever the target has. -/
theorem readInto_front {source : Source} (store : Store) (inside : 0 ≤ source.position)
    {count size : Nat} (fits : count ≤ size) :
    ∃ (chunk : Bytes) (after : Source) (fault : Option Fault),
      (fault = none → chunk.length = count) ∧ chunk.length ≤ count ∧ 0 ≤ after.position ∧
      ∀ target : Bytes, target.length = size →
        source.readInto store none { bytes := target } 0 count
          = { state := (after, { bytes := chunk ++ target.drop chunk.length }), fault } := by
  cases source with
  | memory content position =>
      by_cases short : (count : Int) > remaining store content position
      · refine ⟨[], memory content position,
          some (.tooFewLeft count (remaining store content position)), ?_, Nat.zero_le count,
          inside, ?_⟩
        · intro succeeded
          cases succeeded
        · intro target length
          simp only [readInto, if_pos short]
          rfl
      · have holds : (memory content position).Holds store count := by
          refine ⟨inside, ?_⟩
          unfold remaining at short
          omega
        have whole : (((memory content position).upcoming store).take count).length = count :=
          List.length_take_of_le holds.le_length_upcoming
        refine ⟨_, memory content (position + count), none, fun _ => whole, Nat.le_of_eq whole,
          Int.add_nonneg inside (Int.natCast_nonneg count), ?_⟩
        intro target length
        rw [readInto_memory_of_holds holds { bytes := target } (by rw [length]; exact fits), whole]
  | stream input =>
      have sees (first : Memory) (given chunk : Bytes) :
          ((none : Option BufferId).elim store fun id =>
            store.refresh id (first.put (given ++ chunk)).buffer) = store := rfl
      rcases Input.fill_answers (sees {}) input [] count 0 with
          ⟨asked, chunks, stop, after, answers, -⟩
      rcases answers.length_flatten with ⟨within, complete⟩
      rw [Nat.sub_zero] at within complete
      refine ⟨chunks.flatten, stream after, Input.shortfall chunks.flatten.length count stop, ?_,
        within, Int.natCast_nonneg _, ?_⟩
      · rw [← complete]
        rcases stop with _ | _ | _ <;> simp [Input.shortfall]
      · intro target length
        rcases Input.fill_answers (sees (.ofBytes target 0)) input [] count 0 with
            ⟨_, _, _, _, again, filling⟩
        rcases answers.unique again with ⟨rfl, rfl, rfl, rfl⟩
        have first : Bytes.clip target.length 0 = 0 := Bytes.clip_of_le (Nat.zero_le _)
        have last : Bytes.clip target.length (0 + count) = count := by
          rw [Int.zero_add]
          exact Bytes.clip_of_le (by rw [length]; exact fits)
        simp only [Memory.put_nil, Nat.sub_zero, Nat.zero_add, List.nil_append] at filling
        simp only [readInto, first, last, Nat.sub_zero, Int.toNat_natCast, filling, Attempt.map]
        simp [Memory.buffer, Memory.value, Memory.put, Memory.ofBytes]

/-- A byte that is read from before the bytes is no byte, and takes the first one of the target. -/
theorem readInto_back (store : Store) {content : Content} (nonempty : content.bytes store ≠ [])
    (first : UInt8) (rest : Bytes) :
    (memory content (-1)).readInto store none { bytes := first :: rest } 0 (1 : Nat)
      = { state := (memory content 0, { bytes := rest }) } := by
  have some := List.length_pos_iff.mpr nonempty
  have left : ¬((1 : Nat) : Int) > remaining store content (-1) := by
    simp only [remaining]
    omega
  have nothing : (content.bytes store).slice (-1) (-1 + (1 : Nat)) = [] := by
    simp [Bytes.slice, Bytes.clip]
  have gone :
      (Buffer.mk (first :: rest) 0).splice 0 (0 + (1 : Nat)) [] = .ok { bytes := rest } := by
    have stop : Bytes.clip (rest.length + 1) (0 + (1 : Nat)) = 1 := by
      rw [Int.zero_add]
      exact Bytes.clip_of_le (Nat.le_add_left 1 _)
    have start : Bytes.clip (rest.length + 1) 0 = 0 := Bytes.clip_of_le (Nat.zero_le _)
    simp only [Buffer.splice, Bytes.splice, List.length_cons, stop, start]
    simp
  simp only [readInto, if_neg left, nothing, gone]
  rfl

end Source

theorem Sink.write_memory (store : Store) (policy : SurrogatePolicy) (scratch : Option Bytes)
    (memory : Memory) (request : Request) :
    (Sink.mk policy scratch (.memory memory)).write store request
      = { state :=
            (store,
              ⟨policy, scratch, .memory (memory.put (request.plan policy).bytes)⟩)
          fault := (request.plan policy).fault } := by
  simp only [Sink.write, Sink.carryOut, Destination.deliver_memory, Option.none_or, Plan.bytes]

/-- Whether a scratch buffer, if there is one, has the size of a block. -/
def IsBlock (scratch : Option Bytes) : Prop := ∀ bytes ∈ scratch, bytes.length = blockSize

theorem isBlock_none : IsBlock none := by
  intro bytes made
  cases made

namespace Transfer

variable (store : Store) (policy : SurrogatePolicy)

section Block

variable {store} {source next : Source} {scratch changed : Bytes} {count : Nat}

theorem load_memory (memory : Memory) {fault : Option Fault}
    (read : source.readInto store none { bytes := scratch } 0 count
      = { state := (next, { bytes := changed }), fault }) :
    (Transfer.mk store ⟨policy, some scratch, .memory memory⟩ source).load count
      = { state := ⟨store, ⟨policy, some changed, .memory memory⟩, next⟩, fault } := by
  simp only [load, Option.getD_some, read, Attempt.map]

variable (store)

theorem unload_memory (source : Source) (memory : Memory) (inside : count ≤ scratch.length) :
    (Transfer.mk store ⟨policy, some scratch, .memory memory⟩ source).unload count
      = { state :=
            ⟨store, ⟨policy, some scratch, .memory (memory.put (scratch.take count))⟩,
              source⟩ } := by
  simp only [unload, Option.getD_some, Sink.write_memory, Request.plan, Plan.slice_of_le inside,
    Plan.bytes_range, Plan.fault_range, Attempt.map]

/-- A copy of no more bytes than a block has is a single read and a single write. -/
theorem copy_block (memory : Memory) {store : Store} {scratch : Option Bytes} (positive : 0 < count)
    (fits : count ≤ blockSize)
    (read :
      source.readInto store none { bytes := scratch.getD (List.replicate blockSize 0) } 0 count
        = { state := (next, { bytes := changed }) })
    (inside : count ≤ changed.length) :
    (Transfer.mk store ⟨policy, scratch, .memory memory⟩ source).copy count
      = { state := ⟨store, ⟨policy, some changed, .memory (memory.put (changed.take count))⟩, next⟩
          notices := [copyNotice count] } := by
  have nonneg : ¬(count : Int) < 0 := by omega
  have loaded := load_memory policy memory read
  have unloaded := unload_memory store policy next memory inside
  have block := Nat.min_eq_left fits
  rw [← block] at loaded unloaded
  have moved := moveBlocks_of_unload positive (congrArg Attempt.fault loaded)
    (by rw [loaded, unloaded])
  rw [loaded, unloaded, block, Nat.sub_self, moveBlocks_zero] at moved
  simp only [copy, if_neg nonneg, Sink.withScratch, Int.toNat_natCast, moved]
  rfl

end Block

/-- The blocks of a copy are the same whatever the scratch buffer and the memory have before. -/
theorem moveBlocks_memory {source : Source} (inside : 0 ≤ source.position) (left : Nat) :
    ∃ (data : Bytes) (after : Source) (fault : Option Fault), 0 ≤ after.position ∧
      ∀ (scratch : Bytes) (memory : Memory), scratch.length = blockSize →
        ∃ changed : Bytes, changed.length = blockSize ∧
          (Transfer.mk store ⟨policy, some scratch, .memory memory⟩ source).moveBlocks left
            = { state := ⟨store, ⟨policy, some changed, .memory (memory.put data)⟩, after⟩
                fault } := by
  -- by what is left: a block is not empty, and so less is left after it
  induction left using Nat.strongRecOn generalizing source with
  | ind left ih =>
      rcases Nat.eq_zero_or_pos left with rfl | unfinished
      · refine ⟨[], source, none, inside, fun scratch memory block => ⟨scratch, block, ?_⟩⟩
        rw [moveBlocks_zero, Memory.put_nil]
      · have fits : min left blockSize ≤ blockSize := Nat.min_le_right left blockSize
        rcases Source.readInto_front store inside fits with
            ⟨chunk, next, fault, whole, within, further, read⟩
        have kept (scratch : Bytes) (block : scratch.length = blockSize) :
            (chunk ++ scratch.drop chunk.length).length = blockSize := by
          rw [List.length_append, List.length_drop]
          omega
        cases fault with
        | some fault =>
            refine ⟨[], next, some fault, further, fun scratch memory block =>
              ⟨_, kept scratch block, ?_⟩⟩
            have loaded := load_memory policy memory (read scratch block)
            rw [moveBlocks_of_load_fault unfinished (congrArg Attempt.fault loaded), loaded,
              Memory.put_nil]
        | none =>
            have full := whole rfl
            rcases ih (left - min left blockSize) (by simp only [blockSize]; omega) further with
                ⟨data, last, fault, later, moved⟩
            refine ⟨chunk ++ data, last, fault, later, fun scratch memory block => ?_⟩
            rcases moved _ (memory.put chunk) (kept scratch block) with ⟨changed, size, rest⟩
            refine ⟨changed, size, ?_⟩
            have loaded := load_memory policy memory (read scratch block)
            have unloaded := unload_memory store policy next memory
              (Nat.le_trans fits (Nat.le_of_eq (kept scratch block).symm))
            have front : (chunk ++ scratch.drop chunk.length).take (min left blockSize) = chunk :=
              List.take_left' full
            rw [front] at unloaded
            rw [moveBlocks_of_unload unfinished (congrArg Attempt.fault loaded)
              (by rw [loaded, unloaded]), loaded, unloaded, rest, Memory.put_put]

/-- So is the whole of a copy. -/
theorem copy_memory {source : Source} (inside : 0 ≤ source.position) (count : Int) :
    ∃ (data : Bytes) (after : Source) (fault : Option Fault) (notices : List Notice),
      0 ≤ after.position ∧
      ∀ (scratch : Option Bytes) (memory : Memory), IsBlock scratch →
        ∃ changed : Option Bytes, IsBlock changed ∧
          (Transfer.mk store ⟨policy, scratch, .memory memory⟩ source).copy count
            = { state := ⟨store, ⟨policy, changed, .memory (memory.put data)⟩, after⟩
                fault, notices } := by
  by_cases negative : count < 0
  · refine ⟨[], source, some (.negativeCount count), [], inside, fun scratch memory block =>
      ⟨scratch, block, ?_⟩⟩
    simp only [copy, if_pos negative, Memory.put_nil]
    rfl
  · rcases moveBlocks_memory store policy inside count.toNat with
        ⟨data, after, fault, further, moved⟩
    refine ⟨data, after, fault, if fault = none then [copyNotice count.toNat] else [], further,
      fun scratch memory block => ?_⟩
    have size : (scratch.getD (List.replicate blockSize 0)).length = blockSize := by
      cases scratch with
      | none => exact List.length_replicate
      | some bytes => exact block bytes rfl
    rcases moved _ memory size with ⟨changed, length, ran⟩
    refine ⟨some changed, fun bytes found => ?_, ?_⟩
    · cases found
      exact length
    · simp only [copy, if_neg negative, Sink.withScratch, ran]
      cases fault <;> rfl

end Transfer

/-! ## Sources that have not gone back -/

theorem Source.position_readInto {source : Source} (inside : 0 ≤ source.position) (store : Store)
    (shared : Option BufferId) (target : Buffer) (offset : Int) {length : Int}
    (nonneg : 0 ≤ length) :
    0 ≤ (source.readInto store shared target offset length).state.1.position := by
  cases source with
  | memory content position =>
      simp only [readInto]
      split
      · exact inside
      · split
        · exact Int.add_nonneg inside nonneg
        · exact inside
  | stream input => exact Int.natCast_nonneg _

theorem Transfer.position_moveBlocks {transfer : Transfer} (inside : 0 ≤ transfer.source.position)
    (left : Nat) : 0 ≤ (transfer.moveBlocks left).state.source.position := by
  have load (transfer : Transfer) (inside : 0 ≤ transfer.source.position) (count : Nat) :
      0 ≤ (transfer.load count).state.source.position :=
    Source.position_readInto inside _ _ _ _ (Int.natCast_nonneg count)
  fun_induction Transfer.moveBlocks transfer left with
  | case1 transfer left unfinished count loaded => exact load transfer inside count
  | case2 transfer left unfinished count loaded accepted => exact load transfer inside count
  | case3 transfer left unfinished count loaded accepted =>
      rename_i unloaded success ih
      exact ih (load transfer inside count)
  | case4 transfer left finished => exact inside

theorem Transfer.position_copy {transfer : Transfer} (inside : 0 ≤ transfer.source.position)
    (count : Int) : 0 ≤ (transfer.copy count).state.source.position := by
  by_cases negative : count < 0
  · rw [copy, if_pos negative]
    exact inside
  · rw [(copy_of_nonneg transfer (Int.not_lt.mp negative)).1]
    exact @position_moveBlocks { transfer with sink := transfer.sink.withScratch } inside _

/-! ## Sessions with a sink that is used again -/

/-- Two sinks in memory with the same policy and the same bytes before the cursor. -/
inductive Sink.Twins : Sink → Sink → Prop
  | intro (policy : SurrogatePolicy) {one two : Option Bytes} {first second : Memory}
      (blockOne : IsBlock one) (blockTwo : IsBlock two) (value : second.value = first.value) :
      Twins ⟨policy, one, .memory first⟩ ⟨policy, two, .memory second⟩

/-- Copies to such sinks differ in no more than the sinks. -/
theorem Sink.Twins.copy {first second : Sink} (sinks : first.Twins second) (store : Store)
    {source : Source} (inside : 0 ≤ source.position) (count : Int) :
    ∃ (one two : Sink) (after : Source) (fault : Option Fault) (notices : List Notice),
      one.Twins two ∧ 0 ≤ after.position ∧
        (Transfer.mk store first source).copy count
          = { state := ⟨store, one, after⟩, fault, notices } ∧
        (Transfer.mk store second source).copy count
          = { state := ⟨store, two, after⟩, fault, notices } := by
  rcases sinks with ⟨policy, blockOne, blockTwo, value⟩
  rename_i scratchOne scratchTwo memoryOne memoryTwo
  rcases Transfer.copy_memory store policy inside count with
      ⟨data, after, fault, notices, further, copied⟩
  rcases copied scratchOne memoryOne blockOne with ⟨changedOne, sizeOne, copyOne⟩
  rcases copied scratchTwo memoryTwo blockTwo with ⟨changedTwo, sizeTwo, copyTwo⟩
  refine ⟨_, _, after, fault, notices, .intro policy sizeOne sizeTwo ?_, further, copyOne, copyTwo⟩
  rw [Memory.value_put, Memory.value_put, value]

namespace Session

/-- A step about the surroundings neither sees the objects nor changes them. -/
theorem step_around {step : Step} (around : step.isAround = true) (session : Session)
    (objects : List (Text × Object)) :
    ({ session with objects } : Session).step step
      = ⟨{ (session.step step).session with objects }, (session.step step).outcome,
          (session.step step).notices⟩ := by
  cases step with
  | setVariable name value =>
      simp only [step]
      split <;> rfl
  | writeFile path content =>
      simp only [step, writeFile]
      split
      · rfl
      · split <;> rfl
  | resetSettings => rfl
  | getSettings path =>
      simp only [step, askSettings, answerSettings]
      split <;> rfl
  | loadSettings path =>
      simp only [step, answerSettings]
      split <;> rfl
  | makeSettings entries =>
      simp only [step, answerSettings]
      split <;> rfl
  | assignSetting field value =>
      simp only [step, assignSetting, askSettings]
      split <;> rfl
  | _ => cases around

/-- Whether no source of a session has gone back to before its bytes. -/
def SourcesInside (session : Session) : Prop :=
  ∀ name source, session.object? name = some (.source source) → 0 ≤ source.position

theorem SourcesInside.setObject {session : Session} (inside : session.SourcesInside) (name : Text)
    {object : Object} (own : ∀ source, object = .source source → 0 ≤ source.position) :
    (session.setObject name object).SourcesInside := by
  intro other source found
  by_cases same : other = name
  · rw [same, object?_setObject_self] at found
    exact own source (Option.some.inj found)
  · rw [object?_setObject_of_ne same] at found
    exact inside other source found

theorem SourcesInside.setSink {session : Session} (inside : session.SourcesInside) (name : Text)
    (sink : Sink) : (session.setObject name (.sink sink)).SourcesInside := by
  apply inside.setObject
  intro source found
  cases found

theorem SourcesInside.drop {session : Session} (inside : session.SourcesInside) (name : Text) :
    (session.drop name).SourcesInside := by
  intro other source found
  by_cases same : other = name
  · rw [same, object?_drop_self] at found
    cases found
  · rw [object?_drop_of_ne same] at found
    exact inside other source found

/-- Two sessions that differ in what the sink of a name has behind its cursor and in its scratch. -/
structure Twins (name : Text) (one two : Session) : Prop where
  store : two.store = one.store
  environment : two.environment = one.environment
  settings : two.settings = one.settings
  others : ∀ other, other ≠ name → two.object? other = one.object? other
  own : ∃ first second, one.object? name = some (.sink first) ∧
    two.object? name = some (.sink second) ∧ first.Twins second
  inside : one.SourcesInside

/-- Two answers of such sessions to the same call. -/
structure Answer.Twins (name : Text) (one two : Answer) : Prop where
  session : one.session.Twins name two.session
  outcome : two.outcome = one.outcome
  notices : two.notices = one.notices

namespace Twins

variable {name other : Text} {one two : Session}

theorem answer (twins : one.Twins name two) (outcome : Outcome) (notices : List Notice) :
    Answer.Twins name ⟨one, outcome, notices⟩ ⟨two, outcome, notices⟩ :=
  ⟨twins, rfl, rfl⟩

theorem withStore (twins : one.Twins name two) (store : Store) :
    Twins name { one with store } { two with store } :=
  ⟨rfl, twins.environment, twins.settings, twins.others, twins.own, twins.inside⟩

theorem setObject (twins : one.Twins name two) (apart : other ≠ name) {object : Object}
    (inside : ∀ source, object = .source source → 0 ≤ source.position) :
    (one.setObject other object).Twins name (two.setObject other object) := by
  refine ⟨twins.store, twins.environment, twins.settings, ?_, ?_,
    twins.inside.setObject other inside⟩
  · intro third elsewhere
    by_cases same : third = other
    · rw [same, object?_setObject_self, object?_setObject_self]
    · rw [object?_setObject_of_ne same, object?_setObject_of_ne same]
      exact twins.others third elsewhere
  · rw [object?_setObject_of_ne (Ne.symm apart), object?_setObject_of_ne (Ne.symm apart)]
    exact twins.own

theorem setSink (twins : one.Twins name two) (apart : other ≠ name) (sink : Sink) :
    (one.setObject other (.sink sink)).Twins name (two.setObject other (.sink sink)) := by
  apply twins.setObject apart
  intro source found
  cases found

theorem setOwn (twins : one.Twins name two) {first second : Sink} (sinks : first.Twins second) :
    (one.setObject name (.sink first)).Twins name (two.setObject name (.sink second)) := by
  refine ⟨twins.store, twins.environment, twins.settings, ?_, ?_, twins.inside.setSink name first⟩
  · intro other elsewhere
    rw [object?_setObject_of_ne elsewhere, object?_setObject_of_ne elsewhere]
    exact twins.others other elsewhere
  · exact ⟨first, second, object?_setObject_self _ _ _, object?_setObject_self _ _ _, sinks⟩

/-- A call that cannot use an object sees the same in both sessions. -/
theorem seen (twins : one.Twins name two) (other : Text) :
    one.object? other = none ∧ two.object? other = none ∨
      ∃ object again, one.object? other = some object ∧ two.object? other = some again ∧
        again.kindName = object.kindName ∧ again.methods = object.methods := by
  by_cases own : other = name
  · subst own
    rcases twins.own with ⟨first, second, found, again, sinks⟩
    refine .inr ⟨.sink first, .sink second, found, again, ?_⟩
    cases sinks
    simp only [Object.kindName, Object.methods, and_self]
  · rw [twins.others other own]
    cases one.object? other with
    | none => exact .inl ⟨rfl, rfl⟩
    | some object => exact .inr ⟨object, object, rfl, rfl, rfl, rfl⟩

theorem buffer? (twins : one.Twins name two) (other : Text) :
    two.buffer? other = one.buffer? other := by
  by_cases own : other = name
  · rcases twins.own with ⟨_, _, found, again, ⟨policy, _, _, _⟩⟩
    simp only [own, Session.buffer?, found, again]
  · simp only [Session.buffer?, twins.others other own]

theorem content? (twins : one.Twins name two) (data : Data) :
    two.content? data = one.content? data := by
  cases data <;> simp only [Session.content?, twins.buffer?]

theorem withoutBytes (twins : one.Twins name two) (data : Data) (fault : String → Fault) :
    two.withoutBytes data fault = one.withoutBytes data fault := by
  have named (other : Text) (fault : String → Fault) :
      ((two.object? other).elim .noObject fun object => Outcome.failed (fault object.kindName))
        = (one.object? other).elim .noObject fun object => .failed (fault object.kindName) := by
    rcases twins.seen other with ⟨missing, absent⟩ | ⟨object, again, found, there, kind, -⟩
    · rw [missing, absent]
    · rw [found, there, Option.elim_some, Option.elim_some, kind]
  cases data with
  | own bytes => rfl
  | shared other => exact named other fault
  | view other => exact named other .noBytes

theorem lacking (twins : one.Twins name two) (other : Text) (method : String) :
    (one.lacking other method).Twins name (two.lacking other method) := by
  rcases twins.seen other with ⟨missing, absent⟩ | ⟨object, again, found, there, kind, -⟩
  · simp only [Session.lacking, missing, absent]
    exact twins.answer _ _
  · simp only [Session.lacking, found, there, kind]
    exact twins.answer _ _

theorem refused (twins : one.Twins name two) (other : Text) (method : String) (outcome : Outcome) :
    (one.refused other method outcome).Twins name (two.refused other method outcome) := by
  have same : (two.object? other).any (fun object => object.methods.contains method)
      = (one.object? other).any fun object => object.methods.contains method := by
    rcases twins.seen other with ⟨missing, absent⟩ | ⟨object, again, found, there, -, methods⟩
    · rw [missing, absent]
    · rw [found, there, Option.any_some, Option.any_some, methods]
  simp only [Session.refused, same]
  split
  · exact twins.answer outcome []
  · exact twins.lacking other method

/-! ### Calls of sinks -/

theorem write (twins : one.Twins name two) (other : Text) (request : Request) :
    (one.write other request).Twins name (two.write other request) := by
  by_cases own : other = name
  · subst own
    rcases twins.own with ⟨_, _, found, again, ⟨policy, blockOne, blockTwo, value⟩⟩
    simp only [Session.write, found, again, Sink.write_memory, twins.store]
    refine ⟨(twins.withStore one.store).setOwn (.intro policy blockOne blockTwo ?_), rfl, rfl⟩
    rw [Memory.value_put, Memory.value_put, value]
  · simp only [Session.write, twins.others other own, twins.store]
    split
    · exact ⟨(twins.withStore _).setSink own _, rfl, rfl⟩
    · exact twins.lacking other _

theorem writeBytes (twins : one.Twins name two) (other : Text) (data : Data) (offset : Int)
    (length : Option Int) :
    (one.writeBytes other data offset length).Twins name
      (two.writeBytes other data offset length) := by
  simp only [Session.writeBytes, twins.content?, twins.withoutBytes]
  split
  · exact twins.refused other _ _
  · exact twins.write other _
  · rename_i id given
    have written := (twins.withStore (one.store.pin id)).write other
      (.bytes (one.store.buffer id).bytes offset length)
    simp only [twins.store]
    refine ⟨?_, written.outcome, written.notices⟩
    rw [written.session.store]
    exact written.session.withStore _

/-- A copy to the sink puts the same bytes in both sessions, if the source has not gone back. -/
theorem copyFrom_self (twins : one.Twins name two) {source : Text} {origin : Source}
    {first second : Sink} (sinks : first.Twins second) (apart : source ≠ name)
    (inside : 0 ≤ origin.position) (count : Int) :
    (one.copyFrom name first source origin count).Twins name
      (two.copyFrom name second source origin count) := by
  rcases sinks.copy one.store inside count with
      ⟨sinkOne, sinkTwo, after, fault, notices, later, further, copyOne, copyTwo⟩
  simp only [copyFrom, twins.store, copyOne, copyTwo]
  refine ⟨((twins.withStore one.store).setOwn later).setObject apart ?_, rfl, rfl⟩
  intro changed same
  cases same
  exact further

theorem copyFrom_other (twins : one.Twins name two) {other source : Text} (own : other ≠ name)
    (apart : source ≠ name) {origin : Source} (inside : 0 ≤ origin.position) (sink : Sink)
    (count : Int) :
    (one.copyFrom other sink source origin count).Twins name
      (two.copyFrom other sink source origin count) := by
  have further := @Transfer.position_copy ⟨one.store, sink, origin⟩ inside count
  simp only [copyFrom, twins.store]
  refine ⟨((twins.withStore _).setSink own _).setObject apart ?_, rfl, rfl⟩
  intro changed same
  cases same
  exact further

/-- A copy to a sink from what is no source makes the scratch buffer at most. -/
theorem copyFromOther (twins : one.Twins name two) {other : Text} {object again : Object}
    (kind : again.kindName = object.kindName) {first second : Sink}
    (sinks : other = name ∧ first.Twins second ∨ other ≠ name ∧ first = second) (count : Int) :
    (one.copyFromOther other first object count).Twins name
      (two.copyFromOther other second again count) := by
  have inside : 0 ≤ (Source.memory (.own []) 0).position := Int.le_refl 0
  rcases sinks with ⟨rfl, sinks⟩ | ⟨own, rfl⟩
  · rcases sinks.copy one.store inside (min count 0) with
        ⟨sinkOne, sinkTwo, left, fault, notices, later, -, copyOne, copyTwo⟩
    have after := twins.setOwn later
    simp only [Session.copyFromOther, twins.store, copyOne, copyTwo, kind]
    split
    · exact after.answer _ _
    · exact after.answer _ _
  · have after := fun sink => twins.setSink own sink
    simp only [Session.copyFromOther, twins.store, kind]
    split
    · exact (after _).answer _ _
    · exact (after _).answer _ _

theorem copy (twins : one.Twins name two) (other source : Text) (count : Int) :
    (one.copy other source count).Twins name (two.copy other source count) := by
  by_cases own : other = name
  · subst own
    rcases twins.own with ⟨first, second, found, again, sinks⟩
    by_cases self : source = other
    · subst self
      have kind : (Object.sink second).kindName = (Object.sink first).kindName := by
        cases sinks
        rfl
      simp only [Session.copy, found, again]
      exact twins.copyFromOther kind (.inl ⟨rfl, sinks⟩) count
    · simp only [Session.copy, found, again, twins.others source self]
      rcases given : one.object? source with _ | id | sink | origin
      · exact twins.answer _ _
      · exact twins.copyFromOther rfl (.inl ⟨rfl, sinks⟩) count
      · exact twins.copyFromOther rfl (.inl ⟨rfl, sinks⟩) count
      · exact twins.copyFrom_self sinks self (twins.inside source origin given) count
  · have lacking := twins.lacking other "copy_bytes"
    simp only [Session.copy, twins.others other own]
    rcases found : one.object? other with _ | id | sink | origin
    · exact lacking
    · exact lacking
    · by_cases self : source = name
      · subst self
        rcases twins.own with ⟨first, second, found, again, sinks⟩
        have kind : (Object.sink second).kindName = (Object.sink first).kindName := by
          cases sinks
          rfl
        simp only [found, again]
        exact twins.copyFromOther kind (.inr ⟨own, rfl⟩) count
      · simp only [twins.others source self]
        rcases given : one.object? source with _ | id | sink | origin
        · exact twins.answer _ _
        · exact twins.copyFromOther rfl (.inr ⟨own, rfl⟩) count
        · exact twins.copyFromOther rfl (.inr ⟨own, rfl⟩) count
        · exact twins.copyFrom_other own self (twins.inside source origin given) _ count
    · exact lacking

theorem reset (twins : one.Twins name two) (other : Text) (offset : Option (Option Int)) :
    (one.reset other offset).Twins name (two.reset other offset) := by
  by_cases own : other = name
  · subst own
    rcases twins.own with ⟨_, _, found, again, ⟨policy, blockOne, blockTwo, value⟩⟩
    simp only [Session.reset, found, again]
    cases offset with
    | none => exact ⟨twins.setOwn (.intro policy blockOne blockTwo rfl), rfl, rfl⟩
    | some offset => exact twins.answer _ _
  · simp only [Session.reset, twins.others other own]
    split
    · split
      · exact (twins.setSink own _).answer _ _
      · exact twins.answer _ _
      · split
        · exact (twins.setSink own _).answer _ _
        · exact twins.answer _ _
      · exact twins.lacking other _
    · exact twins.lacking other _

theorem onStream (twins : one.Twins name two) (other : Text) (method : String)
    (call : Stream → Store → Attempt (Store × Stream)) :
    (one.onStream other method call).Twins name (two.onStream other method call) := by
  by_cases own : other = name
  · subst own
    have lacking := twins.lacking other method
    rcases twins.own with ⟨_, _, found, again, ⟨policy, blockOne, blockTwo, value⟩⟩
    simp only [Session.onStream, found, again]
    exact lacking
  · simp only [Session.onStream, twins.others other own, twins.store]
    split
    · split
      · exact ((twins.withStore _).setSink own _).answer _ _
      · exact twins.lacking other _
    · exact twins.lacking other _

/-! ### Calls of sources -/

theorem readByte (twins : one.Twins name two) (other : Text) :
    (one.readByte other).Twins name (two.readByte other) := by
  have lacking := twins.lacking other "read_byte"
  by_cases own : other = name
  · subst own
    rcases twins.own with ⟨_, _, found, again, -⟩
    simp only [Session.readByte, found, again]
    exact lacking
  · simp only [Session.readByte, twins.others other own, twins.store]
    split
    · rename_i content position found
      split
      · rename_i byte source answer
        refine (twins.setObject own ?_).answer _ _
        intro changed same
        cases same
        have inside : 0 ≤ position := twins.inside other _ found
        rw [Source.eq_of_readByte answer]
        exact Int.add_nonneg inside (by decide)
      · exact twins.answer _ _
    · exact lacking

theorem readBytes (twins : one.Twins name two) (other buffer : Text) (offset : Int) {length : Int}
    (nonneg : 0 ≤ length) :
    (one.readBytes other buffer offset length).Twins name
      (two.readBytes other buffer offset length) := by
  have lacking := twins.lacking other "read_bytes"
  by_cases own : other = name
  · subst own
    rcases twins.own with ⟨_, _, found, again, -⟩
    simp only [Session.readBytes, found, again]
    exact lacking
  · simp only [Session.readBytes, twins.others other own]
    rcases found : one.object? other with _ | id | sink | origin
    · exact lacking
    · exact lacking
    · exact lacking
    · by_cases self : buffer = name
      · subst self
        rcases twins.own with ⟨first, second, held, again, ⟨policy, _, _, _⟩⟩
        simp only [held, again]
        cases origin <;> simp only [readFault, twins.store] <;> exact twins.answer _ _
      · simp only [twins.others buffer self]
        rcases held : one.object? buffer with _ | id | sink | source
        · exact twins.answer _ _
        · have inside := twins.inside other origin found
          simp only [twins.store]
          refine ((twins.withStore _).setObject own ?_).answer _ _
          intro changed same
          cases same
          exact Source.position_readInto inside _ _ _ _ nonneg
        · simp only [readFault, twins.store]
          exact twins.answer _ _
        · simp only [readFault, twins.store]
          exact twins.answer _ _

/-! ### New objects -/

theorem drop (twins : one.Twins name two) (own : other ≠ name) :
    (one.drop other).Twins name (two.drop other) := by
  have store : (two.drop other).store = (one.drop other).store := by
    simp only [Session.drop, twins.others other own, twins.store]
  refine ⟨store, twins.environment, twins.settings, ?_, ?_, twins.inside.drop other⟩
  · intro third elsewhere
    by_cases same : third = other
    · rw [same, object?_drop_self, object?_drop_self]
    · rw [object?_drop_of_ne same, object?_drop_of_ne same]
      exact twins.others third elsewhere
  · rw [object?_drop_of_ne (Ne.symm own), object?_drop_of_ne (Ne.symm own)]
    exact twins.own

theorem setSource (twins : one.Twins name two) (own : other ≠ name) {source : Source}
    (inside : 0 ≤ source.position) :
    (one.setSource other source).Twins name (two.setSource other source) := by
  simp only [Session.setSource, twins.store]
  apply (twins.withStore _).setObject own
  intro changed same
  cases same
  exact inside

theorem newBuffer (twins : one.Twins name two) (own : other ≠ name) (data : Data) :
    (one.step (.newBuffer other data)).Twins name (two.step (.newBuffer other data)) := by
  have dropped := twins.drop own
  have bytes : (two.drop other).bytes? data = (one.drop other).bytes? data := by
    simp only [bytes?, dropped.content?, dropped.store]
  simp only [step, bytes, dropped.withoutBytes, dropped.store]
  split
  · exact dropped.answer _ _
  · refine ((dropped.withStore _).setObject own ?_).answer _ _
    intro source same
    cases same

theorem destination? (twins : one.Twins name two) (target : Target) :
    two.destination? target = one.destination? target := by
  cases target with
  | region buffer offset length =>
      by_cases own : buffer = name
      · subst own
        rcases twins.own with ⟨_, _, found, again, ⟨policy, _, _, _⟩⟩
        simp only [Session.destination?, found, again, Option.map_some]
        cases offset <;> cases length <;> rfl
      · simp only [Session.destination?, twins.others buffer own, twins.store]
  | _ => rfl

theorem choosePolicy (twins : one.Twins name two) (given : Option Value) :
    (one.choosePolicy given).1.Twins name (two.choosePolicy given).1 ∧
      (two.choosePolicy given).2 = (one.choosePolicy given).2 := by
  cases given with
  | some policy => exact ⟨twins, rfl⟩
  | none =>
      simp only [Session.choosePolicy, askSettings, twins.store, twins.environment, twins.settings]
      exact ⟨⟨rfl, rfl, rfl, twins.others, twins.own, twins.inside⟩, trivial⟩

theorem newSink (twins : one.Twins name two) (own : other ≠ name) (policy : Option Value)
    (target : Target) :
    (one.newSink other policy target).Twins name (two.newSink other policy target) := by
  have dropped := twins.drop own
  rcases dropped.choosePolicy policy with ⟨chosen, report⟩
  simp only [Session.newSink, dropped.destination?, report]
  split
  · exact dropped.answer _ _
  · split
    · exact chosen.answer _ _
    · exact chosen.answer _ _
    · exact (chosen.setSink own _).answer _ _

theorem newMemorySource (twins : one.Twins name two) (own : other ≠ name) (data : Data)
    (offset : Option Int) :
    (one.newMemorySource other data offset).Twins name (two.newMemorySource other data offset) := by
  have dropped := twins.drop own
  simp only [Session.newMemorySource, dropped.content?, dropped.withoutBytes, dropped.store]
  split
  · exact dropped.answer _ _
  · exact dropped.answer _ _
  · rename_i content start given
    split
    · exact dropped.answer _ _
    · rename_i source made
      refine (dropped.setSource own ?_).answer _ _
      simp only [Source.ofContent] at made
      split at made
      · rename_i legal
        cases made
        exact legal.1
      · cases made

theorem newStreamSource (twins : one.Twins name two) (own : other ≠ name) (data : Data)
    (reader : Reader) :
    (one.newStreamSource other data reader).Twins name
      (two.newStreamSource other data reader) := by
  have dropped := twins.drop own
  simp only [Session.newStreamSource, dropped.content?]
  split
  · exact dropped.answer _ _
  · exact (dropped.setSource own (Int.natCast_nonneg _)).answer _ _

theorem around (twins : one.Twins name two) {step : Step} (around : step.isAround = true) :
    (one.step step).Twins name (two.step step) := by
  have same : two = { one with objects := two.objects } := by
    rcases twins with ⟨store, environment, settings, -, -, -⟩
    rcases two with ⟨_, _, _, objects⟩
    cases store
    cases environment
    cases settings
    rfl
  have first := step_around around one one.objects
  have second := step_around around one two.objects
  rw [← same] at second
  have names (other : Text) : (one.step step).session.object? other = one.object? other := by
    rw [first]
    rfl
  have again (other : Text) : (two.step step).session.object? other = two.object? other := by
    rw [second]
    rfl
  refine ⟨⟨by rw [second], by rw [second], by rw [second], ?_, ?_, ?_⟩, by rw [second],
    by rw [second]⟩
  · intro other elsewhere
    rw [names, again]
    exact twins.others other elsewhere
  · rw [names, again]
    exact twins.own
  · intro other source found
    rw [names] at found
    exact twins.inside other source found

end Twins

/-- Whether a call reads a range of a negative length. -/
def Step.ReadsBack : Step → Prop
  | .readBytes _ _ _ length => length < 0
  | _ => False

/-- Both sessions answer every call alike, unless it makes another object of the name. -/
theorem Twins.step {name : Text} {one two : Session} (twins : one.Twins name two) {step : Step}
    (kept : ¬step.Makes name) (onward : ¬step.ReadsBack) :
    (one.step step).Twins name (two.step step) := by
  cases place : step.isAround with
  | true => exact twins.around place
  | false =>
      cases step with
      | newBuffer other data => exact twins.newBuffer kept data
      | newSink other policy target => exact twins.newSink kept policy target
      | newMemorySource other data offset => exact twins.newMemorySource kept data offset
      | newStreamSource other data reader => exact twins.newStreamSource kept data reader
      | write other request => exact twins.write other request
      | writeBytes other data offset length => exact twins.writeBytes other data offset length
      | copy other source count => exact twins.copy other source count
      | reset other offset => exact twins.reset other offset
      | flush other => exact twins.onStream other _ _
      | close other => exact twins.onStream other _ _
      | leave other => exact twins.onStream other _ _
      | enter other =>
          have entered := twins.onStream other "__enter__"
            fun stream store => { state := (store, stream) }
          simp only [Session.step, entered.outcome]
          split
          · exact ⟨entered.session, rfl, entered.notices⟩
          · exact entered
      | readByte other => exact twins.readByte other
      | readBytes other buffer offset length =>
          exact twins.readBytes other buffer offset (Int.not_lt.mp onward)
      | _ => cases place

theorem Twins.after {name : Text} {one two : Session} (twins : one.Twins name two)
    {steps : List Step} (kept : ∀ step ∈ steps, ¬step.Makes name)
    (onward : ∀ step ∈ steps, ¬step.ReadsBack) :
    (one.after steps).Twins name (two.after steps) := by
  induction steps generalizing one two with
  | nil => exact twins
  | cons step rest ih =>
      rw [List.forall_mem_cons] at kept onward
      exact ih (twins.step kept.1 onward.1).session kept.2 onward.2

/-- The bytes before the cursor of the sink in memory of a name. -/
def value? (session : Session) (name : Text) : Option Bytes :=
  match session.object? name with
  | some (.sink { destination := .memory memory, .. }) => some memory.value
  | _ => none

section Renewal

variable {name : Text} {session : Session} {policy : SurrogatePolicy}

theorem Twins.value? {one two : Session} (twins : one.Twins name two) :
    two.value? name = one.value? name := by
  rcases twins.own with ⟨_, _, found, again, ⟨policy, _, _, value⟩⟩
  simp only [Session.value?, found, again, value]

/-- A new sink in memory makes the session a twin of itself. -/
theorem twins_newSink (inside : session.SourcesInside) {given : Option Value}
    (made : (session.step (.newSink name given .memory)).outcome = .policy policy) :
    let built := (session.step (.newSink name given .memory)).session
    built.object? name = some (.sink ⟨policy, none, .memory {}⟩) ∧ built.Twins name built := by
  intro built
  have dropped : ((session.drop name).choosePolicy given).1.SourcesInside := by
    cases given <;> exact inside.drop name
  have chosen : built
      = ((session.drop name).choosePolicy given).1.setObject name
          (.sink ⟨policy, none, .memory {}⟩) := by
    revert made
    simp only [built, step, newSink, destination?]
    split
    · intro failed
      cases failed
    · intro failed
      cases failed
    · rename_i destination chosen same
      rintro ⟨⟩
      cases same
      rfl
  have found : built.object? name = some (.sink ⟨policy, none, .memory {}⟩) := by
    rw [chosen, object?_setObject_self]
  refine ⟨found, ⟨rfl, rfl, rfl, fun _ _ => rfl,
    ⟨_, _, found, found, .intro policy isBlock_none isBlock_none rfl⟩, ?_⟩⟩
  rw [chosen]
  exact dropped.setSink name _

/-- A session with a sink that has been reset is the twin of one in which the sink is new. -/
theorem Twins.renewed (twins : session.Twins name session)
    (held : session.policyOf? name = some policy) :
    let again := session.step (.reset name none)
    let renewed := again.session.step (.newSink name (some (.text policy.name)) .memory)
    again.outcome = .done ∧ renewed.outcome = .policy policy ∧
      renewed.session.value? name = some [] ∧ again.session.Twins name renewed.session := by
  intro again renewed
  have reset := twins.reset name none
  rcases twins.own with ⟨_, _, found, -, ⟨other, blockOne, -, value⟩⟩
  rename_i scratch _ memory _
  obtain rfl : other = policy := by
    rw [policyOf?_of_sink found] at held
    exact Option.some.inj held
  have moved : again
      = ⟨session.setObject name (.sink ⟨other, scratch, .memory memory.reset⟩), .done, []⟩ := by
    simp only [again, Session.step, Session.reset, found]
  have there :
      again.session.object? name = some (.sink ⟨other, scratch, .memory memory.reset⟩) := by
    rw [moved, object?_setObject_self]
  have made : renewed
      = ⟨(again.session.drop name).setObject name (.sink ⟨other, none, .memory {}⟩),
          .policy other, []⟩ := by
    simp only [renewed, Session.step, Session.newSink, Session.destination?, Session.choosePolicy,
      ofValue_name]
  have store : (again.session.drop name).store = again.session.store := by
    simp only [Session.drop, there]
  refine ⟨by rw [moved], by rw [made], ?_, ?_⟩ <;> rw [made]
  · simp only [Session.value?, object?_setObject_self]
    rfl
  refine ⟨store, rfl, rfl, ?_, ?_, reset.session.inside⟩
  · intro third elsewhere
    rw [object?_setObject_of_ne elsewhere, object?_drop_of_ne elsewhere]
  · exact ⟨_, _, there, object?_setObject_self _ _ _, .intro other blockOne isBlock_none rfl⟩

/-- A single byte, as a number of any size or as a range, is put into memory alike. -/
theorem write_byte_of_memory {scratch : Option Bytes} {memory : Memory}
    (found : session.object? name = some (.sink ⟨policy, scratch, .memory memory⟩)) (value : Int) :
    ∃ byte : UInt8, (byte.toNat : Int) = value % 256 ∧
      let written := session.step (.write name (.byte value))
      written = session.step (.writeBytes name (.own [byte]) 0 none) ∧ written.outcome = .done ∧
        written.session.object? name
          = some (.sink ⟨policy, scratch, .memory (memory.put [byte])⟩) := by
  have small := Word.unsigned_lt 8 value
  refine ⟨UInt8.ofNat (Word.unsigned 8 value), ?_, ?_⟩
  · rw [UInt8.toNat_ofNat_of_lt' small]
    exact Word.cast_unsigned 8 value
  · generalize bytes : UInt8.ofNat (Word.unsigned 8 value) = byte
    have single : (Request.byte value).plan policy = { pieces := [.byte byte] } := by
      simp only [Request.plan, bytes]
    have range : (Request.bytes [byte] 0 none).plan policy = { pieces := [.range [byte]] } := rfl
    intro written
    have first : written
        = ⟨session.setObject name (.sink ⟨policy, scratch, .memory (memory.put [byte])⟩), .done,
            []⟩ := by
      simp only [written, Session.step, Session.write, found, Sink.write_memory, single]
      rfl
    refine ⟨?_, by rw [first], by rw [first]; exact object?_setObject_self _ _ _⟩
    rw [first]
    simp only [Session.step, Session.writeBytes, content?, Session.write, found,
      Sink.write_memory, range]
    rfl

end Renewal

/--
A sink in memory that is reset goes on as a new one: whatever has been done before and after, it has
the bytes that a sink would have that is made when it is reset, and all further calls end alike. Its
position is their number and stays inside of the buffer. A single byte does the same to it as a
range of that byte.
-/
theorem reset_renews (start : Session) (inside : start.SourcesInside) {name : Text}
    {given : Option Value} {policy : SurrogatePolicy}
    (made : (start.step (.newSink name given .memory)).outcome = .policy policy)
    {steps : List Step} (kept : ∀ step ∈ steps, ¬step.Makes name)
    (onward : ∀ step ∈ steps, ¬step.ReadsBack) :
    let built := (start.step (.newSink name given .memory)).session
    let reached := built.after steps
    ∃ scratch memory,
      reached.object? name = some (.sink ⟨policy, scratch, .memory memory⟩) ∧
        memory.position ≤ memory.buffer.length ∧ memory.position = memory.value.length ∧
        memory.value = memory.buffer.take memory.position ∧
        (∀ before since, steps = before ++ .reset name none :: since →
          let again := (built.after before).step (.reset name none)
          let renewed := again.session.step (.newSink name (some (.text policy.name)) .memory)
          again.outcome = .done ∧ renewed.outcome = .policy policy ∧
            renewed.session.value? name = some [] ∧
            (renewed.session.after since).value? name = some memory.value ∧
            ∀ step : Step, ¬step.Makes name → ¬step.ReadsBack →
              let one := reached.step step
              let two := (renewed.session.after since).step step
              two.outcome = one.outcome ∧ two.notices = one.notices) ∧
        ∀ value : Int, ∃ byte : UInt8, (byte.toNat : Int) = value % 256 ∧
          let written := reached.step (.write name (.byte value))
          written = reached.step (.writeBytes name (.own [byte]) 0 none) ∧
            written.outcome = .done ∧
            written.session.object? name
              = some (.sink ⟨policy, scratch, .memory (memory.put [byte])⟩) := by
  intro built reached
  rcases twins_newSink inside made with ⟨there, twins⟩
  have same := policyOf?_after kept built
  rcases (twins.after kept onward).own with ⟨_, _, found, -, ⟨other, blockOne, -, value⟩⟩
  rename_i scratch _ memory _
  obtain rfl : other = policy := by
    rw [policyOf?_of_sink found, policyOf?_of_sink there] at same
    exact Option.some.inj same
  refine ⟨scratch, memory, found, ?_, memory.length_value.symm, ?_, ?_,
    write_byte_of_memory found⟩
  · rw [Memory.buffer, List.length_append, memory.length_value]
    exact Nat.le_add_right _ _
  · exact (List.take_left' memory.length_value).symm
  · rintro before since rfl again renewed
    simp only [List.forall_mem_append, List.forall_mem_cons] at kept onward
    have held : (built.after before).policyOf? name = some other := by
      rw [policyOf?_after kept.1, policyOf?_of_sink there]
    rcases (twins.after kept.1 onward.1).renewed held with ⟨done, fresh, empty, twin⟩
    have later := twin.after kept.2.2 onward.2.2
    have split : reached = again.session.after since := by
      simp only [reached, again, Session.after, List.foldl_append, List.foldl_cons]
    rw [← split] at later
    refine ⟨done, fresh, empty, ?_, ?_⟩
    · change reached.object? name = _ at found
      rw [later.value?, value?, found]
    · intro step new back
      have next := later.step new back
      exact ⟨next.outcome, next.notices⟩

/-- A sink that is reset, and one byte written to it. -/
theorem reset_renews_shorter :
    let sink := Text.ofString "sink"
    let start : Session := {}
    let steps : List Step :=
      [.write sink (.int16 258), .reset sink none, .write sink (.byte 263)]
    ((start.step (.newSink sink (some (.text (Text.ofString "strict"))) .memory)).session.after
      steps).value? sink = some [7] := by
  intro sink start steps
  have inside : start.SourcesInside := by
    intro name source found
    cases found
  have made : (start.step (.newSink sink (some (.text (Text.ofString "strict"))) .memory)).outcome
      = .policy .strict := rfl
  have kept : ∀ step ∈ steps, ¬step.Makes sink := by simp [steps, Step.Makes]
  have onward : ∀ step ∈ steps, ¬step.ReadsBack := by simp [steps, Step.ReadsBack]
  rcases reset_renews start inside made kept onward with
      ⟨scratch, memory, found, -, -, -, renews, -⟩
  rcases renews [.write sink (.int16 258)] [.write sink (.byte 263)] rfl with ⟨-, -, -, value, -⟩
  rw [value?, found]
  exact value.symm.trans (by decide +kernel)

/-- What a copy of no more bytes than a block has leaves of a session. -/
theorem step_copy_block {session : Session} {name source : Text} {policy : SurrogatePolicy}
    {scratch : Option Bytes} {memory : Memory} {origin next : Source} {changed : Bytes}
    {count : Nat}
    (found : session.object? name = some (.sink ⟨policy, scratch, .memory memory⟩))
    (given : session.object? source = some (.source origin)) (positive : 0 < count)
    (fits : count ≤ blockSize)
    (read : origin.readInto session.store none
        { bytes := scratch.getD (List.replicate blockSize 0) } 0 count
      = { state := (next, { bytes := changed }) })
    (inside : count ≤ changed.length) :
    (session.step (.copy name source count)).session
      = (session.setObject name
          (.sink ⟨policy, some changed,
            .memory (memory.put (changed.take count))⟩)).setObject source
          (.source next) := by
  simp only [step, copy, found, given, copyFrom,
    Transfer.copy_block policy memory positive fits read inside]

/--
From a source that has gone back by one, a copy of one byte puts what is second in the scratch.
-/
theorem value?_copy_back {session : Session} {name source : Text} {policy : SurrogatePolicy}
    {scratch : Option Bytes} {memory : Memory} {content : Content} {first second : UInt8}
    {rest : Bytes} (found : session.object? name = some (.sink ⟨policy, scratch, .memory memory⟩))
    (given : session.object? source = some (.source (.memory content (-1))))
    (nonempty : content.bytes session.store ≠ [])
    (block : scratch.getD (List.replicate blockSize 0) = first :: second :: rest) :
    (session.step (.copy name source 1)).session.value? name = some (memory.value ++ [second]) := by
  have different : name ≠ source := by
    rintro rfl
    cases found.symm.trans given
  have read := Source.readInto_back session.store nonempty first (second :: rest)
  rw [← block] at read
  have copied := step_copy_block found given Nat.one_pos (by decide) read (Nat.le_add_left 1 _)
  rw [Int.natCast_one] at copied
  rw [copied, value?, object?_setObject_of_ne different, object?_setObject_self]
  exact congrArg some (Memory.value_put memory [second])

/-- A byte from before the reset, after a read of a negative length and a copy of one byte. -/
theorem stale_byte_after_reset :
    let sink := Text.ofString "sink"
    let source := Text.ofString "source"
    let back := Text.ofString "back"
    let buffer := Text.ofString "buffer"
    let fresh : Step := .newSink sink (some (.text SurrogatePolicy.replace.name)) .memory
    let start := ({} : Session).after
      [fresh, .newMemorySource source (.own [7, 8]) (some 0),
        .newMemorySource back (.own [9, 9, 9]) (some 0), .newBuffer buffer (.own [0])]
    let again := start.after [.copy sink source 2, .reset sink none]
    let renewed := (again.step fresh).session
    let since : List Step := [.readBytes back buffer 0 (-1), .copy sink back 1]
    (again.after since).value? sink = some [8] ∧ (renewed.after since).value? sink = some [0] := by
  intro sink source back buffer fresh start again renewed since
  have zeros : List.replicate blockSize (0 : UInt8) = 0 :: 0 :: List.replicate 16382 0 := by rfl
  generalize List.replicate 16382 (0 : UInt8) = rest at zeros
  have made : start
      = { store := { buffers := [{ bytes := [0] }] }
          objects :=
            [(sink, .sink ⟨.replace, none, .memory {}⟩),
              (source, .source (.memory (.own [7, 8]) 0)),
              (back, .source (.memory (.own [9, 9, 9]) 0)), (buffer, .buffer 0)] } := by rfl
  have reset : again
      = { store := { buffers := [{ bytes := [0] }] }
          objects :=
            [(sink, .sink ⟨.replace, some (7 :: 8 :: rest), .memory ⟨[], [7, 8]⟩⟩),
              (source, .source (.memory (.own [7, 8]) 2)),
              (back, .source (.memory (.own [9, 9, 9]) 0)), (buffer, .buffer 0)] } := by
    have target : start.object? sink = some (.sink ⟨.replace, none, .memory {}⟩) := by
      rw [made]
      rfl
    have origin : start.object? source = some (.source (.memory (.own [7, 8]) 0)) := by
      rw [made]
      rfl
    have holds : (Source.memory (.own [7, 8]) 0).Holds start.store 2 := ⟨by decide, by decide⟩
    have read := Source.readInto_memory_of_holds holds { bytes := 0 :: 0 :: rest }
      (Nat.le_add_left 2 _)
    rw [← zeros] at read
    have copied := step_copy_block target origin (by decide) (by decide) read (Nat.le_add_left 2 _)
    change ((start.step (.copy sink source (2 : Nat))).session.step (.reset sink none)).session = _
    rw [copied, made, zeros]
    rfl
  have nonempty (session : Session) : Content.bytes session.store (.own [9, 9, 9]) ≠ [] :=
    List.cons_ne_nil 9 [9, 9]
  constructor
  · have target : (again.step (.readBytes back buffer 0 (-1))).session.object? sink
        = some (.sink ⟨.replace, some (7 :: 8 :: rest), .memory ⟨[], [7, 8]⟩⟩) := by
      rw [reset]
      rfl
    have origin : (again.step (.readBytes back buffer 0 (-1))).session.object? back
        = some (.source (.memory (.own [9, 9, 9]) (-1))) := by
      rw [reset]
      rfl
    exact value?_copy_back target origin (nonempty _) rfl
  · have again : renewed
        = { again with
            objects :=
              [(source, .source (.memory (.own [7, 8]) 2)),
                (back, .source (.memory (.own [9, 9, 9]) 0)), (buffer, .buffer 0),
                (sink, .sink ⟨.replace, none, .memory {}⟩)] } := by
      simp only [renewed]
      rw [reset]
      rfl
    have target : (renewed.step (.readBytes back buffer 0 (-1))).session.object? sink
        = some (.sink ⟨.replace, none, .memory {}⟩) := by
      rw [again, reset]
      rfl
    have origin : (renewed.step (.readBytes back buffer 0 (-1))).session.object? back
        = some (.source (.memory (.own [9, 9, 9]) (-1))) := by
      rw [again, reset]
      rfl
    exact value?_copy_back target origin (nonempty _) zeros

end Session

end IndexWire
