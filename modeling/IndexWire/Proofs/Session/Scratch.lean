import IndexWire.Proofs.Session.Untouched
import Mathlib.Data.List.Induction

/-!
# The scratch buffer of a sink

The first copy that is not refused makes a scratch buffer of the size of a block, and no later call
changes its size, wherever it may fail. What the buffer still has of earlier copies reaches neither
the destination nor anything else: a block is written only after as many bytes have been read over
its front. This needs sources that have not gone back to before their bytes.
-/

namespace IndexWire

namespace Transfer

variable (store : Store) (policy : SurrogatePolicy) {source next : Source}
  {scratch changed : Bytes} {count : Nat}

theorem load_of_read {store : Store} (destination : Destination) {fault : Option Fault}
    (read : source.readInto store none { bytes := scratch } 0 count
      = { state := (next, { bytes := changed }), fault }) :
    (Transfer.mk store ⟨policy, some scratch, destination⟩ source).load count
      = { state := ⟨store, ⟨policy, some changed, destination⟩, next⟩, fault } := by
  simp only [load, Option.getD_some, read, Attempt.map]

theorem unload_front (destination : Destination) (source : Source)
    (inside : count ≤ scratch.length) :
    (Transfer.mk store ⟨policy, some scratch, destination⟩ source).unload count
      = (destination.deliver store (Plan.range (scratch.take count)).pieces).map
          fun (store, target) => ⟨store, ⟨policy, some scratch, target⟩, source⟩ := by
  simp only [unload, Option.getD_some, Sink.write, Sink.carryOut, Request.plan,
    Plan.slice_of_le inside, Plan.fault_range, Option.or_none, Attempt.map]

/-- The blocks of a copy are the same whatever the scratch buffer has before. -/
theorem moveBlocks_scratch (destination : Destination) (inside : 0 ≤ source.position)
    (left : Nat) :
    ∃ (later : Store) (target : Destination) (after : Source) (fault : Option Fault)
      (notices : List Notice),
      ∀ scratch : Bytes, scratch.length = blockSize →
        ∃ changed : Bytes, changed.length = blockSize ∧
          (Transfer.mk store ⟨policy, some scratch, destination⟩ source).moveBlocks left
            = { state := ⟨later, ⟨policy, some changed, target⟩, after⟩, fault, notices } := by
  induction left using Nat.strongRecOn generalizing store source destination with
  | ind left ih =>
      rcases Nat.eq_zero_or_pos left with rfl | unfinished
      · refine ⟨store, destination, source, none, [], fun scratch block => ⟨scratch, block, ?_⟩⟩
        exact moveBlocks_zero _
      · have fits : min left blockSize ≤ blockSize := Nat.min_le_right left blockSize
        rcases Source.readInto_front store inside fits with
            ⟨chunk, next, fault, whole, within, further, read⟩
        have kept (scratch : Bytes) (block : scratch.length = blockSize) :
            (chunk ++ scratch.drop chunk.length).length = blockSize := by
          rw [List.length_append, List.length_drop]
          omega
        cases fault with
        | some fault =>
            refine ⟨store, destination, next, some fault, [], fun scratch block =>
              ⟨_, kept scratch block, ?_⟩⟩
            have loaded := load_of_read policy destination (read scratch block)
            rw [moveBlocks_of_load_fault unfinished (congrArg Attempt.fault loaded), loaded]
        | none =>
            -- The whole front has been read over, so that the chunk is what is delivered.
            have full := whole rfl
            have loaded (scratch : Bytes) (block : scratch.length = blockSize) :=
              load_of_read policy destination (read scratch block)
            have unloaded (scratch : Bytes) (block : scratch.length = blockSize) :=
              unload_front store policy destination next
                (Nat.le_trans fits (Nat.le_of_eq (kept scratch block).symm))
            rcases delivered : destination.deliver store (Plan.range chunk).pieces with
                ⟨⟨later, target⟩, refusal, notices⟩
            simp only [List.take_left' full, delivered, Attempt.map] at unloaded
            cases refusal with
            | some fault =>
                refine ⟨later, target, next, some fault, notices, fun scratch block =>
                  ⟨_, kept scratch block, ?_⟩⟩
                rw [moveBlocks_of_unload_fault unfinished (congrArg Attempt.fault (loaded _ block))
                  (by rw [loaded _ block, unloaded _ block]), loaded _ block, unloaded _ block]
            | none =>
                rcases ih (left - min left blockSize) (by simp only [blockSize]; omega) later target
                  further with ⟨last, filled, after, fault, reports, moved⟩
                refine ⟨last, filled, after, fault, reports, fun scratch block => ?_⟩
                rcases moved _ (kept scratch block) with ⟨changed, size, rest⟩
                refine ⟨changed, size, ?_⟩
                rw [moveBlocks_of_unload unfinished (congrArg Attempt.fault (loaded _ block))
                  (by rw [loaded _ block, unloaded _ block]), loaded _ block, unloaded _ block]
                exact rest

/-- So is the whole of a copy. -/
theorem copy_scratch (destination : Destination) (inside : 0 ≤ source.position) (count : Int) :
    ∃ (later : Store) (target : Destination) (after : Source) (fault : Option Fault)
      (notices : List Notice),
      ∀ scratch : Option Bytes, IsBlock scratch →
        ∃ changed : Option Bytes, IsBlock changed ∧ (0 ≤ count → changed.isSome) ∧
          (count < 0 → changed = scratch) ∧
          (Transfer.mk store ⟨policy, scratch, destination⟩ source).copy count
            = { state := ⟨later, ⟨policy, changed, target⟩, after⟩, fault, notices } := by
  by_cases negative : count < 0
  · refine ⟨store, destination, source, some (.negativeCount count), [], fun scratch block =>
      ⟨scratch, block, ?_, fun _ => rfl, ?_⟩⟩
    · omega
    · simp only [copy, if_pos negative]
      rfl
  · rcases moveBlocks_scratch store policy destination inside count.toNat with
        ⟨later, target, after, fault, notices, moved⟩
    refine ⟨later, target, after, fault,
      if fault = none then notices ++ [copyNotice count.toNat] else notices,
      fun scratch block => ?_⟩
    have size : (scratch.getD (List.replicate blockSize 0)).length = blockSize := by
      cases scratch with
      | none => exact List.length_replicate
      | some bytes => exact block bytes rfl
    rcases moved _ size with ⟨changed, length, ran⟩
    refine ⟨some changed, fun bytes found => ?_, fun _ => rfl, fun short => ?_, ?_⟩
    · cases found
      exact length
    · exact absurd short negative
    · simp only [copy, if_neg negative, Sink.withScratch, ran]
      cases fault <;> rfl

end Transfer

namespace Session

variable {session : Session} {name : Text}

/-! ## Sources that have not gone back -/

theorem SourcesInside.write (inside : session.SourcesInside) (name : Text) (request : Request) :
    (session.write name request).session.SourcesInside := by
  unfold Session.write
  split
  · exact @setSink { session with store := _ } inside name _
  · rw [session_lacking]
    exact inside

theorem SourcesInside.copy (inside : session.SourcesInside) (name source : Text) (count : Int) :
    (session.copy name source count).session.SourcesInside := by
  unfold Session.copy
  split
  · rename_i sink origin found given
    have further := @Transfer.position_copy ⟨session.store, sink, origin⟩
      (inside source origin given) count
    simp only [copyFrom]
    refine (@setSink { session with store := _ } inside name _).setObject source ?_
    intro changed same
    cases same
    exact further
  · simp only [copyFromOther]
    split <;> exact inside.setSink name _
  · exact inside
  · rw [session_lacking]
    exact inside

theorem SourcesInside.reset (inside : session.SourcesInside) (name : Text)
    (offset : Option (Option Int)) : (session.reset name offset).session.SourcesInside := by
  unfold Session.reset
  split
  · simp only
    split
    · exact inside.setSink name _
    · exact inside
    · split
      · exact inside.setSink name _
      · exact inside
    · rw [session_lacking]
      exact inside
  · rw [session_lacking]
    exact inside

theorem SourcesInside.onStream (inside : session.SourcesInside) (name : Text) (method : String)
    (call : Stream → Store → Attempt (Store × Stream)) :
    (session.onStream name method call).session.SourcesInside := by
  unfold Session.onStream
  split
  · split
    · exact @setSink { session with store := _ } inside name _
    · rw [session_lacking]
      exact inside
  · rw [session_lacking]
    exact inside

theorem SourcesInside.readByte (inside : session.SourcesInside) (name : Text) :
    (session.readByte name).session.SourcesInside := by
  unfold Session.readByte
  split
  · rename_i content position found
    split
    · rename_i byte source answer
      apply inside.setObject
      intro changed same
      cases same
      rw [Source.eq_of_readByte answer]
      have before := inside name _ found
      simp only [Source.position] at before ⊢
      omega
    · exact inside
  · rw [session_lacking]
    exact inside

theorem SourcesInside.readBytes (inside : session.SourcesInside) (name buffer : Text)
    (offset : Int) {length : Int} (nonneg : 0 ≤ length) :
    (session.readBytes name buffer offset length).session.SourcesInside := by
  unfold Session.readBytes
  split
  · rename_i source id found given
    apply @setObject { session with store := _ } inside
    intro changed same
    cases same
    exact Source.position_readInto (inside name source found) _ _ _ _ nonneg
  · exact inside
  · exact inside
  · rw [session_lacking]
    exact inside

theorem SourcesInside.newSink (inside : session.SourcesInside) (name : Text)
    (policy : Option Value) (target : Target) :
    (session.newSink name policy target).session.SourcesInside := by
  have dropped := inside.drop name
  have chosen : ((session.drop name).choosePolicy policy).1.SourcesInside := by
    cases policy <;> exact dropped
  unfold Session.newSink
  simp only
  split
  · exact dropped
  · split
    · exact chosen
    · exact chosen
    · exact chosen.setSink name _

theorem SourcesInside.newMemorySource (inside : session.SourcesInside) (name : Text) (data : Data)
    (offset : Option Int) : (session.newMemorySource name data offset).session.SourcesInside := by
  have dropped := inside.drop name
  unfold Session.newMemorySource
  simp only
  split
  · exact dropped
  · exact dropped
  · split
    · exact dropped
    · rename_i content start given source made
      apply @setObject { session.drop name with store := _ } dropped
      intro changed same
      cases same
      unfold Source.ofContent at made
      simp only at made
      split at made
      · rename_i starts
        cases made
        exact starts.1
      · cases made

theorem SourcesInside.newStreamSource (inside : session.SourcesInside) (name : Text) (data : Data)
    (reader : Reader) : (session.newStreamSource name data reader).session.SourcesInside := by
  have dropped := inside.drop name
  unfold Session.newStreamSource
  simp only
  split
  · exact dropped
  · apply @setObject { session.drop name with store := _ } dropped
    intro changed same
    cases same
    exact Int.natCast_nonneg _

/-- No source goes back to before its bytes, unless it is read for a negative length. -/
theorem SourcesInside.step (inside : session.SourcesInside) {step : Step}
    (onward : ¬step.ReadsBack) : (session.step step).session.SourcesInside := by
  cases place : step.isAround with
  | true =>
      intro other source found
      rw [step_around place session session.objects] at found
      exact inside other source found
  | false =>
      cases step with
      | newBuffer made data =>
          simp only [Session.step]
          split
          · exact inside.drop made
          · apply @setObject { session.drop made with store := _ } (inside.drop made)
            intro changed same
            cases same
      | newSink made policy target => exact inside.newSink made policy target
      | newMemorySource made data offset => exact inside.newMemorySource made data offset
      | newStreamSource made data reader => exact inside.newStreamSource made data reader
      | write target request => exact inside.write target request
      | writeBytes target data offset length =>
          simp only [Session.step, writeBytes]
          split
          · rw [session_refused]
            exact inside
          · exact inside.write target _
          · rename_i id given
            exact @write { session with store := session.store.pin id } inside target
              (.bytes (session.store.buffer id).bytes offset length)
      | copy target source count => exact inside.copy target source count
      | reset target offset => exact inside.reset target offset
      | flush target => exact inside.onStream target _ _
      | close target => exact inside.onStream target _ _
      | leave target => exact inside.onStream target _ _
      | enter target =>
          have entered := inside.onStream target "__enter__"
            fun stream store => { state := (store, stream) }
          simp only [Session.step]
          split <;> exact entered
      | readByte source => exact inside.readByte source
      | readBytes source buffer offset length =>
          exact inside.readBytes source buffer offset (Int.not_lt.mp onward)
      | _ => cases place

/-! ## The size of the scratch buffer -/

/-- Whether one of the steps has been a copy to the sink of a name that was not refused at once. -/
def HasCopied (session : Session) (name : Text) (steps : List Step) : Prop :=
  ∃ earlier source count later, steps = earlier ++ .copy name source count :: later ∧
    0 ≤ count ∧ (session.after earlier).object? source ≠ none

theorem hasCopied_concat (session : Session) (name : Text) (steps : List Step) (step : Step) :
    session.HasCopied name (steps ++ [step]) ↔ session.HasCopied name steps ∨
      ∃ source count, step = .copy name source count ∧ 0 ≤ count ∧
        (session.after steps).object? source ≠ none := by
  constructor
  · rintro ⟨earlier, source, count, later, split, nonneg, there⟩
    rcases List.eq_nil_or_concat later with rfl | ⟨front, last, rfl⟩
    · rcases List.append_inj' split rfl with ⟨rfl, same⟩
      exact .inr ⟨source, count, (List.cons.inj same).1, nonneg, there⟩
    · left
      rw [List.concat_eq_append, ← List.cons_append, ← List.append_assoc] at split
      rcases List.append_inj' split rfl with ⟨rfl, -⟩
      exact ⟨earlier, source, count, front, rfl, nonneg, there⟩
  · rintro (⟨earlier, source, count, later, rfl, accepted⟩ | ⟨source, count, rfl, accepted⟩)
    · exact ⟨earlier, source, count, later ++ [step], by simp, accepted⟩
    · exact ⟨steps, source, count, [], rfl, accepted⟩

/-- A sink of a name whose scratch buffer is there only after a copy, with the size of a block. -/
def HasScratch (session : Session) (name : Text) (copied : Prop) : Prop :=
  ∃ sink, session.object? name = some (.sink sink) ∧
    (¬copied → sink.scratch = none) ∧
    (copied → sink.scratch.map List.length = some blockSize)

theorem HasScratch.isBlock {copied : Prop} {sink : Sink} (has : session.HasScratch name copied)
    (found : session.object? name = some (.sink sink)) : IsBlock sink.scratch := by
  rcases has with ⟨other, again, absent, present⟩
  cases found.symm.trans again
  intro bytes made
  by_cases after : copied
  · have size := present after
    rw [made] at size
    exact Option.some.inj size
  · cases (absent after).symm.trans made

/-- A call that leaves the scratch buffer as it is. -/
theorem HasScratch.of_same {copied : Prop} {before after : Session}
    (has : before.HasScratch name copied)
    (same : ∀ sink, before.object? name = some (.sink sink) →
      ∃ changed, after.object? name = some (.sink changed) ∧ changed.scratch = sink.scratch) :
    after.HasScratch name copied := by
  rcases has with ⟨sink, found, absent, present⟩
  rcases same sink found with ⟨changed, there, scratch⟩
  refine ⟨changed, there, ?_, ?_⟩ <;> rw [scratch]
  · exact absent
  · exact present

theorem hasScratch_of_copied {after : Session} {sink : Sink}
    (there : after.object? name = some (.sink sink)) (size : IsBlock sink.scratch)
    (made : sink.scratch.isSome = true) : after.HasScratch name True := by
  rcases sink with ⟨policy, changed, target⟩
  rcases Option.isSome_iff_exists.mp made with ⟨bytes, rfl⟩
  exact ⟨_, there, fun never => absurd trivial never, fun _ => congrArg some (size bytes rfl)⟩

/-- A copy that is not refused at once leaves a scratch buffer, wherever it fails. -/
theorem HasScratch.copy {copied : Prop} (has : session.HasScratch name copied)
    (inside : session.SourcesInside) {source : Text} {count : Int} (nonneg : 0 ≤ count)
    (there : session.object? source ≠ none) :
    (session.copy name source count).session.HasScratch name True := by
  rcases has with ⟨⟨policy, scratch, destination⟩, found, rest⟩
  have block : IsBlock scratch := HasScratch.isBlock ⟨_, found, rest⟩ found
  have other (object : Object) : (session.copyFromOther name ⟨policy, scratch, destination⟩ object
      count).session.HasScratch name True := by
    have start : 0 ≤ (Source.memory (.own []) 0).position := Int.le_refl 0
    rcases Transfer.copy_scratch session.store policy destination start (min count 0) with
        ⟨later, target, after, fault, notices, copied⟩
    rcases copied scratch block with ⟨changed, size, made, -, copied⟩
    have there : (session.copyFromOther name ⟨policy, scratch, destination⟩ object
        count).session.object? name = some (.sink ⟨policy, changed, target⟩) := by
      simp only [copyFromOther, copied]
      split <;> exact object?_setObject_self _ _ _
    exact hasScratch_of_copied there size (made (Int.le_min.mpr ⟨nonneg, Int.le_refl 0⟩))
  simp only [Session.copy, found]
  rcases given : session.object? source with _ | id | sink | origin
  · exact absurd given there
  · exact other _
  · exact other _
  · have different : name ≠ source := by
      rintro rfl
      cases found.symm.trans given
    rcases Transfer.copy_scratch session.store policy destination (inside source _ given) count with
        ⟨later, target, after, fault, notices, copied⟩
    rcases copied scratch block with ⟨changed, size, made, -, copied⟩
    have there : (session.copyFrom name ⟨policy, scratch, destination⟩ source origin
        count).session.object? name = some (.sink ⟨policy, changed, target⟩) := by
      simp only [copyFrom, copied, object?_setObject_of_ne different, object?_setObject_self]
    exact hasScratch_of_copied there size (made nonneg)

/-- A copy with a negative count, or from what is not there, leaves the sink as it is. -/
theorem object?_copy_of_refused {sink : Sink} (found : session.object? name = some (.sink sink))
    {source : Text} {count : Int} (refused : ¬(0 ≤ count ∧ session.object? source ≠ none)) :
    (session.copy name source count).session.object? name = some (.sink sink) := by
  simp only [Session.copy, found]
  rcases given : session.object? source with _ | object
  · exact found
  · have negative : count < 0 := by
      by_contra nonneg
      exact refused ⟨Int.not_lt.mp nonneg, by rw [given]; exact Option.some_ne_none object⟩
    have lower : min count 0 < 0 := by omega
    rcases object with id | other | origin
    · simp only [copyFromOther, Transfer.copy, if_pos lower, Attempt.failed]
      split <;> exact object?_setObject_self _ _ _
    · simp only [copyFromOther, Transfer.copy, if_pos lower, Attempt.failed]
      split <;> exact object?_setObject_self _ _ _
    · have different : name ≠ source := by
        rintro rfl
        cases found.symm.trans given
      simp only [copyFrom, Transfer.copy, if_pos negative, Attempt.failed,
        object?_setObject_of_ne different, object?_setObject_self]

/-- Calls of a sink other than copies leave its scratch buffer as it is. -/
theorem scratch_of_call {sink : Sink} (found : session.object? name = some (.sink sink))
    {step : Step} (kept : ¬step.Makes name)
    (other : ∀ source count, step ≠ .copy name source count) :
    ∃ changed, (session.step step).session.object? name = some (.sink changed) ∧
      changed.scratch = sink.scratch := by
  have write (store : Store) (request : Request) : ∃ changed,
      (({ session with store } : Session).write name request).session.object? name
        = some (.sink changed) ∧ changed.scratch = sink.scratch := by
    have there : ({ session with store } : Session).object? name = some (.sink sink) := found
    simp only [Session.write, there]
    exact ⟨_, object?_setObject_self _ _ _, rfl⟩
  have stream (method : String) (call : Stream → Store → Attempt (Store × Stream)) : ∃ changed,
      (session.onStream name method call).session.object? name = some (.sink changed) ∧
        changed.scratch = sink.scratch := by
    simp only [onStream, found]
    split
    · exact ⟨_, object?_setObject_self _ _ _, rfl⟩
    · exact ⟨sink, by rw [session_lacking, found], rfl⟩
  by_cases calls : step.Calls name
  · cases step with
    | write target request =>
        obtain rfl : name = target := calls
        exact write session.store request
    | writeBytes target data offset length =>
        obtain rfl : name = target := calls
        simp only [Session.step, writeBytes]
        split
        · exact ⟨sink, by rw [session_refused, found], rfl⟩
        · exact write session.store _
        · exact write _ _
    | copy target source count =>
        obtain rfl : name = target := calls
        exact absurd rfl (other source count)
    | reset target offset =>
        obtain rfl : name = target := calls
        simp only [Session.step, Session.reset, found]
        split
        · exact ⟨_, object?_setObject_self _ _ _, rfl⟩
        · exact ⟨sink, found, rfl⟩
        · split
          · exact ⟨_, object?_setObject_self _ _ _, rfl⟩
          · exact ⟨sink, found, rfl⟩
        · exact ⟨sink, by rw [session_lacking, found], rfl⟩
    | flush target =>
        obtain rfl : name = target := calls
        exact stream _ _
    | close target =>
        obtain rfl : name = target := calls
        exact stream _ _
    | leave target =>
        obtain rfl : name = target := calls
        exact stream _ _
    | enter target =>
        obtain rfl : name = target := calls
        have entered := stream "__enter__" fun stream store => { state := (store, stream) }
        simp only [Session.step]
        split <;> exact entered
    | _ => exact False.elim calls
  · exact ⟨sink, object?_step_of_sink found kept calls, rfl⟩

/-- Every step leaves the scratch buffer of a sink as it is, or with the size of a block. -/
theorem HasScratch.step {copied : Prop} (has : session.HasScratch name copied)
    (inside : session.SourcesInside) {step : Step} (kept : ¬step.Makes name) :
    (session.step step).session.HasScratch name (copied ∨
      ∃ source count, step = .copy name source count ∧ 0 ≤ count ∧
        session.object? source ≠ none) := by
  by_cases copies : ∃ source count, step = .copy name source count ∧ 0 ≤ count ∧
      session.object? source ≠ none
  · have now := copies
    rcases copies with ⟨source, count, rfl, nonneg, there⟩
    rw [eq_true (Or.inr now : copied ∨ _)]
    exact has.copy inside nonneg there
  · rw [or_iff_left copies]
    apply has.of_same
    intro sink found
    by_cases copy : ∃ source count, step = .copy name source count
    · rcases copy with ⟨source, count, rfl⟩
      refine ⟨sink, object?_copy_of_refused found fun accepted => ?_, rfl⟩
      exact copies ⟨source, count, rfl, accepted⟩
    · simp only [not_exists] at copy
      exact scratch_of_call found kept copy

theorem HasScratch.after {start : Session} (has : start.HasScratch name False)
    (inside : start.SourcesInside) {steps : List Step} (kept : ∀ step ∈ steps, ¬step.Makes name)
    (onward : ∀ step ∈ steps, ¬step.ReadsBack) :
    (start.after steps).HasScratch name (start.HasCopied name steps) ∧
      (start.after steps).SourcesInside := by
  -- from the last step backwards, since what has been copied is told by the steps before
  induction steps using List.reverseRecOn with
  | nil =>
      have none : ¬start.HasCopied name [] := by simp [HasCopied]
      rw [eq_false none]
      exact ⟨has, inside⟩
  | append_singleton steps step ih =>
      simp only [List.forall_mem_append, List.forall_mem_singleton] at kept onward
      rcases ih kept.1 onward.1 with ⟨before, within⟩
      have last : start.after (steps ++ [step]) = ((start.after steps).step step).session := by
        simp only [Session.after, List.foldl_append, List.foldl_cons, List.foldl_nil]
      rw [last, hasCopied_concat]
      exact ⟨before.step within kept.2, within.step onward.2⟩

/-! ## Other contents of the scratch buffer -/

/-- Two sessions that differ in nothing but the bytes of the scratch buffer of a sink. -/
structure SameButScratch (name : Text) (one two : Session) : Prop where
  store : two.store = one.store
  environment : two.environment = one.environment
  settings : two.settings = one.settings
  others : ∀ other, other ≠ name → two.object? other = one.object? other
  own : ∃ policy first second destination,
    one.object? name = some (.sink ⟨policy, first, destination⟩) ∧
      two.object? name = some (.sink ⟨policy, second, destination⟩) ∧
      IsBlock first ∧ IsBlock second

namespace SameButScratch

variable {one two : Session}

theorem setOwn (same : one.SameButScratch name two) {store other : Store} (stores : other = store)
    (policy : SurrogatePolicy) (destination : Destination) {first second : Option Bytes}
    (blockOne : IsBlock first) (blockTwo : IsBlock second) :
    SameButScratch name
      (({ one with store } : Session).setObject name (.sink ⟨policy, first, destination⟩))
      (({ two with store := other } : Session).setObject name
        (.sink ⟨policy, second, destination⟩)) := by
  refine ⟨stores, same.environment, same.settings, ?_, ⟨policy, first, second, destination,
    object?_setObject_self _ _ _, object?_setObject_self _ _ _, blockOne, blockTwo⟩⟩
  intro other different
  rw [object?_setObject_of_ne different, object?_setObject_of_ne different]
  exact same.others other different

theorem setObject (same : one.SameButScratch name two) {other : Text} (different : name ≠ other)
    (object : Object) : (one.setObject other object).SameButScratch name
      (two.setObject other object) := by
  refine ⟨same.store, same.environment, same.settings, ?_, ?_⟩
  · intro third apart
    by_cases own : third = other
    · rw [own, object?_setObject_self, object?_setObject_self]
    · rw [object?_setObject_of_ne own, object?_setObject_of_ne own]
      exact same.others third apart
  · rw [object?_setObject_of_ne different, object?_setObject_of_ne different]
    exact same.own

/-- A copy neither shows nor hands on what the scratch buffer had before. -/
theorem copy (same : one.SameButScratch name two) (inside : one.SourcesInside) (source : Text)
    (count : Int) :
    (two.copy name source count).outcome = (one.copy name source count).outcome ∧
      (two.copy name source count).notices = (one.copy name source count).notices ∧
      (one.copy name source count).session.SameButScratch name
        (two.copy name source count).session := by
  rcases same.own with ⟨policy, first, second, destination, found, again, blockOne, blockTwo⟩
  have fromOther {object other : Object} (kind : other.kindName = object.kindName) :
      let answer := one.copyFromOther name ⟨policy, first, destination⟩ object count
      let answered := two.copyFromOther name ⟨policy, second, destination⟩ other count
      answered.outcome = answer.outcome ∧ answered.notices = answer.notices ∧
        answer.session.SameButScratch name answered.session := by
    have start : 0 ≤ (Source.memory (.own []) 0).position := Int.le_refl 0
    rcases Transfer.copy_scratch one.store policy destination start (min count 0) with
        ⟨later, target, after, fault, notices, copied⟩
    rcases copied first blockOne with ⟨changedOne, sizeOne, -, -, copyOne⟩
    rcases copied second blockTwo with ⟨changedTwo, sizeTwo, -, -, copyTwo⟩
    have changed := same.setOwn same.store policy target sizeOne sizeTwo
    simp only [copyFromOther, same.store, copyOne, copyTwo, kind]
    split <;> exact ⟨rfl, rfl, changed⟩
  by_cases self : source = name
  · subst self
    have kind : (Object.sink ⟨policy, second, destination⟩).kindName
        = (Object.sink ⟨policy, first, destination⟩).kindName := by
      cases destination <;> rfl
    simp only [Session.copy, found, again]
    exact fromOther kind
  · simp only [Session.copy, found, again, same.others source self]
    rcases given : one.object? source with _ | id | sink | origin
    · exact ⟨rfl, rfl, same⟩
    · exact fromOther rfl
    · exact fromOther rfl
    · rcases Transfer.copy_scratch one.store policy destination (inside source origin given) count
        with ⟨later, target, after, fault, notices, copied⟩
      rcases copied first blockOne with ⟨changedOne, sizeOne, -, -, copyOne⟩
      rcases copied second blockTwo with ⟨changedTwo, sizeTwo, -, -, copyTwo⟩
      have changed := same.setOwn (Eq.refl later) policy target sizeOne sizeTwo
      simp only [copyFrom, same.store, copyOne, copyTwo]
      exact ⟨trivial, trivial, changed.setObject (Ne.symm self) _⟩

end SameButScratch

/-! ## New sinks -/

/-- A new sink of any kind has no scratch buffer. -/
theorem hasScratch_newSink {given : Option Value} {target : Target} {policy : SurrogatePolicy}
    (made : (session.newSink name given target).outcome = .policy policy) :
    (session.newSink name given target).session.HasScratch name False := by
  unfold newSink at made ⊢
  simp only at made ⊢
  split at made
  · cases made
  · split at made
    · cases made
    · cases made
    · exact ⟨_, object?_setObject_self _ _ _, fun _ => rfl, False.elim⟩

/-- A session with one content of the scratch buffer in the place of another. -/
theorem sameButScratch_setScratch (session : Session) (name : Text) (sink : Sink)
    {first second : Option Bytes} (blockOne : IsBlock first) (blockTwo : IsBlock second) :
    (session.setObject name (.sink { sink with scratch := first })).SameButScratch name
      (session.setObject name (.sink { sink with scratch := second })) := by
  refine ⟨rfl, rfl, rfl, ?_, ⟨sink.policy, first, second, sink.destination,
    object?_setObject_self _ _ _, object?_setObject_self _ _ _, blockOne, blockTwo⟩⟩
  intro other different
  rw [object?_setObject_of_ne different, object?_setObject_of_ne different]

/--
The scratch buffer of a sink of any kind, over all calls of which none reads a negative length:
there is none until the first copy that is not refused at once, and from then on it has 16384 bytes,
whatever else is called and wherever a call fails. What stands in it before a copy is never seen:
whatever it is, the copy ends alike, reports alike, and leaves the same store, the same destination,
the same source and the same of all other objects.
-/
theorem scratch_unseen (start : Session) (inside : start.SourcesInside) {name : Text}
    {given : Option Value} {target : Target} {policy : SurrogatePolicy}
    (made : (start.step (.newSink name given target)).outcome = .policy policy)
    {steps : List Step} (kept : ∀ step ∈ steps, ¬step.Makes name)
    (onward : ∀ step ∈ steps, ¬step.ReadsBack) :
    let built := (start.step (.newSink name given target)).session
    let reached := built.after steps
    ∃ sink, reached.object? name = some (.sink sink) ∧
      (¬built.HasCopied name steps → sink.scratch = none) ∧
      (built.HasCopied name steps → sink.scratch.map List.length = some 16384) ∧
      ∀ first second : Option Bytes, (∀ bytes ∈ first, bytes.length = 16384) →
        (∀ bytes ∈ second, bytes.length = 16384) → ∀ source count,
          let holding (scratch : Option Bytes) :=
            reached.setObject name (.sink { sink with scratch })
          let one := (holding first).step (.copy name source count)
          let two := (holding second).step (.copy name source count)
          two.outcome = one.outcome ∧ two.notices = one.notices ∧
            one.session.SameButScratch name two.session := by
  intro built reached
  have fresh : built.HasScratch name False := hasScratch_newSink made
  have first : built.SourcesInside := inside.newSink name given target
  rcases fresh.after first kept onward with ⟨⟨sink, found, absent, present⟩, within⟩
  refine ⟨sink, found, absent, present, ?_⟩
  intro one two blockOne blockTwo source count
  have same := sameButScratch_setScratch reached name sink blockOne blockTwo
  exact same.copy (within.setSink name _) source count

/-- A copy, one that fails, and then a copy over bytes of another origin. -/
theorem scratch_unseen_after_failure :
    let name := Text.ofString "sink"
    let source := Text.ofString "source"
    let start := ({} : Session).after [.newMemorySource source (.own [1, 2, 3]) (some 0)]
    let given := some (Value.text SurrogatePolicy.replace.name)
    let built := (start.step (.newSink name given .counter)).session
    let reached := built.after [.copy name source 2, .copy name source 5]
    ∃ sink, reached.object? name = some (.sink sink) ∧
      sink.scratch.map List.length = some 16384 ∧
      let holding (scratch : Option Bytes) := reached.setObject name (.sink { sink with scratch })
      ((holding none).step (.copy name source 1)).session.SameButScratch name
        ((holding (some (List.replicate 16384 7))).step (.copy name source 1)).session := by
  intro name source start given built reached
  have empty : SourcesInside {} := by
    intro name source found
    cases found
  have inside : start.SourcesInside := empty.newMemorySource source (.own [1, 2, 3]) (some 0)
  have made : (start.step (.newSink name given .counter)).outcome = .policy .replace := rfl
  have kept : ∀ step ∈ [Step.copy name source 2, .copy name source 5], ¬step.Makes name := by
    simp [Step.Makes]
  have onward : ∀ step ∈ [Step.copy name source 2, .copy name source 5], ¬step.ReadsBack := by
    simp [Step.ReadsBack]
  have there : built.object? source = some (.source (.memory (.own [1, 2, 3]) 0)) := rfl
  have copied : built.HasCopied name [.copy name source 2, .copy name source 5] :=
    ⟨[], source, 2, _, rfl, by decide, fun missing => by cases there.symm.trans missing⟩
  rcases scratch_unseen start inside made kept onward with ⟨sink, found, -, present, unseen⟩
  refine ⟨sink, found, present copied, ?_⟩
  have first : ∀ bytes ∈ (none : Option Bytes), bytes.length = 16384 := by simp
  have second : ∀ bytes ∈ some (List.replicate 16384 (7 : UInt8)), bytes.length = 16384 := by
    rintro bytes ⟨⟩
    exact List.length_replicate
  exact (unseen none (some (List.replicate 16384 7)) first second source 1).2.2

end Session

end IndexWire
