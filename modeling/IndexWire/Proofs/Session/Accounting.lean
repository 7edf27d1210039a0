import IndexWire.Proofs.Session.Untouched
import IndexWire.Proofs.Sink.Accounting
import IndexWire.Proofs.Sink.Views
import IndexWire.Session.Workspace

/-!
# The tallies of a stream sink

A stream sink has a count, and its device has the bytes that it kept. Over the calls of a session
both follow from the writes that the stream asks of the device. What a call asks is told by
`planned`, which leaves the device out of account, and by the device, which may refuse a write and
so end the call.
-/

namespace IndexWire

namespace Object

/-- How a copy from an object that is no source ends, which writes nothing. -/
def emptyPlan (other : Object) (count : Int) : Plan :=
  if count < 0 then .refused (.negativeCount count)
  else if count = 0 then {}
  else .refused (.noAttribute other.kindName (Text.ofString "read_bytes"))

theorem pieces_emptyPlan (other : Object) (count : Int) : (other.emptyPlan count).pieces = [] := by
  unfold emptyPlan
  split
  · rfl
  · split <;> rfl

/-- What a copy from an object would write, and how it would end, if all of it were taken. -/
def copyPlan (store : Store) (scratch : Option Bytes) (count : Int) : Object → Plan
  | .source origin => origin.copyPlan store scratch count
  | other => other.emptyPlan count

theorem isFilled_copyPlan (store : Store) (scratch : Option Bytes) (count : Int)
    (object : Object) : (object.copyPlan store scratch count).IsFilled := by
  unfold copyPlan
  split
  · exact Source.isFilled_copyPlan store _ scratch count
  · rw [Plan.IsFilled, pieces_emptyPlan]
    exact fun piece mem => absurd mem List.not_mem_nil

end Object

namespace Session

/-- The count and the device of the stream sink of a name. -/
def tally? (session : Session) (name : Text) : Option (Nat × Writer) :=
  match session.object? name with
  | some (.sink { destination := .stream { written, device := .writer device, .. }, .. }) =>
    some (written, device)
  | _ => none

/--
What a call of the sink of a name would write, and how it would end, if all of it were taken. There
is nothing of the kind if the call does not write, or if what it writes or copies is not there.
-/
def planned (session : Session) (name : Text) (step : Step) : Option Plan :=
  match session.object? name with
  | some (.sink sink) =>
    match step with
    | .write target request => if name = target then some (request.plan sink.policy) else none
    | .writeBytes target data offset length =>
      if name = target then (session.bytes? data).map fun bytes => .slice bytes offset length
      else none
    | .copy target source count =>
      if name = target then
        (session.object? source).map (Object.copyPlan session.store sink.scratch count)
      else none
    | _ => none
  | _ => none

/-- The writes that a call asks of the device of the stream sink of a name. -/
def asks (session : Session) (name : Text) (step : Step) : List Ask :=
  match session.tally? name, session.planned name step with
  | some (_, device), some plan => device.asks (plan.pieces.map Piece.bytes)
  | _, _ => []

/-- The writes that all calls ask. -/
def allAsks (session : Session) (name : Text) : List Step → List Ask
  | [] => []
  | step :: rest => session.asks name step ++ (session.step step).session.allAsks name rest

/-- Whether a step closes the stream of a name. -/
def Step.Closes (name : Text) : Step → Prop
  | .close target | .leave target => name = target
  | _ => False

variable {session : Session} {name : Text} {count : Nat} {device : Writer}

theorem exists_of_tally? (found : session.tally? name = some (count, device)) :
    ∃ sink label, session.object? name = some (.sink sink) ∧
      sink.destination = .stream ⟨label, count, .writer device⟩ := by
  unfold tally? at found
  split at found
  · rename_i there
    cases found
    exact ⟨_, _, there, rfl⟩
  · cases found

theorem tally?_of_object? {sink : Sink} {label : Text}
    (found : session.object? name = some (.sink sink))
    (target : sink.destination = .stream ⟨label, count, .writer device⟩) :
    session.tally? name = some (count, device) := by
  rcases sink with ⟨policy, scratch, destination⟩
  cases target
  simp only [tally?, found]

/-- The calls of a sink that write, each with what it would write. -/
inductive Plans (session : Session) (name : Text) (sink : Sink) : Step → Plan → Prop where
  | write (request : Request) : Plans session name sink (.write name request)
      (request.plan sink.policy)
  | writeBytes {data : Data} {bytes : Bytes} (given : session.bytes? data = some bytes)
      (offset : Int) (length : Option Int) :
      Plans session name sink (.writeBytes name data offset length) (.slice bytes offset length)
  | copy {source : Text} {object : Object} (given : session.object? source = some object)
      (wanted : Int) :
      Plans session name sink (.copy name source wanted)
        (object.copyPlan session.store sink.scratch wanted)

theorem plans_of_planned {step : Step} {plan : Plan}
    (planned : session.planned name step = some plan) :
    ∃ sink, session.object? name = some (.sink sink) ∧ session.Plans name sink step plan := by
  unfold Session.planned at planned
  split at planned
  · rename_i sink found
    refine ⟨sink, found, ?_⟩
    split at planned
    · split at planned
      · rename_i own
        cases planned
        exact own ▸ .write _
      · cases planned
    · split at planned
      · rename_i own
        rcases Option.map_eq_some_iff.mp planned with ⟨bytes, given, rfl⟩
        exact own ▸ .writeBytes given _ _
      · cases planned
    · split at planned
      · rename_i own
        rcases Option.map_eq_some_iff.mp planned with ⟨object, given, rfl⟩
        exact own ▸ .copy given _
      · cases planned
    · cases planned
  · cases planned

section Planned

variable {sink : Sink} {step : Step} {plan : Plan} (plans : session.Plans name sink step plan)

include plans

theorem Plans.isFilled : plan.IsFilled := by
  cases plans with
  | write request => exact (Request.built_plan _ request).isFilled
  | writeBytes given offset length =>
      exact (Request.built_plan .strict (.bytes _ offset length)).isFilled
  | copy given wanted => exact Object.isFilled_copyPlan _ _ wanted _

theorem Plans.not_closes : ¬step.Closes name := by
  intro closes
  cases plans <;> exact closes

end Planned

/-! ## One call -/

/-- What a call makes of a count and a device that hands the pieces of a plan to the device. -/
structure HandsOver (name : Text) (before : Nat × Writer) (plan : Plan) (answer : Answer) : Prop
    where
  outcome : answer.outcome
    = outcomeOf ((Ask.fault? (before.2.asks (plan.pieces.map Piece.bytes))).or plan.fault)
  handled : ∃ after, answer.session.tally? name = some after ∧
    Handled before (plan.pieces.map Piece.bytes) after

section Call

variable {sink : Sink} {label : Text}
  (target : sink.destination = .stream ⟨label, count, .writer device⟩)

include target

theorem handsOver_copyFromOther (other : Object) (wanted : Int) :
    HandsOver name (count, device) (other.emptyPlan wanted)
      (session.copyFromOther name sink other wanted) := by
  let start : Transfer := ⟨session.store, sink, .memory (.own []) 0⟩
  have kept : (start.copy (min wanted 0)).state.sink.destination = _ :=
    (start.copy_of_nonpos (Int.min_le_right wanted 0)).2.trans target
  have there := @tally?_of_object? _ name _ _ _ _ (object?_setObject_self session name _) kept
  have nothing := other.pieces_emptyPlan wanted
  simp only [copyFromOther]
  constructor
  case handled =>
    refine ⟨(count, device), ?_, by rw [nothing]; exact .nil _⟩
    split <;> exact there
  case outcome =>
    rw [nothing, Object.emptyPlan]
    rcases Int.lt_trichotomy wanted 0 with negative | rfl | positive
    · rw [if_neg (by omega), if_pos negative, Int.min_eq_left (Int.le_of_lt negative),
        Transfer.copy, if_pos negative]
      rfl
    · have ended := (start.copy_of_nonneg (Int.le_refl 0)).2
      rw [Int.toNat_zero, Transfer.moveBlocks_zero] at ended
      exact congrArg outcomeOf ended
    · rw [if_pos positive, if_neg (by omega), if_neg (by omega)]
      rfl

variable (found : session.object? name = some (.sink sink))

include found

theorem handsOver_write (store : Store) (request : Request) :
    HandsOver name (count, device) (request.plan sink.policy)
      (({ session with store } : Session).write name request) := by
  rcases Destination.deliver_stream store label count device (request.plan sink.policy).pieces with
      ⟨total, after, state, fault, handled⟩
  have there : ({ session with store } : Session).object? name = _ := found
  simp only [Session.write, there, Sink.write, Sink.carryOut, target, state, fault]
  exact ⟨rfl, _, tally?_of_object? (object?_setObject_self _ _ _) rfl, handled⟩

theorem handsOver_copy {source : Text} {object : Object}
    (given : session.object? source = some object) (wanted : Int) :
    HandsOver name (count, device) (object.copyPlan session.store sink.scratch wanted)
      (session.copy name source wanted) := by
  cases object with
  | source origin =>
      have different : name ≠ source := by
        rintro rfl
        cases found.symm.trans given
      have aside (pieces : List Piece) :
          (sink.destination.deliver session.store pieces).state.1 = session.store := by
        rcases Destination.deliver_stream session.store label count device pieces with
            ⟨total, after, state, -⟩
        rw [target, state]
      rcases Destination.deliver_stream session.store label count device
        (origin.copyPlan session.store sink.scratch wanted).pieces with
          ⟨total, after, state, fault, handled⟩
      rcases Transfer.copy_aside session.store sink origin wanted aside with
          ⟨outcome, changed, later, copied⟩
      simp only [target, state] at copied
      simp only [target, fault] at outcome
      simp only [Session.copy, found, given, copyFrom, copied, outcome]
      have there := (object?_setObject_of_ne different _ (.source later)).trans
        (object?_setObject_self session name
          (.sink { sink with
            scratch := changed, destination := .stream ⟨label, total, .writer after⟩ }))
      exact ⟨rfl, _, tally?_of_object? there rfl, handled⟩
  | buffer id =>
      simp only [Session.copy, found, given]
      exact handsOver_copyFromOther target _ wanted
  | sink other =>
      simp only [Session.copy, found, given]
      exact handsOver_copyFromOther target _ wanted

theorem handsOver_writeBytes {data : Data} {bytes : Bytes}
    (given : session.bytes? data = some bytes) (offset : Int) (length : Option Int) :
    HandsOver name (count, device) (.slice bytes offset length)
      (session.writeBytes name data offset length) := by
  rcases Option.map_eq_some_iff.mp given with ⟨content, there, rfl⟩
  simp only [writeBytes, there]
  cases content with
  | own bytes => exact handsOver_write target found session.store (.bytes bytes offset length)
  | shared id =>
      have written := handsOver_write target found (session.store.pin id)
        (.bytes (session.store.buffer id).bytes offset length)
      exact ⟨written.outcome, written.handled⟩

theorem tally?_onStream (method : String) {call : Stream → Store → Attempt (Store × Stream)}
    {after : Writer}
    (answers : (call ⟨label, count, .writer device⟩ session.store).state.2
      = ⟨label, count, .writer after⟩) :
    (session.onStream name method call).session.tally? name = some (count, after) := by
  simp only [onStream, found, target, answers]
  exact tally?_of_object? (object?_setObject_self _ _ _) rfl

end Call

/-- A call that writes hands over what it has planned. -/
theorem handsOver_step (found : session.tally? name = some (count, device)) {step : Step}
    {plan : Plan} (planned : session.planned name step = some plan) :
    HandsOver name (count, device) plan (session.step step) := by
  rcases exists_of_tally? found with ⟨sink, label, there, target⟩
  rcases plans_of_planned planned with ⟨own, again, plans⟩
  cases there.symm.trans again
  cases plans with
  | write request => exact handsOver_write target there session.store request
  | writeBytes given offset length => exact handsOver_writeBytes target there given offset length
  | copy given wanted => exact handsOver_copy target there given wanted

/-- The other calls leave the count and the bytes alone, and close the device if they close it. -/
theorem tally?_step_of_not_planned (found : session.tally? name = some (count, device))
    {step : Step} (kept : ¬step.Makes name) (none : session.planned name step = none) :
    ∃ after : Writer, (session.step step).session.tally? name = some (count, after) ∧
      device.Spared after ∧
        (after.isClosed = true ↔ device.isClosed = true ∨ step.Closes name) := by
  rcases exists_of_tally? found with ⟨sink, label, there, target⟩
  have same {answered : Session} (unchanged : answered.object? name = some (.sink sink))
      (stays : ¬step.Closes name) :
      ∃ after : Writer, answered.tally? name = some (count, after) ∧ device.Spared after ∧
        (after.isClosed = true ↔ device.isClosed = true ∨ step.Closes name) :=
    ⟨device, tally?_of_object? unchanged target, .refl device, (or_iff_left stays).symm⟩
  have closed : (Stream.close ⟨label, count, .writer device⟩ session.store).state.2
      = ⟨label, count, .writer { device with isClosed := true }⟩ := rfl
  by_cases calls : step.Calls name
  · cases step with
    | write called request =>
        obtain rfl : name = called := calls
        simp [planned, there] at none
    | writeBytes called data offset length =>
        obtain rfl : name = called := calls
        simp only [planned, there, if_true, Option.map_eq_none_iff, bytes?] at none
        refine same ?_ id
        simp only [Session.step, writeBytes, none, session_refused, there]
    | copy called source wanted =>
        obtain rfl : name = called := calls
        simp only [planned, there, if_true, Option.map_eq_none_iff] at none
        refine same ?_ id
        simp only [Session.step, Session.copy, none, there, noObject]
    | reset called offset =>
        obtain rfl : name = called := calls
        refine same ?_ id
        simp only [Session.step, Session.reset, there, target, session_lacking]
    | flush called =>
        obtain rfl : name = called := calls
        rcases device.spared_flush with ⟨spared, isClosed⟩
        have flushed : (Stream.flush ⟨label, count, .writer device⟩ session.store).state.2
            = ⟨label, count, .writer device.flush.state⟩ := rfl
        refine ⟨_, tally?_onStream target there "flush" flushed, spared, ?_⟩
        rw [isClosed]
        exact (or_iff_left id).symm
    | close called =>
        obtain rfl : name = called := calls
        exact ⟨_, tally?_onStream target there "close" closed, ⟨rfl, rfl, rfl⟩,
          iff_of_true rfl (Or.inr rfl)⟩
    | leave called =>
        obtain rfl : name = called := calls
        exact ⟨_, tally?_onStream target there "__exit__" closed, ⟨rfl, rfl, rfl⟩,
          iff_of_true rfl (Or.inr rfl)⟩
    | enter called =>
        obtain rfl : name = called := calls
        have entered : (session.onStream name "__enter__" fun stream store =>
            { state := (store, stream) }).session.tally? name = some (count, device) :=
          tally?_onStream target there _ rfl
        refine ⟨device, ?_, .refl device, (or_iff_left id).symm⟩
        simp only [Session.step]
        split <;> exact entered
    | _ => exact False.elim calls
  · refine same (object?_step_of_sink there kept calls) fun closes => calls ?_
    cases step with
    | close called => exact closes
    | leave called => exact closes
    | _ => exact False.elim closes

/-- What a call makes of the tallies of a stream sink, and how it ends. -/
structure Tallied (session : Session) (name : Text) (step : Step) (before after : Nat × Writer) :
    Prop where
  reached : (session.step step).session.tally? name = some after
  accounts : Accounts before (session.asks name step) after
  /-- An open device has noted just the writes that are accounted for. -/
  noted : before.2.isClosed = false → after.2.writes
    = before.2.writes ++ (session.asks name step).map fun ask => ask.bytes.length
  /-- A call that writes ends as it has to, unless a write is refused. -/
  ended : ∀ plan, session.planned name step = some plan → (session.step step).outcome
    = outcomeOf ((Ask.fault? (session.asks name step)).or plan.fault)
  /-- A refusal reaches the caller as it is. -/
  refused : ∀ fault, Ask.fault? (session.asks name step) = some fault →
    (session.step step).outcome = .failed fault
  /-- A closed device refuses all calls that have bytes to write. -/
  shut : before.2.isClosed = true → ∀ plan, session.planned name step = some plan →
    plan.bytes ≠ [] → (session.step step).outcome = .failed .closed ∧
      Fault.closed.category = .value ∧ after = before
  /-- An accepted call without bytes to write does not reach the device. -/
  idle : ∀ plan, session.planned name step = some plan → plan.bytes = [] → plan.fault = none →
    (session.step step).outcome = .done ∧ after = before
  closed : after.2.isClosed = true ↔ before.2.isClosed = true ∨ step.Closes name

theorem HandsOver.tallied {before : Nat × Writer} (found : session.tally? name = some before)
    {step : Step} {plan : Plan} (planned : session.planned name step = some plan)
    (handed : HandsOver name before plan (session.step step)) :
    ∃ after, session.Tallied name step before after := by
  have asks : session.asks name step = before.2.asks (plan.pieces.map Piece.bytes) := by
    simp only [Session.asks, found, planned]
  rcases plans_of_planned planned with ⟨sink, -, plans⟩
  rcases handed.handled with ⟨after, reached, handled⟩
  have outcome := handed.outcome
  rw [← asks] at outcome
  refine ⟨after, ?_⟩
  constructor
  case reached => exact reached
  case accounts =>
    rw [asks]
    exact handled.accounts
  case noted =>
    rw [asks]
    exact handled.noted
  case ended =>
    intro other same
    cases planned.symm.trans same
    exact outcome
  case refused =>
    intro fault refused
    rw [outcome, refused]
    rfl
  case shut =>
    intro shut other same bytes
    cases planned.symm.trans same
    have nonempty : plan.pieces.map Piece.bytes ≠ [] := by
      intro nothing
      exact bytes (by rw [Plan.bytes, List.map_eq_nil_iff.mp nothing]; rfl)
    refine ⟨?_, rfl, handled.untouched (Or.inr shut)⟩
    rw [outcome, asks, Writer.asks_of_closed shut nonempty]
    rfl
  case idle =>
    intro other same bytes accepted
    cases planned.symm.trans same
    have nothing : plan.pieces = [] := by
      by_contra nonempty
      exact Plan.bytes_ne_nil plans.isFilled nonempty bytes
    refine ⟨?_, handled.untouched (Or.inl (by rw [nothing]; rfl))⟩
    rw [outcome, asks, nothing, accepted]
    rfl
  case closed =>
    rw [handled.isClosed, or_iff_left plans.not_closes]

theorem tallied_step {before : Nat × Writer} (found : session.tally? name = some before)
    {step : Step} (kept : ¬step.Makes name) : ∃ after, session.Tallied name step before after := by
  rcases before with ⟨count, device⟩
  cases planned : session.planned name step with
  | some plan => exact (handsOver_step found planned).tallied found planned
  | none =>
      rcases tally?_step_of_not_planned found kept planned with ⟨after, there, spared, closed⟩
      have asks : session.asks name step = [] := by simp only [Session.asks, found, planned]
      have unplanned {plan : Plan} (some : session.planned name step = .some plan) : False := by
        cases planned.symm.trans some
      refine ⟨(count, after), ?_⟩
      constructor
      case reached => exact there
      case closed => exact closed
      case accounts =>
        rw [asks]
        exact .of_spared count spared
      case noted =>
        intro opened
        simp only [asks, Writer.writes, spared.asked, List.map_nil, List.append_nil]
      case refused =>
        intro fault refused
        rw [asks] at refused
        cases refused
      case ended => exact fun plan some => (unplanned some).elim
      case shut => exact fun _ plan some => (unplanned some).elim
      case idle => exact fun plan some => (unplanned some).elim

/-! ## All calls -/

theorem accounts_after {before : Nat × Writer} (found : session.tally? name = some before)
    {steps : List Step} (kept : ∀ step ∈ steps, ¬step.Makes name) :
    ∃ after, (session.after steps).tally? name = some after ∧
      Accounts before (session.allAsks name steps) after ∧
      (after.2.isClosed = true ↔
        before.2.isClosed = true ∨ ∃ step ∈ steps, step.Closes name) := by
  induction steps generalizing session before with
  | nil => exact ⟨before, found, .of_spared before.1 (.refl before.2), by simp⟩
  | cons step rest ih =>
      rw [List.forall_mem_cons] at kept
      rcases tallied_step found kept.1 with ⟨middle, first⟩
      rcases ih first.reached kept.2 with ⟨after, reached, later, final⟩
      refine ⟨after, reached, first.accounts.trans later, ?_⟩
      simp only [final, first.closed, or_assoc, List.mem_cons, exists_eq_or_imp]

/-- A new stream sink has counted nothing. -/
theorem tally?_newSink {given : Option Value} {label own : Option Text} {writer : Writer}
    {policy : SurrogatePolicy}
    (made : (session.newSink name given (.stream label own writer)).outcome = .policy policy) :
    (session.newSink name given (.stream label own writer)).session.tally? name
      = some (0, writer) := by
  cases chosen : ((session.drop name).choosePolicy given).2.result with
  | error fault =>
      simp only [newSink, destination?, chosen] at made
      cases made
  | ok policy =>
      simp only [newSink, destination?, chosen]
      exact tally?_of_object? (object?_setObject_self _ _ _) rfl

/--
The two tallies of a stream sink over any device, which may have been closed, refuse what is beyond
its budget, or keep only the front of each write, and over all calls that leave the sink in place.
The count is the size of all writes that were not refused, and the device has the part of each that
it keeps, in order: all of them and as many bytes as were counted just if none was longer than the
limit. The next call adds the writes that it asks for and that are not refused, and a refusal is how
it ends. Once the device is closed, a call with bytes to write ends so and changes nothing, while an
accepted call without bytes succeeds and does not reach the device.
-/
theorem stream_accounts (start : Session) {given : Option Value} {label own : Option Text}
    {writer : Writer} {policy : SurrogatePolicy}
    (made : (start.step (.newSink name given (.stream label own writer))).outcome = .policy policy)
    {steps : List Step} (kept : ∀ step ∈ steps, ¬step.Makes name) :
    let built := (start.step (.newSink name given (.stream label own writer))).session
    let reached := built.after steps
    let taken := Ask.taken (built.allAsks name steps)
    ∃ count device, reached.tally? name = some (count, device) ∧
      count = (taken.map List.length).sum ∧
      device.kept = writer.kept ++ taken.flatMap writer.part ∧
      (device.kept = writer.kept ++ taken.flatten ↔ writer.Fits taken) ∧
      (device.kept.length = writer.kept.length + count ↔ writer.Fits taken) ∧
      (device.isClosed = true ↔
        writer.isClosed = true ∨ ∃ step ∈ steps, step.Closes name) ∧
      ∀ next : Step, ¬next.Makes name →
        ∃ after, reached.Tallied name next (count, device) after := by
  intro built reached taken
  rcases accounts_after (tally?_newSink made) kept with
      ⟨⟨count, device⟩, found, accounts, closed⟩
  have fits : writer.Fits taken ↔ (taken.flatMap writer.part).length = (taken.map List.length).sum
      := by
    refine ⟨fun fits => ?_, Writer.fits_of_length⟩
    rw [Writer.flatMap_part_of_fits fits, List.length_flatten]
  have same : count = (taken.map List.length).sum := accounts.count.trans (Nat.zero_add _)
  have held : device.kept = writer.kept ++ taken.flatMap writer.part := accounts.kept
  refine ⟨count, device, found, same, held, ?_, ?_, closed, fun next stays =>
    tallied_step found stays⟩
  · rw [held, List.append_cancel_left_eq]
    refine ⟨fun whole => fits.mpr ?_, Writer.flatMap_part_of_fits⟩
    rw [whole, List.length_flatten]
  · rw [fits, held, List.length_append, same]
    exact Nat.add_left_cancel_iff

/-- A device that keeps three bytes of a write and seven in all, closed after it refused a write. -/
theorem stream_accounts_short_device :
    let name := Text.ofString "sink"
    let writer : Writer := { budget := some 7, refusal := .pastEnd, limit := some 3 }
    let given := some (Value.text SurrogatePolicy.replace.name)
    let make := Step.newSink name given (.stream none none writer)
    let abcd := Value.text (Text.ofString "abcd")
    let reached := (({} : Session).step make).session.after
      [.write name (.int32 258), .write name (.string abcd), .flush name, .close name]
    ∃ count device, reached.tally? name = some (count, device) ∧ count = 5 ∧
      device.kept = [0, 0, 1, 4] ∧ device.kept ≠ [0, 0, 1, 2, 4] ∧
      (reached.step (.write name (.byte 1))).outcome = .failed .closed ∧
      (reached.step (.write name (.bytes [] 0 none))).outcome = .done := by
  intro name writer given make abcd reached
  have made : (({} : Session).step make).outcome = .policy .replace := rfl
  have kept : ∀ step ∈ [Step.write name (.int32 258), .write name (.string abcd), .flush name,
      .close name], ¬step.Makes name := by
    simp [Step.Makes]
  rcases stream_accounts {} made kept with
      ⟨count, device, found, counted, held, whole, -, closed, next⟩
  have taken : Ask.taken ((({} : Session).step make).session.allAsks name
      [.write name (.int32 258), .write name (.string abcd), .flush name, .close name])
        = [[0, 0, 1, 2], [4]] := by
    decide +kernel
  rw [taken] at counted held whole
  have shut : device.isClosed = true := closed.mpr (Or.inr ⟨.close name, by simp, rfl⟩)
  rcases next (.write name (.byte 1)) (by simp [Step.Makes]) with ⟨after, refused⟩
  rcases next (.write name (.bytes [] 0 none)) (by simp [Step.Makes]) with ⟨later, idle⟩
  refine ⟨count, device, found, counted, held, ?_, ?_, ?_⟩
  · intro all
    have fits := whole.mp all 3 rfl [0, 0, 1, 2] (by simp)
    exact absurd fits (by decide)
  · exact (refused.shut shut ⟨[.byte 1], none⟩ (by decide +kernel) (List.cons_ne_nil _ _)).1
  · exact (idle.idle ⟨[], none⟩ (by decide +kernel) rfl rfl).1

/--
A stream counts the items that it writes, of which it keeps all bytes; and once it is closed, a
range outside of no bytes is refused, although it is of no bytes too.
-/
theorem stream_miscounts :
    let name := Text.ofString "sink"
    let given := some (Value.text SurrogatePolicy.replace.name)
    let built := (({} : Session).step (.newSink name given (.stream none none {}))).session
    let written := built.writeItems name View.threeWords 0 none
    let closed := (built.step (.close name)).session
    (written.outcome = .done ∧
        ∃ device, written.session.tally? name = some (3, device) ∧ device.kept.length = 12) ∧
      (closed.step (.write name (.bytes [] 5 (some 0)))).outcome
        = .failed (.rangeOutside 5 0 0) := by
  intro name given built written closed
  refine ⟨⟨rfl, _, rfl, ?_⟩, rfl⟩
  decide +kernel

end Session

end IndexWire
