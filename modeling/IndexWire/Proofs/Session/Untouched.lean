import IndexWire.Proofs.Session.Reuse

/-!
# Objects that a step leaves alone

A step changes the object that it makes or calls, and a copy also its source; every other object is
afterwards as it was before. Where a sink is made once, the steps that are left to look at are those
on the sink itself.
-/

namespace IndexWire

namespace Session

/-- Whether a step may change the object of a name. -/
def Step.Touches (name : Text) : Step → Prop
  | .newBuffer made _ | .newSink made _ _ | .newMemorySource made _ _
  | .newStreamSource made _ _ => name = made
  | .write target _ | .writeBytes target _ _ _ | .reset target _ => name = target
  | .flush target | .close target | .enter target | .leave target => name = target
  | .copy target source _ => name = target ∨ name = source
  | .readByte source | .readBytes source _ _ _ => name = source
  | _ => False

/-- Whether a step is a call of the sink of a name. -/
def Step.Calls (name : Text) : Step → Prop
  | .write target _ | .writeBytes target _ _ _ | .copy target _ _ | .reset target _ => name = target
  | .flush target | .close target | .enter target | .leave target => name = target
  | _ => False

variable {session : Session} {name other : Text}

theorem object?_write_of_ne (different : name ≠ other) (session : Session) (request : Request) :
    (session.write other request).session.object? name = session.object? name := by
  unfold write
  split
  · exact object?_setObject_of_ne different _ _
  · rw [session_lacking]

theorem object?_copy_of_ne {source : Text} (different : name ≠ other) (apart : name ≠ source)
    (session : Session) (count : Int) :
    (session.copy other source count).session.object? name = session.object? name := by
  unfold copy
  split
  · simp only [copyFrom, object?_setObject_of_ne apart, object?_setObject_of_ne different]
    rfl
  · simp only [copyFromOther]
    split <;> exact object?_setObject_of_ne different _ _
  · rfl
  · rw [session_lacking]

theorem object?_reset_of_ne (different : name ≠ other) (session : Session)
    (offset : Option (Option Int)) :
    (session.reset other offset).session.object? name = session.object? name := by
  unfold reset
  split
  · simp only
    split
    · exact object?_setObject_of_ne different _ _
    · rfl
    · split
      · exact object?_setObject_of_ne different _ _
      · rfl
    · rw [session_lacking]
  · rw [session_lacking]

theorem object?_onStream_of_ne (different : name ≠ other) (session : Session) (method : String)
    (call : Stream → Store → Attempt (Store × Stream)) :
    (session.onStream other method call).session.object? name = session.object? name := by
  unfold onStream
  split
  · split
    · exact object?_setObject_of_ne different _ _
    · rw [session_lacking]
  · rw [session_lacking]

theorem object?_newSink_of_ne (different : name ≠ other) (session : Session)
    (policy : Option Value) (target : Target) :
    (session.newSink other policy target).session.object? name = session.object? name := by
  have dropped := object?_drop_of_ne different session
  have chosen : ((session.drop other).choosePolicy policy).1.object? name
      = session.object? name := by
    cases policy <;> exact dropped
  unfold newSink
  simp only
  split
  · exact dropped
  · split
    · exact chosen
    · exact chosen
    · rw [object?_setObject_of_ne different]
      exact chosen

theorem object?_step_of_untouched {step : Step} (untouched : ¬step.Touches name)
    (session : Session) : (session.step step).session.object? name = session.object? name := by
  cases place : step.isAround with
  | true =>
      exact object?_congr (congrArg (fun answer : Answer => answer.session.objects)
        (step_around place session session.objects)) name
  | false =>
      cases step with
      | write target request => exact object?_write_of_ne untouched session request
      | writeBytes target data offset length =>
          simp only [step, writeBytes]
          split
          · rw [session_refused]
          · exact object?_write_of_ne untouched session _
          · exact object?_write_of_ne untouched { session with store := _ } _
      | copy target source count =>
          rcases not_or.mp untouched with ⟨different, apart⟩
          exact object?_copy_of_ne different apart session count
      | reset target offset => exact object?_reset_of_ne untouched session offset
      | flush target => exact object?_onStream_of_ne untouched session _ _
      | close target => exact object?_onStream_of_ne untouched session _ _
      | leave target => exact object?_onStream_of_ne untouched session _ _
      | enter target =>
          have entered := object?_onStream_of_ne untouched session "__enter__"
            fun stream store => { state := (store, stream) }
          simp only [Session.step]
          split <;> exact entered
      | newSink made policy target =>
          exact object?_newSink_of_ne untouched session policy target
      | newBuffer made data =>
          have dropped := object?_drop_of_ne untouched session
          simp only [step]
          split
          · exact dropped
          · rw [object?_setObject_of_ne untouched]
            exact dropped
      | newMemorySource made data offset =>
          have dropped := object?_drop_of_ne untouched session
          simp only [step, newMemorySource]
          split
          · exact dropped
          · exact dropped
          · split
            · exact dropped
            · rw [setSource, object?_setObject_of_ne untouched]
              exact dropped
      | newStreamSource made data reader =>
          have dropped := object?_drop_of_ne untouched session
          simp only [step, newStreamSource]
          split
          · exact dropped
          · rw [setSource, object?_setObject_of_ne untouched]
            exact dropped
      | readByte source =>
          simp only [step, readByte]
          split
          · split
            · exact object?_setObject_of_ne untouched _ _
            · rfl
          · rw [session_lacking]
      | readBytes source buffer offset length =>
          simp only [step, readBytes]
          split
          · exact object?_setObject_of_ne untouched _ _
          · rfl
          · rfl
          · rw [session_lacking]
      | _ => cases place

/-- A sink is only changed by calls of it, and goes only if a new object takes its name. -/
theorem object?_step_of_sink {sink : Sink} (found : session.object? name = some (.sink sink))
    {step : Step} (kept : ¬step.Makes name) (others : ¬step.Calls name) :
    (session.step step).session.object? name = some (.sink sink) := by
  by_cases touched : step.Touches name
  · cases step with
    | newBuffer made data => exact absurd touched.symm kept
    | newSink made policy target => exact absurd touched.symm kept
    | newMemorySource made data offset => exact absurd touched.symm kept
    | newStreamSource made data reader => exact absurd touched.symm kept
    | copy target source count =>
        obtain rfl : name = source := touched.resolve_left others
        simp only [step, copy, found]
        split
        · rename_i mismatch
          cases mismatch
        · simp only [copyFromOther]
          split <;> exact (object?_setObject_of_ne others _ _).trans found
        · exact found
        · rw [session_lacking]
          exact found
    | readByte source =>
        obtain rfl : name = source := touched
        simp only [step, readByte, found, session_lacking]
    | readBytes source buffer offset length =>
        obtain rfl : name = source := touched
        simp only [step, readBytes, found, session_lacking]
    | _ => exact absurd touched others
  · rw [object?_step_of_untouched touched, found]

end Session

end IndexWire
