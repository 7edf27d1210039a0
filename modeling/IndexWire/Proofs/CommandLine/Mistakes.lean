import IndexWire.Proofs.CommandLine.Endings

/-!
# Mistaken orders to copy

What a run leaves of the files whose order to copy cannot be carried out as it is. The source, the
destination and what is left out are checked before anything is opened, and so a mistake in them
changes no file. A count is checked by the sink, which has opened the destination by then: a
negative one leaves every other file as it is, and the bytes of a destination that is appended to.
-/

namespace IndexWire

namespace CommandLine

/-- What can be wrong with an order to copy, apart from its count. -/
inductive Mistake (directory : Directory) (order : CopyOrder) : Prop
  | noFile (missing : ∀ location content,
      directory.look order.source ≠ .ok (some (location, .file content)))
  | sameFile {location : Location} {content : Bytes}
      (found : directory.look order.source = .ok (some (location, .file content)))
      (same : directory.look order.destination = .ok (some (location, .file content)))
      (truncates : order.appends = false)
  | skip {location : Location} {content : Bytes}
      (found : directory.look order.source = .ok (some (location, .file content)))
      (outside : ¬(0 ≤ order.skip ∧ order.skip ≤ content.length))

namespace Run

variable {run : Run} {order : CopyOrder} {policy : SurrogatePolicy}

theorem copySource_eq_ok {source : Location} {size : Nat}
    (sourced : run.copySource order = .ok (source, size)) :
    ∃ content, run.directory.look order.source = .ok (some (source, .file content)) ∧
      size = content.length := by
  unfold copySource at sourced
  rcases bind_eq_ok.mp sourced with ⟨found, seen, sourced⟩
  split at sourced
  · cases sourced
    exact ⟨_, seen, rfl⟩
  · cases sourced

/-- What truncates its source does not pass the check of its destination. -/
theorem checkDestination_ne_ok {source : Location} {entry : Entry}
    (truncates : order.appends = false)
    (same : run.directory.look order.destination = .ok (some (source, entry))) :
    run.checkDestination order source ≠ .ok () := by
  simp [checkDestination, truncates, same, bind, Except.bind, throw, throwThe,
    MonadExceptOf.throw]

/-- A mistake is found before anything is opened. -/
theorem planCopy_of_mistake (mistake : Mistake run.directory order) :
    ∃ fault, run.planCopy order = .error fault := by
  cases planned : run.planCopy order with
  | error fault => exact ⟨fault, rfl⟩
  | ok plan =>
      exfalso
      unfold planCopy at planned
      rcases bind_eq_ok.mp planned with ⟨⟨source, size⟩, sourced, planned⟩
      rcases bind_eq_ok.mp planned with ⟨distinct, checked, planned⟩
      rcases bind_eq_ok.mp planned with ⟨skip, skipped, planned⟩
      rcases copySource_eq_ok sourced with ⟨content, seen, rfl⟩
      cases mistake with
      | noFile missing => exact missing source content seen
      | sameFile found same truncates =>
          rw [seen] at found
          cases found
          exact checkDestination_ne_ok truncates same checked
      | skip found outside =>
          rw [seen] at found
          cases found
          simp only [checkSkip, if_neg outside] at skipped
          cases skipped

theorem copy_of_mistake (mistake : Mistake run.directory order) (policy : SurrogatePolicy) :
    ∃ fault, run.copy policy order = .failed run fault := by
  rcases planCopy_of_mistake mistake with ⟨fault, planned⟩
  refine ⟨fault, ?_⟩
  simp only [copy, planned]

/-- A copy whose count is negative has opened its destination, and closes it. -/
theorem copy_of_negative (listening : run.log.IsOpen run.directory) {target : Location}
    {opened : Directory}
    (writable : run.directory.openAppend order.destination = .ok (target, opened))
    (unlogged : ¬run.log.WritesTo target) (right : ¬Mistake run.directory order) {count : Int}
    (given : order.count = some count) (negative : count < 0) (policy : SurrogatePolicy) :
    let copied := run.copy policy order
    copied.fault = some (.negativeCount count) ∧
      Directory.Keeps (run.Touches target) run.directory copied.state.directory ∧
      copied.state.directory.content target = run.baseOf order target := by
  intro copied
  obtain ⟨source, content, found⟩ :
      ∃ source content, run.directory.look order.source = .ok (some (source, .file content)) := by
    by_contra missing
    exact right (.noFile fun source content found => missing ⟨source, content, found⟩)
  have same : source = target → order.appends = true := by
    rintro rfl
    by_contra truncates
    have located := (Directory.openAppend_eq_ok writable).1
    have there := (Directory.look_eq_ok_some_iff.mp found).2
    exact right (.sameFile found (Directory.look_eq_ok_some_iff.mpr ⟨located, there⟩)
      (Bool.eq_false_iff.mpr truncates))
  have inside : 0 ≤ order.skip ∧ order.skip ≤ content.length := by
    by_contra outside
    exact right (.skip found outside)
  rcases planCopy_of_inside found writable same inside with ⟨position, directory, planned, opens⟩
  rw [given, Option.getD_some] at planned
  have refused : (Transfer.ofFiles (run.withDirectory directory).store policy order.destination.text
      { location := target, position } source order.skip.toNat).copy count
      = .failed (Transfer.ofFiles (run.withDirectory directory).store policy order.destination.text
          { location := target, position } source order.skip.toNat) (.negativeCount count) :=
    if_pos negative
  rcases @closeSink_of_took run listening order source target content position directory opens
    unlogged policy order.destination.text order.skip.toNat count []
    (by simp only [refused]; exact Destination.Took.nil opens.sound) with ⟨-, -, kept, held⟩
  have ended := copy_of_plan planned policy
  simp only [refused, Attempt.failed] at ended kept held
  rw [show copied = _ from ended]
  rw [List.append_nil] at held
  exact ⟨rfl, kept, Directory.content_of_entry held⟩

end Run

section Command

variable {surroundings : Surroundings} {stamp : Log.Stamp} {ready : Run} {settings : Settings}

/-- Setting up a run makes no file but those that its log writes to. -/
theorem makesOnly_prepare {logLevel : Option Text}
    (configured : (Run.start surroundings stamp).prepare surroundings.environment logLevel
      = (ready, .ok settings)) :
    Directory.MakesOnly ready.log.WritesTo surroundings.directory ready.directory := by
  rw [prepare_start] at configured
  split at configured
  · cases configured
  · rename_i loaded found
    simp only [Prod.mk.injEq] at configured
    rcases configured with ⟨rfl, -⟩
    exact Log.makesOnly_setup _ _ _

/--
A run whose order to copy has a mistake fails and tells of it, and nothing has been done to the
files but to set up the log; that changes no file that is there, and makes none but the log's. A run
whose order has a negative count fails and tells of it as well. Then no file has changed that is not
the destination or the log's, and no byte of the destination if it was to be appended to.
-/
theorem mistaken_copy_keeps_files {arguments : List Text} {invocation : Invocation}
    {order : CopyOrder} (read : Invocation.read arguments = .ok invocation)
    (topic : invocation.topic = .copy) (ordered : CopyOrder.read invocation.arguments = .ok order)
    (configured : (Run.start surroundings stamp).prepare surroundings.environment
      invocation.logLevel = (ready, .ok settings)) :
    let outcome := run surroundings stamp arguments
    Directory.Keeps (fun _ => False) surroundings.directory ready.directory ∧
      Directory.MakesOnly ready.log.WritesTo surroundings.directory ready.directory ∧
      (Mistake ready.directory order →
        outcome.ending = .exit 1 ∧ (∃ fault, outcome.Tells fault) ∧
          outcome.directory = ready.directory) ∧
      ∀ count ∈ order.count, count < 0 → ∀ target opened,
        ready.directory.openAppend order.destination = .ok (target, opened) →
        ¬ready.log.WritesTo target →
        outcome.ending = .exit 1 ∧ (∃ fault, outcome.Tells fault) ∧
          Directory.Keeps (ready.Touches target) ready.directory outcome.directory ∧
          (order.appends = true →
            outcome.directory.content target = ready.directory.content target) := by
  intro outcome
  rcases Run.prepare_eq_ok (Log.isOpen_of_no_handlers rfl _) configured with
      ⟨-, listening, kept, -⟩
  rcases run_of_copy read topic ordered configured with ⟨policy, -, carried⟩
  have fails {fault : Fault} (failed : (ready.copy policy order).fault = some fault) :
      outcome.ending = .exit 1 ∧ (∃ fault, outcome.Tells fault) ∧
        outcome.directory = (ready.copy policy order).state.directory := by
    have told : ∀ fault, (ready.copy policy order).fault = some fault → IsTold fault :=
      fun fault => Run.isTold_of_copy
    have ends := endsWith_finish told
    rw [failed, ← carried] at ends
    refine ⟨ends.1, ⟨fault, ends.2⟩, ?_⟩
    rw [show outcome = _ from carried]
    exact directory_finish _
  have mistaken (mistake : Mistake ready.directory order) :
      outcome.ending = .exit 1 ∧ (∃ fault, outcome.Tells fault) ∧
        outcome.directory = ready.directory := by
    rcases Run.copy_of_mistake mistake policy with ⟨fault, refused⟩
    have ended := fails (congrArg Attempt.fault refused)
    rw [refused] at ended
    exact ended
  refine ⟨kept.mono ?_, makesOnly_prepare configured, mistaken, ?_⟩
  · rintro location ⟨number, format, mem⟩
    cases mem
  · intro count given negative target opened writable unlogged
    by_cases mistake : Mistake ready.directory order
    · rcases mistaken mistake with ⟨ending, tells, same⟩
      rw [same]
      exact ⟨ending, tells, Directory.Keeps.refl _ _, fun _ => rfl⟩
    · rcases Run.copy_of_negative listening writable unlogged mistake given negative policy with
        ⟨refused, others, held⟩
      rcases fails refused with ⟨ending, tells, same⟩
      rw [same]
      refine ⟨ending, tells, others, fun appends => ?_⟩
      rw [held, Run.baseOf, if_pos appends]

end Command

/-- A file that is copied onto itself is what it was. -/
theorem mistaken_copy_keeps_files_same_file :
    let path := Path.ofText (Text.ofString "a")
    let surroundings :=
      plainSurroundings { entries := [([Text.ofString "a"], .file [1, 2, 3])] }
    let outcome := run surroundings ⟨[], []⟩ (["copy", "a", "a"].map Text.ofString)
    outcome.ending = .exit 1 ∧
      outcome.directory.look path = .ok (some ([Text.ofString "a"], .file [1, 2, 3])) := by
  intro path surroundings outcome
  let order : CopyOrder := ⟨path, path, 0, none, false⟩
  let start := Run.start surroundings ⟨[], []⟩
  have settled : (start.prepare surroundings.environment none).2 = .ok {} := by rfl
  have configured : start.prepare surroundings.environment none
      = ((start.prepare surroundings.environment none).1, .ok {}) := Prod.ext rfl settled
  have found : (start.prepare surroundings.environment none).1.directory.look path
      = .ok (some ([Text.ofString "a"], .file [1, 2, 3])) := by rfl
  have refused := @mistaken_copy_keeps_files surroundings ⟨[], []⟩ _ {}
    (["copy", "a", "a"].map Text.ofString) ⟨none, .copy, ["a", "a"].map Text.ofString⟩ order
    (by rfl) rfl (by rfl) configured
  rcases refused.2.2.1 (.sameFile found found rfl) with ⟨ending, -, same⟩
  refine ⟨ending, ?_⟩
  rw [show outcome.directory = _ from same]
  exact found

/-- A negative count is refused when the destination has been emptied already. -/
theorem negative_count_empties_destination :
    let surroundings :=
      plainSurroundings
        { entries :=
            [([Text.ofString "a"], .file [1, 2, 3]), ([Text.ofString "b"], .file [7, 8])] }
    let outcome := run surroundings ⟨[], []⟩ (["copy", "a", "b", "--count=-1"].map Text.ofString)
    outcome.ending = .exit 1 ∧
      surroundings.directory.content [Text.ofString "b"] = [7, 8] ∧
      outcome.directory.content [Text.ofString "b"] = [] := by
  intro surroundings outcome
  exact ⟨by decide +kernel, by decide +kernel, by decide +kernel⟩

end CommandLine

end IndexWire
