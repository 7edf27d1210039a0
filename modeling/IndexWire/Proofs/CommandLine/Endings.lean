import IndexWire.Proofs.CommandLine.Copying
import IndexWire.Proofs.CommandLine.Encoding

/-!
# How runs end

A run that has its settings and its log succeeds, or tells why it does not: each fault that a
command can come to is one that is told. Before that nothing is told. A fault of the settings, or of
the log that is set up with them, ends the run as it is.
-/

namespace IndexWire

namespace CommandLine

section Files

variable {directory : Directory} {path : Path} {fault : Fault}

theorem isExpected_of_look (failed : directory.look path = .error fault) : IsExpected fault := by
  unfold Directory.look at failed
  split at failed
  · cases failed
  · cases failed
    exact Or.inr (Or.inr rfl)
  · cases failed

theorem isExpected_of_openTruncate (failed : directory.openTruncate path = .error fault) :
    IsExpected fault := by
  unfold Directory.openTruncate at failed
  rcases bind_eq_error.mp failed with unlocated | ⟨location, located, failed⟩
  · exact isExpected_of_locate unlocated
  · split at failed
    · cases failed
      exact Or.inr (Or.inr rfl)
    · cases failed

end Files

namespace Run

variable {run : Run} {policy : SurrogatePolicy} {fault : Fault}

theorem isExpected_of_print {line : Text} (failed : (run.print line).fault = some fault) :
    IsExpected fault := by
  unfold print encodeText at failed
  cases encoded : Utf8.encode .strict (line.withoutEscapes ++ Text.ofString "\n") with
  | ok bytes => simp [encoded, Except.mapError] at failed
  | error first =>
      simp only [encoded, Except.mapError] at failed
      cases failed
      exact Or.inl rfl

/-- Every fault that an order to encode comes to is told. -/
theorem isExpected_of_encode {order : EncodeOrder}
    (failed : (run.encode policy order).fault = some fault) : IsExpected fault := by
  cases requested : order.payload.request with
  | error other =>
      simp only [encode, requested] at failed
      cases failed
      exact isExpected_of_payload requested
  | ok request =>
      cases out : order.out with
      | none =>
          simp only [encode, requested, out] at failed
          cases planned : (request.plan policy).fault with
          | some other =>
              rw [encodeShown_of_fault _ _ planned] at failed
              cases failed
              exact isExpected_of_plan planned
          | none =>
              rw [encodeShown_of_accepted _ _ planned] at failed
              exact isExpected_of_print failed
      | some path =>
          simp only [encode, requested, out] at failed
          cases writable : run.directory.openAppend path with
          | error other =>
              simp only [encodeToFile, writable] at failed
              cases failed
              exact isExpected_of_openAppend writable
          | ok found =>
              rw [encodeToFile_eq writable] at failed
              cases planned : (request.plan policy).fault with
              | some other =>
                  simp only [planned] at failed
                  cases failed
                  exact isExpected_of_plan planned
              | none =>
                  simp only [planned] at failed
                  exact isExpected_of_print failed

section Copying

variable {order : CopyOrder}

theorem isExpected_of_copySource (failed : run.copySource order = .error fault) :
    IsExpected fault := by
  unfold copySource at failed
  rcases bind_eq_error.mp failed with unseen | ⟨found, seen, failed⟩
  · exact isExpected_of_look unseen
  · split at failed
    · cases failed
    · cases failed
      exact Or.inl rfl

theorem isExpected_of_checkDestination {source : Location}
    (failed : run.checkDestination order source = .error fault) : IsExpected fault := by
  unfold checkDestination at failed
  split at failed
  · rcases bind_eq_error.mp failed with unseen | ⟨found, seen, failed⟩
    · exact isExpected_of_look unseen
    · split at failed
      · cases failed
        exact Or.inl rfl
      · cases failed
  · cases failed

theorem isExpected_of_checkSkip {size : Nat} (failed : checkSkip order size = .error fault) :
    IsExpected fault := by
  unfold checkSkip at failed
  split at failed
  · cases failed
  · cases failed
    exact Or.inl rfl

theorem isExpected_of_openDestination (failed : run.openDestination order = .error fault) :
    IsExpected fault := by
  unfold openDestination at failed
  split at failed
  · exact isExpected_of_openAppend (map_eq_error.mp failed)
  · exact isExpected_of_openTruncate (map_eq_error.mp failed)

theorem isExpected_of_planCopy (failed : run.planCopy order = .error fault) :
    IsExpected fault := by
  unfold planCopy at failed
  rcases bind_eq_error.mp failed with sourceless | ⟨⟨source, size⟩, sourced, failed⟩
  · exact isExpected_of_copySource sourceless
  rcases bind_eq_error.mp failed with same | ⟨distinct, checked, failed⟩
  · exact isExpected_of_checkDestination same
  rcases bind_eq_error.mp failed with outside | ⟨skip, inside, failed⟩
  · exact isExpected_of_checkSkip outside
  rcases bind_eq_error.mp failed with unopened | ⟨⟨destination, directory⟩, opened, failed⟩
  · exact isExpected_of_openDestination unopened
  · cases failed

/-- The destination of a copy is ready to take bytes. -/
theorem isSound_of_planCopy {plan : CopyPlan} (planned : run.planCopy order = .ok plan) :
    plan.destination.IsSound (run.withDirectory plan.directory).store ∧
      plan.destination.isClosed = false := by
  unfold planCopy at planned
  rcases bind_eq_ok.mp planned with ⟨⟨source, size⟩, sourced, planned⟩
  rcases bind_eq_ok.mp planned with ⟨distinct, checked, planned⟩
  rcases bind_eq_ok.mp planned with ⟨skip, inside, planned⟩
  rcases bind_eq_ok.mp planned with ⟨⟨destination, directory⟩, opened, planned⟩
  cases planned
  unfold openDestination at opened
  split at opened
  · rcases map_eq_ok.mp opened with ⟨⟨location, after⟩, writable, same⟩
    cases same
    have made := (Directory.openAppend_eq_ok writable).2.2.1
    exact ⟨FileWriter.isSound_of_below made.below (by simp), rfl⟩
  · rcases map_eq_ok.mp opened with ⟨⟨location, after⟩, truncated, same⟩
    cases same
    have made := Directory.isFile_of_openTruncate truncated
    exact ⟨FileWriter.isSound_of_below made.below (by simp), rfl⟩

/-- Every fault that an order to copy comes to is told. -/
theorem isTold_of_copy (failed : (run.copy policy order).fault = some fault) : IsTold fault := by
  cases planned : run.planCopy order with
  | error other =>
      simp only [copy, planned] at failed
      cases failed
      exact (isExpected_of_planCopy planned).isTold
  | ok plan =>
      rcases isSound_of_planCopy planned with ⟨sound, opened⟩
      rw [copy_of_plan planned policy] at failed
      split at failed
      · rename_i other ended
        cases failed
        rcases Transfer.copy_ofFiles_of_fault sound opened ended with rfl | ⟨given, wanted, rfl⟩
        · exact ⟨_, rfl⟩
        · exact ⟨_, rfl⟩
      · exact (isExpected_of_print failed).isTold

end Copying

theorem isTold_of_carryOut {command : Command}
    (failed : (run.carryOut policy command).fault = some fault) : IsTold fault := by
  cases command with
  | encode order => exact (isExpected_of_encode failed).isTold
  | copy order => exact isTold_of_copy failed

end Run

/--
What keeps a program from being set up: its settings cannot be loaded, or no log can be set up with
them.
-/
def Surroundings.obstacle? (surroundings : Surroundings) (logLevel : Option Text) : Option Fault :=
  match (Settings.load surroundings.directory surroundings.environment none).result with
  | .error fault => some fault
  | .ok settings =>
    match (Log.setup { level := surroundings.level } surroundings.directory
      (Run.overrideLevel settings logLevel)).result with
    | .error fault => some fault
    | .ok _ => none

/-- A run whose settings have been loaded, whatever has come of that. -/
def Run.loading (surroundings : Surroundings) (stamp : Log.Stamp) : Run :=
  (Run.start surroundings stamp).notify
    (Settings.load surroundings.directory surroundings.environment none).notices

section Preparing

variable {surroundings : Surroundings} {stamp : Log.Stamp} {logLevel : Option Text}

theorem directory_loading :
    (Run.loading surroundings stamp).directory = surroundings.directory :=
  @Log.directory_emitAll_of_no_handlers { level := surroundings.level } rfl stamp _
    { directory := surroundings.directory }

theorem prepare_start :
    (Run.start surroundings stamp).prepare surroundings.environment logLevel
      = match (Settings.load surroundings.directory surroundings.environment none).result with
        | .error fault => (Run.loading surroundings stamp, .error fault)
        | .ok settings =>
          let settings := Run.overrideLevel settings logLevel
          let setup := Log.setup { level := surroundings.level } surroundings.directory settings
          ({ (Run.loading surroundings stamp).withDirectory setup.directory with log := setup.log },
            setup.result.map fun _ => settings) := by
  have same (settings : Settings) :
      (Run.loading surroundings stamp).log.setup (Run.loading surroundings stamp).directory settings
        = Log.setup { level := surroundings.level } surroundings.directory settings := by
    rw [directory_loading]
    rfl
  simp only [← same]
  rfl

/-- A program that cannot be set up has told what was reported of its settings, and nothing else. -/
theorem prepare_of_obstacle {fault : Fault}
    (obstacle : surroundings.obstacle? logLevel = some fault) :
    ∃ failed,
      (Run.start surroundings stamp).prepare surroundings.environment logLevel
        = (failed, .error fault) ∧
      failed.stdout = [] ∧ failed.stderr = (Run.loading surroundings stamp).stderr := by
  have prepared := @prepare_start surroundings stamp logLevel
  unfold Surroundings.obstacle? at obstacle
  cases loaded : (Settings.load surroundings.directory surroundings.environment none).result with
  | error other =>
      simp only [loaded] at obstacle prepared
      cases obstacle
      exact ⟨_, prepared, rfl, rfl⟩
  | ok settings =>
      simp only [loaded] at obstacle prepared
      split at obstacle
      · rename_i other made
        cases obstacle
        rw [made] at prepared
        exact ⟨_, prepared, rfl, rfl⟩
      · cases obstacle

/-- A program that can be set up has its settings, and a log. -/
theorem prepare_of_no_obstacle (clear : surroundings.obstacle? logLevel = none) :
    ∃ ready settings,
      (Run.start surroundings stamp).prepare surroundings.environment logLevel
        = (ready, .ok settings) := by
  have prepared := @prepare_start surroundings stamp logLevel
  unfold Surroundings.obstacle? at clear
  cases loaded : (Settings.load surroundings.directory surroundings.environment none).result with
  | error other => simp only [loaded, reduceCtorEq] at clear
  | ok settings =>
      simp only [loaded] at clear prepared
      split at clear
      · cases clear
      · rename_i handler made
        rw [made] at prepared
        exact ⟨_, _, prepared⟩

end Preparing

/-- Whether the error stream ends in a line that tells of a fault. -/
def Outcome.Tells (outcome : Outcome) (fault : Fault) : Prop :=
  ∃ text logged, Run.complaint? fault = some text ∧
    outcome.stderr = logged ++ (Text.ofString "Error: "
      ++ text.withoutEscapes.withSurrogatesSpelled ++ Text.ofString "\n")

/-- Whether a run ends as is due to the fault of its command, or to its success. -/
def Outcome.EndsWith (outcome : Outcome) : Option Fault → Prop
  | none => outcome.ending = .exit 0
  | some fault => outcome.ending = .exit 1 ∧ outcome.Tells fault

theorem endsWith_finish {attempt : Attempt Run}
    (told : ∀ fault, attempt.fault = some fault → IsTold fault) :
    (Run.finish attempt).EndsWith attempt.fault := by
  cases failed : attempt.fault with
  | none => rw [finish_of_success failed]; rfl
  | some fault =>
      rcases told fault failed with ⟨text, complaint⟩
      have plain : ∀ point ∈ Text.ofString "Error: ", point.value ≠ 0x1B := by decide
      rw [finish_of_complaint failed complaint]
      refine ⟨rfl, text, attempt.state.stderr.withSurrogatesSpelled, complaint, ?_⟩
      simp only [Run.outcome, Run.complain, Text.withoutEscapes_append plain,
        Text.withSurrogatesSpelled, List.flatMap_append, List.append_assoc]
      rfl

/--
A run whose arguments make a command. If its settings can be loaded, and its log set up with them,
it carries the command out; it succeeds where the command does, and otherwise fails and tells of the
fault that the command came to. If not, the fault ends the run as it is. It has then printed nothing
and told nothing but what was reported of the settings.
-/
theorem run_ends_cleanly_once_set_up {surroundings : Surroundings} {stamp : Log.Stamp}
    {arguments : List Text} {invocation : Invocation} {command : Command}
    (read : Invocation.read arguments = .ok invocation)
    (ordered : Command.read invocation.topic invocation.arguments = .ok command) :
    let prepared := (Run.start surroundings stamp).prepare surroundings.environment
      invocation.logLevel
    let outcome := run surroundings stamp arguments
    (surroundings.obstacle? invocation.logLevel = none →
      ∃ ready settings policy, prepared = (ready, .ok settings) ∧
        SurrogatePolicy.ofValue settings.surrogatePolicy = .ok policy ∧
        outcome.EndsWith (ready.carryOut policy command).fault) ∧
    ∀ fault, surroundings.obstacle? invocation.logLevel = some fault →
      outcome.ending = .fault fault ∧ outcome.stdout = [] ∧
        outcome.stderr = (Run.loading surroundings stamp).stderr.withSurrogatesSpelled := by
  intro prepared outcome
  constructor
  · intro clear
    rcases @prepare_of_no_obstacle _ stamp _ clear with ⟨ready, settings, configured⟩
    rcases (Run.prepare_eq_ok (Log.isOpen_of_no_handlers rfl _) configured).2.2.2 with
        ⟨policy, named⟩
    refine ⟨ready, settings, policy, configured, named, ?_⟩
    rw [show outcome = _ from run_of_command read ordered configured named]
    exact endsWith_finish fun fault failed => Run.isTold_of_carryOut failed
  · intro fault obstacle
    rcases @prepare_of_obstacle _ stamp _ _ obstacle with ⟨failed, configured, stdout, stderr⟩
    have ended : outcome = failed.outcome (.fault fault) := by
      simp only [outcome, run, read, configured]
    rw [ended]
    exact ⟨rfl, stdout, congrArg Text.withSurrogatesSpelled stderr⟩

/-- A number that is too large for its form is a failure of the command, and is told. -/
theorem run_ends_cleanly_once_set_up_out_of_width :
    let arguments := ["encode", "int16", "70000"].map Text.ofString
    let outcome := run (plainSurroundings {}) ⟨[], []⟩ arguments
    outcome.ending = .exit 1 ∧ outcome.Tells (.outOfWidth 70000 16) := by
  intro arguments outcome
  have ended := @run_ends_cleanly_once_set_up (plainSurroundings {}) ⟨[], []⟩ arguments
    ⟨none, .encode, ["int16", "70000"].map Text.ofString⟩
    (.encode ⟨.number .int16 70000, none, Text.ofString " "⟩) (by rfl) (by rfl)
  rcases ended.1 (by rfl) with ⟨ready, settings, policy, configured, named, ends⟩
  have failed : (ready.carryOut policy
      (.encode ⟨.number .int16 70000, none, Text.ofString " "⟩)).fault
      = some (.outOfWidth 70000 16) := rfl
  rw [failed] at ends
  exact ends

/-- A policy that there is not is a fault that commands tell, and ends the run untold. -/
theorem unknown_policy_untold :
    let surroundings : Surroundings :=
      { environment :=
          { entries := [(Text.ofString "BYTESINK_SURROGATE_POLICY", Text.ofString "keep")]
            startHome := some .root } }
    let arguments := ["encode", "int16", "1"].map Text.ofString
    let fault : Fault := .unknownPolicy (Text.ofString "'keep'")
    let outcome := run surroundings ⟨[], []⟩ arguments
    (∃ invocation command, Invocation.read arguments = .ok invocation ∧
      Command.read invocation.topic invocation.arguments = .ok command) ∧
    outcome.ending = .fault fault ∧ outcome.stderr = [] ∧ IsTold fault ∧
    ∀ fault?, ¬outcome.EndsWith fault? := by
  intro surroundings arguments fault outcome
  have ending : outcome.ending = .fault fault := by rfl
  refine ⟨⟨⟨none, .encode, ["int16", "1"].map Text.ofString⟩,
    .encode ⟨.number .int16 1, none, Text.ofString " "⟩, by rfl, by rfl⟩, ending, by rfl,
    ⟨_, rfl⟩, ?_⟩
  rintro (none | told) ends
  · rw [Outcome.EndsWith, ending] at ends
    cases ends
  · rw [Outcome.EndsWith, ending] at ends
    cases ends.1

end CommandLine

end IndexWire
