import IndexWire.CommandLine.Run
import IndexWire.Proofs.Log.Keeping
import IndexWire.Proofs.Sink.FileCopy

/-!
# Steps of a run

What a run owes to its log: handing records to it changes the files of the log and the error stream,
and nothing else. Loading the settings and setting up the log leaves everything as it was that was
there, and the settings that come of it name a policy. A file that has been written to holds what it
took once its sink is closed, whatever is logged before and after that.
-/

namespace IndexWire

namespace Text

theorem isClean_withoutEscapesFrom (hidden : Nat) {text : Text} (clean : text.IsClean) :
    (withoutEscapesFrom hidden text).IsClean := by
  fun_induction withoutEscapesFrom hidden text with
  | case1 hidden => exact clean
  | case2 hidden point rest ih => exact ih fun other mem => clean other (by simp [mem])
  | case3 point rest none ih =>
      intro other mem
      rcases List.mem_cons.mp mem with rfl | later
      · exact clean other (by simp)
      · exact ih (fun each mem => clean each (by simp [mem])) other later
  | case4 point rest length found ih => exact ih fun other mem => clean other (by simp [mem])

theorem IsClean.withoutEscapes {text : Text} (clean : text.IsClean) :
    text.withoutEscapes.IsClean :=
  isClean_withoutEscapesFrom 0 clean

end Text

namespace Settings

/-- Settings that have been loaded name a policy. -/
theorem exists_policy_of_load {directory : Directory} {environment : Environment}
    {path : Option Path} {settings : Settings}
    (loaded : (load directory environment path).result = .ok settings) :
    ∃ policy, SurrogatePolicy.ofValue settings.surrogatePolicy = .ok policy := by
  have checked : ∀ layers : Settings, layers.checked = .ok settings →
      ∃ policy, SurrogatePolicy.ofValue settings.surrogatePolicy = .ok policy := by
    intro layers valid
    unfold Settings.checked at valid
    cases named : SurrogatePolicy.ofValue layers.surrogatePolicy with
    | error fault => simp [named, Except.map] at valid
    | ok policy =>
        simp only [named, Except.map, Except.ok.injEq] at valid
        subst valid
        exact ⟨policy, named⟩
  have ofDocument : ∀ place origin document,
      (ofDocument environment place origin document).result = .ok settings →
        ∃ policy, SurrogatePolicy.ofValue settings.surrogatePolicy = .ok policy := by
    intro place origin document read
    unfold Settings.ofDocument at read
    split at read
    · cases read
    · simp only at read
      split at read
      · cases read
      · rename_i valid
        cases read
        exact checked _ valid
  unfold load loadWith at loaded
  split at loaded
  · cases loaded
  · split at loaded
    · cases loaded
    · exact ofDocument _ _ _ loaded
    · exact ofDocument _ _ _ loaded

end Settings

namespace CommandLine

namespace Run

/-- A run after records have been handed to its log. -/
structure Logs (before after : Run) : Prop where
  log : after.log = before.log
  stdout : after.stdout = before.stdout
  directory : Directory.Keeps before.log.WritesTo before.directory after.directory

variable {run : Run}

theorem logs_emit (listening : run.log.IsOpen run.directory) (records : List Log.Record) :
    run.Logs (run.emit records) where
  log := rfl
  stdout := rfl
  directory := @Log.keeps_emitAll run.log run.stamp records { directory := run.directory } listening

theorem logs_notify (listening : run.log.IsOpen run.directory) (notices : List Notice) :
    run.Logs (run.notify notices) :=
  logs_emit listening _

theorem logs_inform (listening : run.log.IsOpen run.directory) (logger event : String)
    (fields : List (String × Value)) : run.Logs (run.inform logger event fields) :=
  logs_emit listening _

/-- A line without surrogates is printed without its escape sequences. -/
theorem print_of_isClean (run : Run) {line : Text} (clean : line.IsClean) :
    run.print line
      = { state := { run with
            stdout := run.stdout ++ (line.withoutEscapes ++ Text.ofString "\n") } } := by
  have ended : (line.withoutEscapes ++ Text.ofString "\n").IsClean :=
    clean.withoutEscapes.append (Text.isClean_ofString "\n")
  simp only [print, encodeText, Utf8.encode_strict_of_isClean ended]
  rfl

theorem surrogatePolicy_overrideLevel (settings : Settings) (logLevel : Option Text) :
    (overrideLevel settings logLevel).surrogatePolicy = settings.surrogatePolicy := by
  unfold overrideLevel
  split <;> rfl

/-- A run that is ready has its settings, and a log whose files are there. -/
theorem prepare_eq_ok {environment : Environment} {logLevel : Option Text} {ready : Run}
    {settings : Settings} (listening : run.log.IsOpen run.directory)
    (prepared : run.prepare environment logLevel = (ready, .ok settings)) :
    ready.stdout = run.stdout ∧ ready.log.IsOpen ready.directory ∧
      Directory.Keeps run.log.WritesTo run.directory ready.directory ∧
      ∃ policy, SurrogatePolicy.ofValue settings.surrogatePolicy = .ok policy := by
  unfold prepare at prepared
  simp only at prepared
  split at prepared
  · cases prepared
  · rename_i loaded found
    have noticed := logs_notify listening
      (Settings.load run.directory environment none).notices
    have setup := Log.keeps_setup (listening.of_keeps noticed.directory)
      (overrideLevel loaded logLevel)
    rw [Prod.mk.injEq] at prepared
    rcases prepared with ⟨rfl, outcome⟩
    refine ⟨noticed.stdout, setup.2,
      noticed.directory.trans (setup.1.mono fun location never => never.elim), ?_⟩
    cases made : (Log.setup (run.notify _).log _ (overrideLevel loaded logLevel)).result with
    | error fault =>
        rw [made] at outcome
        cases outcome
    | ok handler =>
        rw [made] at outcome
        cases outcome
        rw [surrogatePolicy_overrideLevel]
        exact Settings.exists_policy_of_load found

/-- What a run may change that writes to a file. -/
def Touches (run : Run) (target : Location) (location : Location) : Prop :=
  location = target ∨ run.log.WritesTo location

/-- Once the sink of a file is closed, the file holds what it was to hold. -/
theorem closeSink_of_writes (listening : run.log.IsOpen run.directory) {source target : Location}
    (unlogged : ¬run.log.WritesTo target) {store : Store} {sink : Sink} {memory : Memory}
    (writes : sink.destination.WritesFile run.directory source target store)
    (whole : sink.destination.IsWhole store)
    (contents : sink.destination.contents store = some memory) (notices : List Notice) :
    let closed := ({ run with store }.notify notices).closeSink sink
    closed.log = run.log ∧ closed.stdout = run.stdout ∧
      Directory.Keeps (run.Touches target) run.directory closed.directory ∧
      closed.directory.entry? target = some (.file memory.buffer) := by
  intro closed
  have moved : run.log.IsOpen store.directory := listening.of_keeps writes.directory
  have noticed := @logs_notify { run with store } moved notices
  rcases writes.close whole noticed.directory unlogged with ⟨kept, held⟩
  have finished := @logs_notify
    { { run with store }.notify notices with
      store := (sink.destination.close ({ run with store }.notify notices).store).state.1 }
    ((moved.of_keeps noticed.directory).of_keeps kept)
    (sink.destination.close ({ run with store }.notify notices).store).notices
  refine ⟨rfl, rfl, ?_, ?_⟩
  · have written : ∀ location, location = target → run.Touches target location := fun _ => Or.inl
    have logged : ∀ location, run.log.WritesTo location → run.Touches target location :=
      fun _ => Or.inr
    exact (((writes.directory.mono written).trans (noticed.directory.mono logged)).trans
      (kept.mono written)).trans (finished.directory.mono logged)
  · have made := kept.files _ (noticed.directory.files _ (writes.directory.files _ writes.made))
    exact finished.directory.file unlogged
      (made.entry.trans (congrArg (some ∘ Entry.file) (held memory contents)))

end Run

/-- The end of a run whose command has not failed. -/
theorem finish_of_success {attempt : Attempt Run} (success : attempt.fault = none) :
    Run.finish attempt = attempt.state.outcome (.exit 0) := by
  simp only [Run.finish, success]

/-- Whether a fault that a command comes to is told. -/
def IsTold (fault : Fault) : Prop := ∃ text, Run.complaint? fault = some text

/-- A run whose command has come to a fault tells what there is to tell of it. -/
theorem finish_of_complaint {attempt : Attempt Run} {fault : Fault} {text : Text}
    (failed : attempt.fault = some fault) (complaint : Run.complaint? fault = some text) :
    Run.finish attempt
      = (attempt.state.complain (Text.ofString "Error: " ++ text)).outcome (.exit 1) := by
  simp only [Run.finish, failed, complaint]

/-- A run that is ready carries out the command that its arguments give. -/
theorem run_of_command {surroundings : Surroundings} {stamp : Log.Stamp} {arguments : List Text}
    {invocation : Invocation} {command : Command} {ready : Run} {settings : Settings}
    {policy : SurrogatePolicy} (read : Invocation.read arguments = .ok invocation)
    (ordered : Command.read invocation.topic invocation.arguments = .ok command)
    (configured : (Run.start surroundings stamp).prepare surroundings.environment
      invocation.logLevel = (ready, .ok settings))
    (named : SurrogatePolicy.ofValue settings.surrogatePolicy = .ok policy) :
    run surroundings stamp arguments = Run.finish (ready.carryOut policy command) := by
  simp only [run, read, configured, Run.perform, ordered, named]

end CommandLine

end IndexWire
