import IndexWire.Proofs.CommandLine.Runs

/-!
# The copy command

What a run leaves that copies a range of a file. The range stands at the end of the destination, or
is all of it, and the log changes neither the destination nor the source. If the source has fewer
bytes than are asked for, the run fails, and the destination holds the whole blocks that there were.
-/

namespace IndexWire

namespace CommandLine

namespace CopyOrder

/-- How many bytes are copied from a source that has so many after what is left out. -/
def wanted (order : CopyOrder) (available : Nat) : Nat := (order.count.map Int.toNat).getD available

/-- What is told of a copy that is complete. -/
def report (order : CopyOrder) (count : Nat) : Text :=
  Text.ofString s!"Copied {count} bytes from " ++ order.source.text ++ Text.ofString " to "
    ++ order.destination.text

theorem isClean_report {order : CopyOrder} (source : order.source.text.IsClean)
    (destination : order.destination.text.IsClean) (count : Nat) : (order.report count).IsClean :=
  (((Text.isClean_ofString _).append source).append (Text.isClean_ofString _)).append destination

theorem getD_count {order : CopyOrder} (positive : ∀ count ∈ order.count, 0 ≤ count)
    {size skip : Nat} (inside : skip ≤ size) :
    order.count.getD (size - skip) = order.wanted (size - skip) := by
  unfold wanted
  cases given : order.count with
  | none =>
      simp only [Option.getD_none, Option.map_none]
      omega
  | some count =>
      have low := positive count given
      simp only [Option.getD_some, Option.map_some]
      omega

end CopyOrder

namespace Run

/-- What a destination holds before anything is copied to it. -/
def baseOf (run : Run) (order : CopyOrder) (target : Location) : Bytes :=
  if order.appends then run.directory.content target else []

/-- A directory in which the destination of a copy has been opened where the position tells. -/
structure Opens (run : Run) (order : CopyOrder) (source target : Location) (content : Bytes)
    (position : Option Nat) (directory : Directory) : Prop where
  made : directory.IsFile target
  apart : source ≠ target ∨ position = none
  low : ∀ start ∈ position, start = 0
  atEnd : position.getD (directory.content target).length = (directory.content target).length
  base : directory.content target = run.baseOf order target
  read : directory.content source = content
  keeps : Directory.Keeps (· = target) run.directory directory

theorem Opens.sound {run : Run} {order : CopyOrder} {source target : Location} {content : Bytes}
    {position : Option Nat} {directory : Directory}
    (opens : run.Opens order source target content position directory) :
    FileWriter.IsSound (run.withDirectory directory).store { location := target, position } :=
  FileWriter.isSound_of_below opens.made.below opens.low

section Planning

variable {run : Run} {order : CopyOrder} {source target : Location} {content : Bytes}
  {opened : Directory}
  (found : run.directory.look order.source = .ok (some (source, .file content)))
  (writable : run.directory.openAppend order.destination = .ok (target, opened))
  (same : source = target → order.appends = true)

include found writable same

/-- A destination that can be written to is opened at its end. -/
theorem openDestination_of_writable :
    ∃ position directory,
      run.openDestination order = .ok ({ location := target, position }, directory) ∧
        run.Opens order source target content position directory := by
  rcases Directory.openAppend_eq_ok writable with ⟨located, noFolder, file, keeps⟩
  have read := Directory.content_of_entry (Directory.look_eq_ok_some_iff.mp found).2
  by_cases appends : order.appends = true
  · refine ⟨none, opened, ?_, file, Or.inr rfl, by simp, rfl, ?_, ?_,
      keeps.mono fun location never => never.elim⟩
    · simp only [openDestination, appends, if_true, writable, Except.map]
    · rw [baseOf, if_pos appends]
      exact keeps.contents target (fun never => never)
    · rw [keeps.contents source (fun never => never), read]
  · have other : source ≠ target := fun one => appends (same one)
    have emptied : (run.directory.put target (.file [])).content target = [] :=
      Directory.content_put_self (Directory.below_of_noFolder noFolder) []
    have keeps := Directory.keeps_put_file noFolder []
    refine ⟨some 0, run.directory.put target (.file []), ?_,
      ⟨[], Directory.entry_put_self noFolder _⟩, Or.inl other, by simp, ?_, ?_, ?_, keeps⟩
    · simp only [openDestination, appends, Bool.false_eq_true, if_false,
        Directory.openTruncate_of_locate located noFolder, Except.map]
    · rw [emptied]
      rfl
    · rw [emptied, baseOf, if_neg appends]
    · rw [keeps.contents source other, read]

/-- An order to copy from inside of its source is carried out between two files. -/
theorem planCopy_of_inside (inside : 0 ≤ order.skip ∧ order.skip ≤ content.length) :
    ∃ position directory,
      run.planCopy order = .ok
          { source, skip := order.skip.toNat
            count := order.count.getD (content.length - order.skip.toNat : Int)
            destination := { location := target, position }, directory } ∧
        run.Opens order source target content position directory := by
  rcases openDestination_of_writable found writable same with
      ⟨position, directory, destination, opens⟩
  refine ⟨position, directory, ?_, opens⟩
  have located := (Directory.openAppend_eq_ok writable).1
  have sourced : run.copySource order = .ok (source, content.length) := by
    simp only [copySource, found]
    rfl
  have distinct : run.checkDestination order source = .ok () := by
    by_cases appends : order.appends = true
    · simp only [checkDestination, appends, Bool.not_true, Bool.false_eq_true, if_false]
      rfl
    · have other : target ≠ source := fun one => appends (same one.symm)
      have apart : ((run.directory.entry? target).map fun entry => (target, entry)).any
          (fun found => found.1 = source) = false := by
        cases run.directory.entry? target <;> simp [other]
      simp only [checkDestination, appends, Bool.not_false, if_true,
        Directory.look_of_locate located, bind, Except.bind, apart, Bool.false_eq_true, if_false]
      rfl
  have skipped : checkSkip order content.length = .ok order.skip.toNat := if_pos inside
  simp only [planCopy, sourced, bind, Except.bind, distinct, skipped, destination, pure,
    Except.pure]

/-- An order that nothing is wrong with has a count as well. -/
theorem planCopy_of_writable (inside : 0 ≤ order.skip ∧ order.skip ≤ content.length)
    (positive : ∀ count ∈ order.count, 0 ≤ count) :
    ∃ position directory,
      run.planCopy order = .ok
          { source, skip := order.skip.toNat
            count := order.wanted (content.length - order.skip.toNat)
            destination := { location := target, position }, directory } ∧
        run.Opens order source target content position directory := by
  have low : order.skip.toNat ≤ content.length := by omega
  rw [← CopyOrder.getD_count positive low]
  exact planCopy_of_inside found writable same inside

end Planning

/-- What becomes of a copy whose plan is known: the destination is closed, and then it is told. -/
theorem copy_of_plan {run : Run} {order : CopyOrder} {plan : CopyPlan}
    (planned : run.planCopy order = .ok plan) (policy : SurrogatePolicy) :
    let begun := run.withDirectory plan.directory
    let copied := (Transfer.ofFiles begun.store policy order.destination.text plan.destination
      plan.source plan.skip).copy plan.count
    let closed := ({ begun with store := copied.state.store }.notify copied.notices).closeSink
      copied.state.sink
    let told := closed.inform "bytesink.cli.copy_cmd" "copy.completed"
      [("src", .text order.source.text), ("dst", .text order.destination.text),
        ("skip", .int order.skip), ("bytes", .int copied.state.sink.destination.count)]
    run.copy policy order
      = match copied.fault with
        | some fault => .failed closed fault
        | none => told.print (order.report copied.state.sink.destination.count) := by
  unfold copy
  rw [planned]
  rfl

section Closing

variable {run : Run} (listening : run.log.IsOpen run.directory) {order : CopyOrder}
  {source target : Location} {content : Bytes} {position : Option Nat} {directory : Directory}
  (opens : run.Opens order source target content position directory)
  (unlogged : ¬run.log.WritesTo target)

include listening opens unlogged

/-- Once the destination of a copy is closed, it holds what it took after what it held before. -/
theorem closeSink_of_took (policy : SurrogatePolicy) (name : Text) (skip : Nat) {count : Int}
    {data : Bytes}
    (took :
      let start := Transfer.ofFiles (run.withDirectory directory).store policy name
        { location := target, position } source skip
      Destination.Took (start.store, start.sink.destination) data
        ((start.copy count).state.store, (start.copy count).state.sink.destination)) :
    let begun := run.withDirectory directory
    let copied := (Transfer.ofFiles begun.store policy name { location := target, position } source
      skip).copy count
    let closed := ({ begun with store := copied.state.store }.notify copied.notices).closeSink
      copied.state.sink
    closed.log = run.log ∧ closed.stdout = run.stdout ∧
      Directory.Keeps (run.Touches target) run.directory closed.directory ∧
      closed.directory.entry? target = some (.file (run.baseOf order target ++ data)) := by
  intro begun copied closed
  have writes := @Transfer.writesFile_copy begun.store policy name { location := target, position }
    source skip opens.made opens.apart count
  have contents : copied.state.sink.destination.contents copied.state.store
      = some ((FileWriter.contents begun.store { location := target, position }).put data) :=
    took.contents
  rcases @closeSink_of_writes begun (listening.of_keeps opens.keeps) source target unlogged
    copied.state.store copied.state.sink _ writes took.whole contents copied.notices with
    ⟨log, stdout, kept, held⟩
  refine ⟨log, stdout, (opens.keeps.mono fun _ => Or.inl).trans kept, ?_⟩
  rw [FileWriter.buffer_put_of_opened opens.atEnd] at held
  rw [← opens.base]
  exact held

end Closing

section Copying

variable {run : Run} (listening : run.log.IsOpen run.directory) {order : CopyOrder}
  {source target : Location} {content : Bytes} {opened : Directory}
  (found : run.directory.look order.source = .ok (some (source, .file content)))
  (writable : run.directory.openAppend order.destination = .ok (target, opened))
  (inside : 0 ≤ order.skip ∧ order.skip ≤ content.length)
  (same : source = target → order.appends = true)
  (positive : ∀ count ∈ order.count, 0 ≤ count) (unlogged : ¬run.log.WritesTo target)
  (policy : SurrogatePolicy)

include listening found writable inside same positive unlogged

/-- A range that is there is copied, and it is told how many bytes it has. -/
theorem copy_of_enough (cleanSource : order.source.text.IsClean)
    (cleanDestination : order.destination.text.IsClean) {count : Nat}
    (asked : order.wanted (content.length - order.skip.toNat) = count)
    (enough : count ≤ content.length - order.skip.toNat) :
    let copied := run.copy policy order
    copied.fault = none ∧
      copied.state.stdout
        = run.stdout ++ ((order.report count).withoutEscapes ++ Text.ofString "\n") ∧
      Directory.Keeps (run.Touches target) run.directory copied.state.directory ∧
      copied.state.directory.entry? target = some
        (.file (run.baseOf order target ++ (content.drop order.skip.toNat).take count)) := by
  intro copied
  rcases planCopy_of_writable found writable same inside positive with
      ⟨position, directory, planned, opens⟩
  rw [asked] at planned
  have fits : order.skip.toNat + count ≤ (directory.content source).length := by
    rw [opens.read]
    omega
  rcases @Transfer.copy_ofFiles (run.withDirectory directory).store policy order.destination.text
    { location := target, position } source order.skip.toNat opens.made opens.apart opens.sound rfl
    count fits with ⟨success, took⟩
  rcases closeSink_of_took listening opens unlogged policy order.destination.text order.skip.toNat
    took with ⟨log, stdout, kept, held⟩
  have length : ((content.drop order.skip.toNat).take count).length = count := by
    rw [List.length_take, List.length_drop]
    omega
  have read : (run.withDirectory directory).store.directory.content source = content := opens.read
  have whole := copy_of_plan planned policy
  simp only [success] at whole
  rw [read] at took held
  have counted := took.count
  rw [length] at counted
  generalize (Transfer.ofFiles (run.withDirectory directory).store policy order.destination.text
    { location := target, position } source order.skip.toNat).copy count = moved
    at counted log stdout kept held whole
  have number : moved.state.sink.destination.count = count := counted.trans (Nat.zero_add count)
  rw [number] at whole
  generalize closeSink _ _ = closed at log stdout kept held whole
  have heard : closed.log.IsOpen closed.directory := by
    rw [log]
    exact listening.of_keeps kept
  have told := logs_inform heard "bytesink.cli.copy_cmd" "copy.completed"
    [("src", .text order.source.text), ("dst", .text order.destination.text),
      ("skip", .int order.skip), ("bytes", .int count)]
  have logged := told.directory
  rw [log] at logged
  rw [print_of_isClean _ (CopyOrder.isClean_report cleanSource cleanDestination count)] at whole
  rw [show copied = _ from whole]
  refine ⟨rfl, ?_, kept.trans (logged.mono fun _ => Or.inr), logged.file unlogged held⟩
  simp only [told.stdout, stdout]

/-- A range that goes beyond the source is copied as far as whole blocks go. -/
theorem copy_of_short (other : source ≠ target) {count : Nat}
    (asked : order.wanted (content.length - order.skip.toNat) = count)
    (short : content.length - order.skip.toNat < count) :
    let available := content.length - order.skip.toNat
    let whole := available / blockSize * blockSize
    let copied := run.copy policy order
    copied.fault = some (.streamEnded (available % blockSize) (min (count - whole) blockSize)) ∧
      Directory.Keeps (run.Touches target) run.directory copied.state.directory ∧
      copied.state.directory.entry? target = some
        (.file (run.baseOf order target ++ (content.drop order.skip.toNat).take whole)) := by
  intro available blocks copied
  rcases planCopy_of_writable found writable same inside positive with
      ⟨position, directory, planned, opens⟩
  rw [asked] at planned
  have read : (run.withDirectory directory).store.directory.content source = content := opens.read
  rcases @Transfer.copy_ofFiles_of_short (run.withDirectory directory).store policy
    order.destination.text { location := target, position } source order.skip.toNat opens.sound
    rfl other count (by rw [read]; exact short) with ⟨failed, took⟩
  rw [read] at failed took
  rcases closeSink_of_took listening opens unlogged policy order.destination.text order.skip.toNat
    took with ⟨log, stdout, kept, held⟩
  have ended := copy_of_plan planned policy
  simp only [failed] at ended
  rw [show copied = _ from ended]
  exact ⟨rfl, kept, held⟩

end Copying

end Run

section Command

variable {surroundings : Surroundings} {stamp : Log.Stamp} {arguments : List Text}
  {invocation : Invocation} {order : CopyOrder} {ready : Run} {settings : Settings}

/-- A run that is ready carries out the order that its arguments give. -/
theorem run_of_copy (read : Invocation.read arguments = .ok invocation)
    (topic : invocation.topic = .copy) (ordered : CopyOrder.read invocation.arguments = .ok order)
    (configured : (Run.start surroundings stamp).prepare surroundings.environment
      invocation.logLevel = (ready, .ok settings)) :
    ∃ policy, SurrogatePolicy.ofValue settings.surrogatePolicy = .ok policy ∧
      run surroundings stamp arguments = Run.finish (ready.copy policy order) := by
  rcases (Run.prepare_eq_ok (Log.isOpen_of_no_handlers rfl _) configured).2.2.2 with
      ⟨policy, named⟩
  refine ⟨policy, named, ?_⟩
  have command : Command.read invocation.topic invocation.arguments = .ok (.copy order) := by
    simp only [topic, Command.read, ordered, Except.map]
  exact run_of_command read command configured named

/--
A run that copies a range of a file, with valid settings, to a destination that can be written to
once the log is set up. The destination may be the source itself, if the range is appended to it;
the range is then one of the source as it was. Neither of the two is a file of the log.
-/
theorem copied_range {source target : Location} {content : Bytes} {opened : Directory}
    (read : Invocation.read arguments = .ok invocation) (topic : invocation.topic = .copy)
    (ordered : CopyOrder.read invocation.arguments = .ok order)
    (configured : (Run.start surroundings stamp).prepare surroundings.environment
      invocation.logLevel = (ready, .ok settings))
    (found : surroundings.directory.look order.source = .ok (some (source, .file content)))
    (writable : ready.directory.openAppend order.destination = .ok (target, opened))
    (clean : order.source.text.IsClean ∧ order.destination.text.IsClean)
    (unlogged : ¬ready.log.WritesTo source ∧ ¬ready.log.WritesTo target)
    (inside : 0 ≤ order.skip ∧ order.skip ≤ content.length)
    (positive : ∀ count ∈ order.count, 0 ≤ count)
    (same : source = target → order.appends = true) :
    let rest := content.drop order.skip.toNat
    let count := order.wanted rest.length
    let base := if order.appends then surroundings.directory.content target else []
    let outcome := run surroundings stamp arguments
    (count ≤ rest.length →
      outcome.ending = .exit 0 ∧
      outcome.stdout = (order.report count).withoutEscapes ++ Text.ofString "\n" ∧
      outcome.directory.look order.destination
        = .ok (some (target, .file (base ++ rest.take count)))) ∧
    (rest.length < count → source ≠ target →
      outcome.ending = .exit 1 ∧
      (∃ logged, outcome.stderr = Text.withSurrogatesSpelled
        (logged ++ (Text.ofString "Error: " ++ (Text.ofString "I/O failure: "
          ++ (Fault.streamEnded (rest.length % 16384)
            (min (count - 16384 * (rest.length / 16384)) 16384)).message)).withoutEscapes
          ++ Text.ofString "\n")) ∧
      outcome.directory.look order.destination
        = .ok (some (target, .file (base ++ rest.take (16384 * (rest.length / 16384)))))) ∧
    (source ≠ target →
      outcome.directory.look order.source = .ok (some (source, .file content))) := by
  intro rest count base outcome
  rcases Run.prepare_eq_ok (Log.isOpen_of_no_handlers rfl _) configured with
      ⟨stdout, listening, prepared, -⟩
  rcases run_of_copy read topic ordered configured with ⟨policy, -, carried⟩
  have there : ready.directory.look order.source = .ok (some (source, .file content)) := by
    refine Directory.look_of_keeps prepared found ?_
    rintro ⟨number, format, mem⟩
    cases mem
  have before : ready.baseOf order target = base := by
    have kept : ready.directory.content target = surroundings.directory.content target := by
      refine prepared.contents target ?_
      rintro ⟨number, format, mem⟩
      cases mem
    simp only [Run.baseOf, kept, base]
  have silent : ready.stdout = [] := stdout
  have located := (Directory.openAppend_eq_ok writable).1
  have length : rest.length = content.length - order.skip.toNat := List.length_drop
  have asked : order.wanted (content.length - order.skip.toNat) = count := by
    rw [← length]
  have untouched : source ≠ target → ¬ready.Touches target source := by
    rintro other (one | writes)
    · exact other one
    · exact unlogged.1 writes
  rcases Nat.lt_or_ge rest.length count with short | enough
  · have failed := fun other => Run.copy_of_short listening there writable inside same positive
      unlogged.2 policy other asked (by rw [← length]; exact short)
    have blocks : (content.length - order.skip.toNat) / blockSize * blockSize
        = 16384 * (rest.length / 16384) := by
      rw [← length]
      exact Nat.mul_comm _ _
    refine ⟨fun enough => absurd short (Nat.not_lt.mpr enough), fun _ other => ?_, fun other => ?_⟩
    · rcases failed other with ⟨fault, kept, held⟩
      rw [blocks, before] at held
      rw [blocks, ← length] at fault
      rw [show outcome = _ from carried.trans (finish_of_complaint fault rfl)]
      refine ⟨rfl, ⟨_, rfl⟩, ?_⟩
      exact Directory.look_eq_ok_some_iff.mpr ⟨Directory.locate_of_keeps kept located, held⟩
    · rcases failed other with ⟨fault, kept, -⟩
      rw [show outcome = _ from carried.trans (finish_of_complaint fault rfl)]
      exact Directory.look_of_keeps kept there (untouched other)
  · rcases Run.copy_of_enough listening there writable inside same positive unlogged.2 policy
      clean.1 clean.2 asked (by rw [← length]; exact enough) with ⟨success, printed, kept, held⟩
    rw [before] at held
    rw [silent, List.nil_append] at printed
    rw [show outcome = _ from carried.trans (finish_of_success success)]
    refine ⟨fun _ => ⟨rfl, printed, ?_⟩, fun short => absurd short (Nat.not_lt.mpr enough), ?_⟩
    · exact Directory.look_eq_ok_some_iff.mpr ⟨Directory.locate_of_keeps kept located, held⟩
    · exact fun other => Directory.look_of_keeps kept there (untouched other)

end Command

/-- The last two of three bytes of a file, appended to the same file. -/
theorem copied_range_same_file :
    let path := Path.ofText (Text.ofString "a")
    let surroundings : Surroundings :=
      { directory := { entries := [([Text.ofString "a"], .file [1, 2, 3])] }
        environment := { startHome := some .root } }
    let outcome := run surroundings ⟨[], []⟩
      (["copy", "a", "a", "--append", "--skip", "1"].map Text.ofString)
    outcome.ending = .exit 0 ∧
      outcome.directory.look path = .ok (some ([Text.ofString "a"], .file [1, 2, 3, 2, 3])) := by
  intro path surroundings outcome
  let order : CopyOrder := ⟨path, path, 1, none, true⟩
  let start := Run.start surroundings ⟨[], []⟩
  have settled : (start.prepare surroundings.environment none).2 = .ok {} := by rfl
  have configured : start.prepare surroundings.environment none
      = ((start.prepare surroundings.environment none).1, .ok {}) := Prod.ext rfl settled
  have unlogged : ¬(start.prepare surroundings.environment none).1.log.WritesTo
      [Text.ofString "a"] := by
    rintro ⟨number, format, mem⟩
    rw [show (start.prepare surroundings.environment none).1.log.handlers
      = [.managed 0 .stderr _] from rfl] at mem
    simp at mem
  have copied := @copied_range surroundings ⟨[], []⟩
    (["copy", "a", "a", "--append", "--skip", "1"].map Text.ofString)
    ⟨none, .copy, ["a", "a", "--append", "--skip", "1"].map Text.ofString⟩ order _ {}
    [Text.ofString "a"] [Text.ofString "a"] [1, 2, 3] surroundings.directory
    (by rfl) rfl (by rfl) configured (by rfl) (by rfl)
    ⟨Text.isClean_ofString "a", Text.isClean_ofString "a"⟩ ⟨unlogged, unlogged⟩
    (by decide) (fun count none => by cases none) (fun _ => rfl)
  have enough := copied.1 (by decide)
  exact ⟨enough.1, enough.2.2⟩

end CommandLine

end IndexWire
