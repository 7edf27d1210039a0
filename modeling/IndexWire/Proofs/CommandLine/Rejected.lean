import IndexWire.Proofs.CommandLine.Endings

/-!
# Values that are not encoded

What a run leaves in a file that was to take the bytes of a value, where the value is rejected. One
that makes no request is rejected before the file is opened, and one whose request is refused as a
whole adds nothing to it. But the texts of a map or a set are written as they are encoded, and so
one that breaks off has added the count of its entries and the texts before the bad one.

The bytes of a log may go to the same file. They are left out here: the log writes to other files,
or it takes no records of the level of what is told when the file is closed.
-/

namespace IndexWire

theorem Log.emitAll_of_quiet {log : Log} {records : List Log.Record}
    (quiet : ∀ record ∈ records, record.level < log.level) (stamp : Log.Stamp)
    (output : Log.Output) : log.emitAll stamp output records = output := by
  induction records with
  | nil => rfl
  | cons record rest ih =>
      rw [List.forall_mem_cons] at quiet
      have disabled : log.isEnabledFor record.level = false := by
        simp only [Log.isEnabledFor, Bool.and_eq_false_iff, decide_eq_false_iff_not]
        exact .inr (Nat.not_le.mpr quiet.1)
      rw [Log.emitAll, List.foldl_cons, Log.emit, disabled]
      exact ih quiet.2

namespace Destination

theorem level_close {store : Store} {destination : Destination} {notice : Notice}
    (told : notice ∈ (destination.close store).notices) : notice.level = Level.debug := by
  cases destination with
  | stream target =>
      simp only [close, Attempt.map, Stream.close, List.mem_singleton] at told
      rw [told]
      rfl
  | _ => cases told

end Destination

namespace CommandLine

namespace Run

theorem notify_of_quiet {run : Run} {notices : List Notice}
    (quiet : ∀ notice ∈ notices, notice.level < run.log.level) : run.notify notices = run := by
  have records : ∀ record ∈ notices.map Log.Record.ofNotice, record.level < run.log.level := by
    rw [List.forall_mem_map]
    exact quiet
  simp only [notify, emit, Log.emitAll_of_quiet records, List.append_nil]
  rfl

section Writing

variable {run : Run} {path : Path} {target : Location} {opened : Directory}

/-- Whether a log leaves a file alone when the sink of the file is closed. -/
def Spares (run : Run) (target : Location) : Prop :=
  ¬run.log.WritesTo target ∨ Level.debug < run.log.level

/-- With a log that is not told of it, closing the file is all that is done after writing to it. -/
theorem written_of_quiet (quiet : Level.debug < run.log.level) (policy : SurrogatePolicy)
    (request : Request) :
    let begun := run.withDirectory opened
    let delivered := (appender path target).deliver begun.store (request.plan policy).pieces
    run.written opened policy request path target
      = { begun with store := (delivered.state.2.close delivered.state.1).state.1 } := by
  intro begun delivered
  have silent : delivered.notices = [] := Destination.notices_deliver _ _ _
  have unheard : ∀ notice ∈ (delivered.state.2.close delivered.state.1).notices,
      notice.level < run.log.level := by
    intro notice told
    rw [Destination.level_close told]
    exact quiet
  have before : { begun with store := delivered.state.1 }.notify delivered.notices
      = { begun with store := delivered.state.1 } := by
    rw [silent]
    exact notify_of_quiet fun notice told => by cases told
  have closing : run.written opened policy request path target
      = ({ begun with store := delivered.state.1 }.notify delivered.notices).closeSink
          { policy, destination := delivered.state.2 } := rfl
  rw [closing, before]
  exact notify_of_quiet unheard

/-- The bytes of a request stand after what the file held, unless the log comes between. -/
theorem written_of_spared (writable : run.directory.openAppend path = .ok (target, opened))
    (listening : run.log.IsOpen run.directory) (spared : run.Spares target)
    (policy : SurrogatePolicy) (request : Request) :
    (run.written opened policy request path target).directory.entry? target
      = some (.file (run.directory.content target ++ (request.plan policy).bytes)) := by
  rcases spared with unlogged | quiet
  · exact (written_of_unlogged writable policy request listening unlogged).2.2.2
  · -- a log without handlers writes the same, and to no file
    let mute : Run := { run with log := { run.log with handlers := [] } }
    have same : (run.written opened policy request path target).directory
        = (mute.written opened policy request path target).directory := by
      have first := @written_of_quiet run path target opened quiet policy request
      have second := @written_of_quiet mute path target opened quiet policy request
      rw [first, second]
      rfl
    have deaf : ¬mute.log.WritesTo target := by
      rintro ⟨number, format, mem⟩
      cases mem
    have unlogged := @written_of_unlogged mute path target opened writable policy request
      (Log.isOpen_of_no_handlers rfl _) deaf
    rw [same]
    exact unlogged.2.2.2

end Writing

end Run

namespace EncodeRun

variable (encode : EncodeRun) {path : Path} {target : Location}

/-- Whether the value of an order is rejected: it makes no request, or one that is refused. -/
def Rejects : Prop :=
  ∀ request, encode.order.payload.request = .ok request →
    (request.plan encode.policy).fault ≠ none

/-- Whether the value of an order breaks off at a text, after a count and the texts before it. -/
def BreaksOff (count : Nat) (written : List Text) (bad : Text) : Prop :=
  ∃ request, encode.order.payload.request = .ok request ∧
    request.BreaksOff encode.policy count written bad

variable {encode}

/-- Only a map or a set breaks off: at a text with surrogates, or at one that is too long. -/
theorem BreaksOff.cases {count : Nat} {written : List Text} {bad : Text}
    (breaks : encode.BreaksOff count written bad) :
    ((∃ entries, encode.order.payload = .map entries) ∨
        ∃ elements, encode.order.payload = .set elements) ∧
      (encode.policy = .strict ∧ ¬bad.IsClean ∨ 2 ^ 32 ≤ (Utf8.replaced bad).length) := by
  rcases breaks with ⟨request, requested, off⟩
  constructor
  · rcases off.lists with ⟨later, lists⟩
    cases payload : encode.order.payload with
    | map entries => exact .inl ⟨entries, rfl⟩
    | set elements => exact .inr ⟨elements, rfl⟩
    | string content =>
        rw [payload] at requested
        cases requested
        exact False.elim lists
    | number form value =>
        rw [payload] at requested
        cases requested
        cases form <;> exact False.elim lists
  · by_contra neither
    rw [not_or, not_and, not_not] at neither
    exact off.unwritable ⟨neither.1, Nat.not_le.mp neither.2⟩

theorem Rejects.fails (rejects : encode.Rejects) : encode.Fails := by
  cases requested : encode.order.payload.request with
  | error fault => exact encode.fails_of_payload requested
  | ok request => exact encode.fails_of_refused requested (rejects request requested)

theorem endsWith_outcome (encode : EncodeRun) :
    encode.outcome.EndsWith (encode.ready.encode encode.policy encode.order).fault := by
  rw [encode.outcome_eq]
  exact endsWith_finish fun fault failed => (Run.isExpected_of_encode failed).isTold

theorem Fails.tells (fails : encode.Fails) : ∃ fault, encode.outcome.Tells fault := by
  have ends := encode.endsWith_outcome
  cases failed : (encode.ready.encode encode.policy encode.order).fault with
  | none =>
      rw [failed] at ends
      cases ends.symm.trans fails.1
  | some fault =>
      rw [failed] at ends
      exact ⟨fault, ends.2⟩

theorem directory_of_malformed {fault : Fault}
    (malformed : encode.order.payload.request = .error fault) :
    encode.outcome.directory = encode.ready.directory := by
  rw [encode.outcome_eq, directory_finish, encode.encode_of_malformed malformed]
  rfl

/-- What a request that is refused leaves in the file; a folder in its place cannot be opened. -/
theorem content_of_refused {request : Request}
    (requested : encode.order.payload.request = .ok request)
    (out : encode.order.out = some path) (refused : (request.plan encode.policy).fault ≠ none)
    (located : encode.ready.directory.locate path = .ok target)
    (spared : encode.ready.Spares target) :
    encode.outcome.directory.content target
      = if encode.ready.directory.entry? target = some .folder then
          encode.surroundings.directory.content target
        else
          encode.surroundings.directory.content target
            ++ (request.plan encode.policy).bytes := by
  rcases encode.ready_of_start with ⟨-, listening, keeps⟩
  have same : encode.ready.encode encode.policy encode.order
      = encode.ready.encodeToFile encode.policy request path := by
    simp only [Run.encode, requested, out]
  rw [encode.outcome_eq, directory_finish, same, ← keeps.contents target not_false]
  have opening := Directory.openAppend_of_located located
  split at opening
  · rename_i folder
    rw [if_pos folder, Run.encodeToFile, opening]
    rfl
  · rename_i noFolder
    rcases opening with ⟨opened, writable⟩
    rcases Option.ne_none_iff_exists'.mp refused with ⟨fault, known⟩
    have failed := Run.encodeToFile_eq writable encode.policy request
    rw [known] at failed
    rw [if_neg noFolder, failed]
    exact Directory.content_of_entry
      (Run.written_of_spared writable listening spared encode.policy request)

/-- A value that does not break off leaves nothing. -/
theorem content_of_whole (out : encode.order.out = some path) (rejects : encode.Rejects)
    (whole : ∀ count written bad, ¬encode.BreaksOff count written bad)
    (located : encode.ready.directory.locate path = .ok target)
    (spared : encode.ready.Spares target) :
    encode.outcome.directory.content target = encode.surroundings.directory.content target := by
  cases requested : encode.order.payload.request with
  | error fault =>
      rw [directory_of_malformed requested]
      exact encode.ready_of_start.2.2.contents target not_false
  | ok request =>
      have refused := rejects request requested
      have nothing : (request.plan encode.policy).bytes = [] := by
        rw [Plan.bytes, Request.pieces_of_rejected refused fun count written bad off =>
          whole count written bad ⟨request, requested, off⟩]
        rfl
      rw [content_of_refused requested out refused located spared, nothing, List.append_nil,
        ite_self]

/--
A value that breaks off leaves what a sink holds after the count and the texts before the bad one.
-/
theorem content_of_breaksOff (out : encode.order.out = some path) (rejects : encode.Rejects)
    {count : Nat} {written : List Text} {bad : Text} (breaks : encode.BreaksOff count written bad)
    (located : encode.ready.directory.locate path = .ok target)
    (spared : encode.ready.Spares target) :
    ∃ bytes, Sink.heldInMemory? encode.policy (Request.parts count written) = some bytes ∧
      encode.outcome.directory.content target
        = if encode.ready.directory.entry? target = some .folder then
            encode.surroundings.directory.content target
          else encode.surroundings.directory.content target ++ bytes := by
  rcases breaks with ⟨request, requested, off⟩
  have accepted := Request.accepted_parts off.counted off.writable
  refine ⟨_, Sink.heldInMemory?_eq_some_iff.mpr ⟨accepted, rfl⟩, ?_⟩
  have bytes : ((Request.parts count written).flatMap fun part => (part.plan encode.policy).bytes)
      = (request.plan encode.policy).bytes := by
    rw [Request.plan_of_breaksOff off]
    simp only [Plan.bytes, ← Request.pieces_parts, List.flatMap_assoc]
  rw [bytes]
  exact content_of_refused requested out (rejects request requested) located spared

/--
A run that is to add the bytes of a value to a file, but whose value is rejected, fails and tells of
it. The file is as before, and if it was missing, it is missing or empty, unless the value breaks
off. Only a map or a set does, at a text with surrogates under `strict`, or at one that is too long;
then what a new sink holds after the count and the texts before the bad one stands at the end of the
file.
-/
theorem rejected_encode_keeps_file (encode : EncodeRun) {path : Path}
    (out : encode.order.out = some path) (rejects : encode.Rejects) :
    encode.Fails ∧ (∃ fault, encode.outcome.Tells fault) ∧
      ∀ target, encode.ready.directory.locate path = .ok target → encode.ready.Spares target →
        let before := encode.surroundings.directory
        let after := encode.outcome.directory
        ((∀ count written bad, ¬encode.BreaksOff count written bad) →
          after.content target = before.content target ∧
            (before.entry? target = none →
              ∀ content, after.entry? target = some (.file content) → content = [])) ∧
        ∀ count written bad, encode.BreaksOff count written bad →
          ((∃ entries, encode.order.payload = .map entries) ∨
            ∃ elements, encode.order.payload = .set elements) ∧
          (encode.policy = .strict ∧ ¬bad.IsClean ∨ 2 ^ 32 ≤ (Utf8.replaced bad).length) ∧
          ∃ bytes, Sink.heldInMemory? encode.policy (Request.parts count written) = some bytes ∧
            after.content target
              = if encode.ready.directory.entry? target = some .folder then before.content target
                else before.content target ++ bytes := by
  refine ⟨rejects.fails, rejects.fails.tells, ?_⟩
  intro target located spared before after
  constructor
  · intro whole
    have same : after.content target = before.content target :=
      content_of_whole out rejects whole located spared
    refine ⟨same, fun missing content found => ?_⟩
    rw [Directory.content_of_entry found] at same
    rw [same, Directory.content, missing]
  · intro count written bad breaks
    exact ⟨breaks.cases.1, breaks.cases.2, content_of_breaksOff out rejects breaks located spared⟩

end EncodeRun

/-- A run that is to add a number to a file, which is too large for its form. -/
def refusedRun (content : Bytes) : EncodeRun :=
  { addingRun content with
    arguments := ["encode", "int16", "70000", "--out", "a"].map Text.ofString
    invocation := ⟨none, .encode, ["int16", "70000", "--out", "a"].map Text.ofString⟩
    order := ⟨.number .int16 70000, some (Path.ofText (Text.ofString "a")), Text.ofString " "⟩
    read := by rfl
    topic := rfl
    ordered := by rfl
    configured := (addingRun content).configured }

/-- A file to which a number was to be added that is too large. -/
theorem rejected_encode_keeps_file_out_of_width :
    (refusedRun [7]).Fails ∧
      (refusedRun [7]).outcome.directory.content [Text.ofString "a"] = [7] := by
  have rejects : (refusedRun [7]).Rejects := by
    rintro request ⟨⟩
    decide
  have whole : ∀ count written bad, ¬(refusedRun [7]).BreaksOff count written bad := by
    intro count written bad breaks
    rcases breaks.cases.1 with ⟨entries, map⟩ | ⟨elements, set⟩
    · cases map
    · cases set
  have spared : (refusedRun [7]).ready.Spares [Text.ofString "a"] := .inr (by decide)
  rcases (refusedRun [7]).rejected_encode_keeps_file rfl rejects with ⟨fails, -, kept⟩
  exact ⟨fails, ((kept [Text.ofString "a"] (by rfl) spared).1 whole).1⟩

/-- A set whose second text is a surrogate has added its count and its first text. -/
theorem broken_set_leaves_bytes :
    let surroundings : Surroundings :=
      { directory := { entries := [([Text.ofString "a"], .file [120])] }
        environment :=
          { entries := [(Text.ofString "BYTESINK_SURROGATE_POLICY", Text.ofString "strict")]
            startHome := some .root } }
    let outcome := run surroundings ⟨[], []⟩
      (["encode", "set", "--out", "a", "b"].map Text.ofString ++ [[⟨0xDC80, by decide⟩]])
    outcome.ending = .exit 1 ∧
      surroundings.directory.content [Text.ofString "a"] = [120] ∧
      outcome.directory.content [Text.ofString "a"] = [120, 0, 0, 0, 2, 1, 98] := by
  intro surroundings outcome
  exact ⟨by decide +kernel, by decide +kernel, by decide +kernel⟩

end CommandLine

end IndexWire
