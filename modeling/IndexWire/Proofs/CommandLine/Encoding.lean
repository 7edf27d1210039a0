import IndexWire.Proofs.CommandLine.Runs
import IndexWire.Proofs.Sink.Rejection
import IndexWire.Proofs.Text.Digits
import IndexWire.Proofs.Wire.RoundTrip

/-!
# The encode command

What a run leaves that encodes a payload. The bytes are those that a new sink in memory holds after
the same request: they are shown by their digits, or they stand at the end of a file. Runs one after
another that add to one file leave in it what one sink in memory holds after all their requests.
Where the request fails, so does the run, and it shows nothing.
-/

namespace IndexWire

namespace Text

/-- What holds no escape character is printed as it is, whatever follows. -/
theorem withoutEscapes_append {front : Text} (plain : ∀ point ∈ front, point.value ≠ 0x1B)
    (back : Text) : (front ++ back).withoutEscapes = front ++ back.withoutEscapes := by
  induction front with
  | nil => rfl
  | cons point front ih =>
      rw [List.forall_mem_cons] at plain
      have none : escapeLength (point :: (front ++ back)) = 0 := by
        cases front ++ back with
        | nil => rfl
        | cons bracket rest => simp [escapeLength, plain.1]
      have kept : withoutEscapes (point :: (front ++ back))
          = point :: withoutEscapes (front ++ back) := by
        simp only [withoutEscapes, withoutEscapesFrom, none]
      rw [List.cons_append, kept, ih plain.2]
      rfl

theorem withoutEscapes_of_plain {text : Text} (plain : ∀ point ∈ text, point.value ≠ 0x1B) :
    text.withoutEscapes = text := by
  have whole := withoutEscapes_append plain []
  rwa [List.append_nil, show withoutEscapes [] = [] from rfl, List.append_nil] at whole

theorem mem_joinWith {separator : Text} {texts : List Text} {point : CodePoint}
    (mem : point ∈ joinWith separator texts) :
    point ∈ separator ∨ ∃ text ∈ texts, point ∈ text := by
  induction texts with
  | nil => simp [joinWith] at mem
  | cons first rest ih =>
      cases rest with
      | nil =>
          right
          exact ⟨first, by simp, by simpa [joinWith] using mem⟩
      | cons second rest =>
          have split : joinWith separator (first :: second :: rest)
              = first ++ (separator ++ joinWith separator (second :: rest)) := by
            simp [joinWith]
          rw [split, List.mem_append, List.mem_append] at mem
          rcases mem with here | between | later
          · exact Or.inr ⟨first, by simp, here⟩
          · exact Or.inl between
          · rcases ih later with between | ⟨text, among, there⟩
            · exact Or.inl between
            · exact Or.inr ⟨text, List.mem_cons_of_mem _ among, there⟩

end Text

namespace Plan

theorem Cuts.eq_of_accepted {whole plan : Plan} (cuts : Cuts whole plan)
    (accepted : plan.fault = none) : plan = whole := by
  cases cuts with
  | same => rfl
  | refused fault rest missing => cases accepted

end Plan

namespace Request

theorem Accepted.replace {policy : SurrogatePolicy} {request : Request}
    (accepted : request.Accepted policy) : request.Accepted .replace := by
  have writable : ∀ value : Value, value.IsWritable policy → value.IsWritable .replace := by
    rintro value ⟨content, text, clean, short⟩
    exact ⟨content, text, by simp, short⟩
  cases request with
  | string value => exact writable value accepted
  | stringMap entries =>
      exact ⟨accepted.1, fun entry mem =>
        ⟨writable _ (accepted.2 entry mem).1, writable _ (accepted.2 entry mem).2⟩⟩
  | stringSet value =>
      rcases accepted with ⟨elements, listed, counted, each⟩
      exact ⟨elements, listed, counted, fun element mem => writable _ (each element mem)⟩
  | _ => exact accepted

/-- What is accepted under a policy is written alike under `replace`. -/
theorem plan_of_accepted {policy : SurrogatePolicy} {request : Request}
    (accepted : (request.plan policy).fault = none) :
    request.plan policy = request.plan .replace := by
  have replaced := ((fault_plan_eq_none_iff policy request).mp accepted).replace
  have cuts := cuts_plan policy ((fault_plan_eq_none_iff .replace request).mpr replaced)
  exact cuts.eq_of_accepted accepted

end Request

namespace Sink

/-- What a new sink in memory holds after requests, if it accepts all of them. -/
def heldInMemory? (policy : SurrogatePolicy) (requests : List Request) : Option Bytes :=
  let (_, sink, outcomes) := writeAll {} { policy, destination := .memory {} } requests
  match sink.destination with
  | .memory memory => if ∀ outcome ∈ outcomes, outcome = none then some memory.value else none
  | _ => none

theorem heldInMemory?_eq_some_iff {policy : SurrogatePolicy} {requests : List Request}
    {bytes : Bytes} :
    heldInMemory? policy requests = some bytes ↔
      (∀ request ∈ requests, (request.plan policy).fault = none) ∧
        (requests.flatMap fun request => (request.plan policy).bytes) = bytes := by
  simp only [heldInMemory?, writeAll_memory, List.forall_mem_map, Memory.value_put]
  split
  · rename_i accepted
    simpa [Memory.value] using fun _ => accepted
  · rename_i refused
    simp [refused]

theorem heldInMemory?_singleton {policy : SurrogatePolicy} {request : Request} {bytes : Bytes} :
    heldInMemory? policy [request] = some bytes ↔
      (request.plan policy).fault = none ∧ (request.plan policy).bytes = bytes := by
  simp [heldInMemory?_eq_some_iff]

end Sink

namespace CommandLine

/-- Whether a fault inside a command ends the run with a message. -/
def IsExpected (fault : Fault) : Prop :=
  fault.category = .value ∨ fault.category = .kind ∨ fault.category = .system

theorem IsExpected.isTold {fault : Fault} (expected : IsExpected fault) : IsTold fault := by
  rcases expected with category | category | category <;>
    simp [IsTold, Run.complaint?, category]

theorem finish_of_expected {attempt : Attempt Run} {fault : Fault}
    (failed : attempt.fault = some fault) (expected : IsExpected fault) :
    (Run.finish attempt).ending = .exit 1 ∧
      (Run.finish attempt).stdout = attempt.state.stdout := by
  rcases expected.isTold with ⟨text, complaint⟩
  rw [finish_of_complaint failed complaint]
  exact ⟨rfl, rfl⟩

theorem directory_finish (attempt : Attempt Run) :
    (Run.finish attempt).directory = attempt.state.directory := by
  unfold Run.finish
  split
  · rfl
  · split <;> rfl

theorem isExpected_of_plan {policy : SurrogatePolicy} {request : Request} {fault : Fault}
    (refused : (request.plan policy).fault = some fault) : IsExpected fault := by
  rcases (Request.built_plan policy request).faultsValues fault refused with value | kind
  · exact Or.inl value
  · exact Or.inr (Or.inl kind)

theorem exists_of_mapM_error {α β ε : Type} {step : α → Except ε β} {items : List α} {fault : ε}
    (failed : items.mapM step = .error fault) : ∃ item, step item = .error fault := by
  induction items with
  | nil => cases failed
  | cons item rest ih =>
      rw [List.mapM_cons] at failed
      rcases bind_eq_error.mp failed with first | ⟨value, -, failed⟩
      · exact ⟨item, first⟩
      · rcases bind_eq_error.mp failed with later | ⟨values, -, done⟩
        · exact ih later
        · cases done

theorem isExpected_of_payload {payload : Payload} {fault : Fault}
    (malformed : payload.request = .error fault) : IsExpected fault := by
  cases payload with
  | number form value => cases malformed
  | string content => cases malformed
  | set elements => cases malformed
  | map entries =>
      have split := map_eq_error.mp (map_eq_error.mp malformed)
      rcases exists_of_mapM_error split with ⟨entry, refused⟩
      unfold Payload.splitEntry at refused
      split at refused
      · cases refused
        exact Or.inl rfl
      · cases refused

theorem isExpected_of_check {text : Text} {fault : Fault}
    (failed : Path.check text = .error fault) :
    IsExpected fault := by
  unfold Path.check at failed
  rcases bind_eq_error.mp failed with surrogates | ⟨usable, -, nulls⟩
  · unfold Path.checkSurrogates at surrogates
    cases found : Path.unencodable? text with
    | some run =>
        rw [found] at surrogates
        cases surrogates
        exact Or.inl rfl
    | none =>
        rw [found] at surrogates
        cases surrogates
  · unfold Path.checkNulls at nulls
    split at nulls
    · cases nulls
      exact Or.inl rfl
    · cases nulls

theorem isExpected_of_locate {directory : Directory} {path : Path} {fault : Fault}
    (failed : directory.locate path = .error fault) : IsExpected fault := by
  unfold Directory.locate at failed
  rcases bind_eq_error.mp failed with unusable | ⟨usable, -, failed⟩
  · exact isExpected_of_check unusable
  by_cases long : Path.byteCount path.text ≥ Directory.pathLimit
  · simp only [if_pos long] at failed
    cases failed
    exact Or.inr (Or.inr rfl)
  · simp only [if_neg long] at failed
    split at failed
    · cases failed
    · cases failed
      exact Or.inr (Or.inr rfl)

/-- A file that cannot be opened at its end is a failure that is told. -/
theorem isExpected_of_openAppend {directory : Directory} {path : Path} {fault : Fault}
    (failed : directory.openAppend path = .error fault) : IsExpected fault := by
  unfold Directory.openAppend at failed
  rcases bind_eq_error.mp failed with unlocated | ⟨location, -, failed⟩
  · exact isExpected_of_locate unlocated
  · split at failed
    · cases failed
      exact Or.inr (Or.inr rfl)
    · cases failed
    · cases failed

/-- The two digits of a byte. -/
def hexPair (byte : UInt8) : Text :=
  [.ofChar (byte.toNat / 16).digitChar, .ofChar (byte.toNat % 16).digitChar]

/-- The digits of bytes with a separator between each two bytes. -/
def hexLine (separator : Text) (bytes : Bytes) : Text :=
  Text.joinWith separator (bytes.map hexPair)

theorem mem_hexPair {byte : UInt8} {point : CodePoint} (mem : point ∈ hexPair byte) :
    0x30 ≤ point.value ∧ point.value ≤ 0x66 := by
  rw [hexPair, ← Text.ofHex_two byte.toNat_lt] at mem
  exact Text.mem_ofHex mem

theorem isClean_hexLine {separator : Text} (clean : separator.IsClean) (bytes : Bytes) :
    (hexLine separator bytes).IsClean := by
  intro point mem
  rcases Text.mem_joinWith mem with between | ⟨text, among, there⟩
  · exact clean point between
  · rcases List.mem_map.mp among with ⟨byte, -, rfl⟩
    have digit := mem_hexPair there
    simp only [CodePoint.isSurrogate, Bool.and_eq_false_iff, decide_eq_false_iff_not]
    omega

/-- Digits hold no escape sequence; only what stands between them can. -/
theorem withoutEscapes_hexLine {separator : Text}
    (plain : ∀ point ∈ separator, point.value ≠ 0x1B) (bytes : Bytes) :
    (hexLine separator bytes).withoutEscapes = hexLine separator bytes := by
  apply Text.withoutEscapes_of_plain
  intro point mem
  rcases Text.mem_joinWith mem with between | ⟨text, among, there⟩
  · exact plain point between
  · rcases List.mem_map.mp among with ⟨byte, -, rfl⟩
    have digit := mem_hexPair there
    omega

namespace Run

theorem showBytes_eq (separator : Text) (bytes : Bytes) :
    showBytes separator bytes = hexLine separator bytes := by
  have pairs : (bytes.map fun byte => Text.ofHex 2 byte.toNat) = bytes.map hexPair :=
    List.map_congr_left fun byte _ => Text.ofHex_two byte.toNat_lt
  rw [showBytes, pairs, hexLine]

section Showing

variable (run : Run) {policy : SurrogatePolicy} {request : Request} (separator : Text)

theorem encodeShown_of_fault {fault : Fault} (refused : (request.plan policy).fault = some fault) :
    run.encodeShown policy request separator = .failed run fault := by
  simp only [encodeShown, Sink.write, Sink.carryOut, Destination.deliver_memory, refused,
    Option.none_or]

theorem encodeShown_of_accepted (accepted : (request.plan policy).fault = none) :
    run.encodeShown policy request separator
      = run.print (hexLine separator (request.plan policy).bytes) := by
  simp only [encodeShown, Sink.write, Sink.carryOut, Destination.deliver_memory, accepted,
    Option.none_or, showBytes_eq, Memory.value_put]
  rfl

end Showing

/-- What is told of bytes that have been written to a file. -/
def writtenReport (path : Path) (count : Nat) : Text :=
  Text.ofString s!"Wrote {count} bytes to " ++ path.text

theorem withoutEscapes_writtenReport (path : Path) (count : Nat) :
    (writtenReport path count).withoutEscapes
      = Text.ofString "Wrote " ++ Text.ofNat count ++ Text.ofString " bytes to "
        ++ path.text.withoutEscapes := by
  have spelled : Text.ofString s!"Wrote {count} bytes to "
      = Text.ofString "Wrote " ++ Text.ofNat count ++ Text.ofString " bytes to " := by
    simp [Text.ofString, Text.ofNat]
    rfl
  have plain : ∀ point ∈ Text.ofString "Wrote " ++ Text.ofNat count ++ Text.ofString " bytes to ",
      point.value ≠ 0x1B := by
    have words : ∀ point ∈ Text.ofString "Wrote " ++ Text.ofString " bytes to ",
        point.value ≠ 0x1B := by decide
    intro point mem
    simp only [List.mem_append] at mem words
    rcases mem with (mem | mem) | mem
    · exact words point (Or.inl mem)
    · have digit := Text.mem_ofNat mem
      omega
    · exact words point (Or.inr mem)
  rw [writtenReport, spelled, Text.withoutEscapes_append plain]

/-- A stream to the end of a file that has just been opened. -/
def appender (path : Path) (target : Location) : Destination :=
  .stream { name := path.text, device := .file { location := target } }

section Writing

variable {run : Run} {path : Path} {target : Location} {opened : Directory}
  (writable : run.directory.openAppend path = .ok (target, opened)) (policy : SurrogatePolicy)
  (request : Request)

include writable

/-- A file that has just been opened takes all that it is given. -/
theorem deliver_appender (pieces : List Piece) :
    let store := (run.withDirectory opened).store
    let delivered := (appender path target).deliver store pieces
    delivered.fault = none ∧
      Destination.Took (store, appender path target) (pieces.flatMap Piece.bytes) delivered.state ∧
      delivered.state.2.WritesFile opened target target delivered.state.1 := by
  intro store delivered
  rcases Directory.openAppend_eq_ok writable with ⟨-, -, made, -⟩
  have sound : FileWriter.IsSound store { location := target } :=
    FileWriter.isSound_of_below made.below (by simp)
  have taken := @Destination.deliver_of_room store (appender path target) sound pieces rfl
  refine ⟨taken.1, taken.2, Destination.writesFile_deliver store _ pieces ?_⟩
  exact ⟨⟨path.text, 0, { location := target }, rfl, rfl, Or.inr rfl⟩, made,
    Directory.Keeps.refl _ _, List.prefix_refl _⟩

/-- The run after a request has been written to a file, and the file has been closed. -/
def written (run : Run) (opened : Directory) (policy : SurrogatePolicy) (request : Request)
    (path : Path) (target : Location) : Run :=
  let begun := run.withDirectory opened
  let delivered := (appender path target).deliver begun.store (request.plan policy).pieces
  ({ begun with store := delivered.state.1 }.notify delivered.notices).closeSink
    { policy, destination := delivered.state.2 }

theorem encodeToFile_eq :
    let closed := run.written opened policy request path target
    let count := (request.plan policy).bytes.length
    run.encodeToFile policy request path
      = match (request.plan policy).fault with
        | some fault => .failed closed fault
        | none =>
          (closed.inform "bytesink.cli.encode" "encode.written"
            [("path", .text path.text), ("bytes", .int count)]).print
              (writtenReport path count) := by
  intro closed count
  rcases deliver_appender writable (request.plan policy).pieces with ⟨taken, took, -⟩
  have counted : ((appender path target).deliver (run.withDirectory opened).store
      (request.plan policy).pieces).state.2.count = count := took.count.trans (Nat.zero_add _)
  have outcome : ((fileSink policy path { location := target }).write
      (run.withDirectory opened).store request).fault = (request.plan policy).fault :=
    (congrArg (Option.or · (request.plan policy).fault) taken).trans Option.none_or
  rw [encodeToFile, writable]
  simp only [outcome]
  cases (request.plan policy).fault with
  | some fault => rfl
  | none =>
      rw [← counted]
      rfl

/-- The bytes of a request stand after what the file held. -/
theorem written_of_unlogged (listening : run.log.IsOpen run.directory)
    (unlogged : ¬run.log.WritesTo target) :
    let closed := run.written opened policy request path target
    closed.log = run.log ∧ closed.stdout = run.stdout ∧
      Directory.Keeps (run.Touches target) run.directory closed.directory ∧
      closed.directory.entry? target
        = some (.file (run.directory.content target ++ (request.plan policy).bytes)) := by
  intro closed
  rcases Directory.openAppend_eq_ok writable with ⟨-, -, -, keeps⟩
  rcases deliver_appender writable (request.plan policy).pieces with ⟨-, took, writes⟩
  have opens : Directory.Keeps (run.Touches target) run.directory opened :=
    keeps.mono fun location never => never.elim
  have before : opened.content target = run.directory.content target :=
    keeps.contents target not_false
  have buffer : ((FileWriter.contents (run.withDirectory opened).store
      { location := target }).put (request.plan policy).bytes).buffer
      = opened.content target ++ (request.plan policy).bytes :=
    FileWriter.buffer_put_of_opened rfl _
  rcases @closeSink_of_writes (run.withDirectory opened) (listening.of_keeps opens) target target
    unlogged _ { policy, destination := _ } _ writes took.whole took.contents _ with
    ⟨log, stdout, kept, held⟩
  refine ⟨log, stdout, opens.trans kept, held.trans ?_⟩
  rw [← before, ← buffer]
  rfl

end Writing

theorem directory_print (run : Run) (line : Text) :
    (run.print line).state.directory = run.directory := by
  unfold print
  simp only
  split <;> rfl

/-- A request that is refused fails the run, whatever becomes of the file. -/
theorem encodeToFile_of_refused {run : Run} {policy : SurrogatePolicy} {request : Request}
    {path : Path} (refused : (request.plan policy).fault ≠ none) :
    ∃ fault, (run.encodeToFile policy request path).fault = some fault ∧ IsExpected fault ∧
      (run.encodeToFile policy request path).state.stdout = run.stdout := by
  cases writable : run.directory.openAppend path with
  | error fault =>
      refine ⟨fault, ?_, isExpected_of_openAppend writable, ?_⟩ <;>
        simp only [encodeToFile, writable] <;> rfl
  | ok found =>
      rcases Option.ne_none_iff_exists'.mp refused with ⟨fault, known⟩
      have failed := encodeToFile_eq writable policy request
      rw [known] at failed
      exact ⟨fault, by rw [failed]; rfl, isExpected_of_plan known, by rw [failed]; rfl⟩

end Run

/-- A run that comes, with valid settings, to carry out an order to encode. -/
structure EncodeRun where
  surroundings : Surroundings
  stamp : Log.Stamp
  arguments : List Text
  invocation : Invocation
  order : EncodeOrder
  /-- The run once its settings are loaded and its log is set up. -/
  ready : Run
  settings : Settings
  policy : SurrogatePolicy
  read : Invocation.read arguments = .ok invocation
  topic : invocation.topic = .encode
  ordered : EncodeOrder.read invocation.arguments = .ok order
  configured : (Run.start surroundings stamp).prepare surroundings.environment invocation.logLevel
    = (ready, .ok settings)
  named : SurrogatePolicy.ofValue settings.surrogatePolicy = .ok policy

namespace EncodeRun

def outcome (encode : EncodeRun) : Outcome :=
  run encode.surroundings encode.stamp encode.arguments

/-- Whether a run ends in a failure that is told, and prints nothing. -/
def Fails (encode : EncodeRun) : Prop :=
  encode.outcome.ending = .exit 1 ∧ encode.outcome.stdout = []

/-- Whether a run succeeds and prints a line. -/
def Prints (encode : EncodeRun) (line : Text) : Prop :=
  encode.outcome.ending = .exit 0 ∧ encode.outcome.stdout = line ++ Text.ofString "\n"

variable (encode : EncodeRun) {request : Request} {path : Path} {target : Location}
  {opened : Directory}

theorem outcome_eq :
    encode.outcome = Run.finish (encode.ready.encode encode.policy encode.order) := by
  have command : Command.read encode.invocation.topic encode.invocation.arguments
      = .ok (.encode encode.order) := by
    simp only [encode.topic, Command.read, encode.ordered, Except.map]
  exact run_of_command encode.read command encode.configured encode.named

/-- Until its command is carried out, a run prints nothing and writes to no file that was there. -/
theorem ready_of_start :
    encode.ready.stdout = [] ∧ encode.ready.log.IsOpen encode.ready.directory ∧
      Directory.Keeps (fun _ => False) encode.surroundings.directory encode.ready.directory := by
  rcases Run.prepare_eq_ok (Log.isOpen_of_no_handlers rfl _) encode.configured with
    ⟨stdout, listening, keeps, -⟩
  refine ⟨stdout, listening, keeps.mono ?_⟩
  rintro location ⟨number, format, mem⟩
  cases mem

theorem fails_of_expected {fault : Fault}
    (failed : (encode.ready.encode encode.policy encode.order).fault = some fault)
    (expected : IsExpected fault)
    (silent : (encode.ready.encode encode.policy encode.order).state.stdout
      = encode.ready.stdout) : encode.Fails := by
  have ended := finish_of_expected failed expected
  rw [Fails, encode.outcome_eq]
  exact ⟨ended.1, ended.2.trans (silent.trans encode.ready_of_start.1)⟩

theorem encode_of_malformed {fault : Fault}
    (malformed : encode.order.payload.request = .error fault) :
    encode.ready.encode encode.policy encode.order = .failed encode.ready fault := by
  simp only [Run.encode, malformed]

theorem fails_of_payload {fault : Fault}
    (malformed : encode.order.payload.request = .error fault) : encode.Fails := by
  have failed := encode.encode_of_malformed malformed
  exact encode.fails_of_expected (by rw [failed]; rfl) (isExpected_of_payload malformed)
    (by rw [failed]; rfl)

theorem fails_of_refused (requested : encode.order.payload.request = .ok request)
    (refused : (request.plan encode.policy).fault ≠ none) : encode.Fails := by
  cases out : encode.order.out with
  | none =>
      rcases Option.ne_none_iff_exists'.mp refused with ⟨fault, known⟩
      have failed :
          encode.ready.encode encode.policy encode.order = .failed encode.ready fault := by
        simp only [Run.encode, requested, out]
        exact Run.encodeShown_of_fault _ _ known
      exact encode.fails_of_expected (by rw [failed]; rfl) (isExpected_of_plan known)
        (by rw [failed]; rfl)
  | some path =>
      have same : encode.ready.encode encode.policy encode.order
          = encode.ready.encodeToFile encode.policy request path := by
        simp only [Run.encode, requested, out]
      rcases Run.encodeToFile_of_refused refused with ⟨fault, failed, expected, silent⟩
      rw [← same] at failed silent
      exact encode.fails_of_expected failed expected silent

theorem prints_of_shown (requested : encode.order.payload.request = .ok request)
    (out : encode.order.out = none) (accepted : (request.plan encode.policy).fault = none)
    (clean : encode.order.separator.IsClean) :
    encode.Prints
      (hexLine encode.order.separator (request.plan encode.policy).bytes).withoutEscapes := by
  have shown : encode.ready.encode encode.policy encode.order
      = encode.ready.encodeShown encode.policy request encode.order.separator := by
    simp only [Run.encode, requested, out]
  rw [Prints, encode.outcome_eq, shown, Run.encodeShown_of_accepted _ _ accepted,
    Run.print_of_isClean _ (isClean_hexLine clean _), finish_of_success rfl]
  exact ⟨rfl, congrArg (· ++ _) encode.ready_of_start.1⟩

theorem fails_of_unopened {fault : Fault} (requested : encode.order.payload.request = .ok request)
    (out : encode.order.out = some path)
    (unopened : encode.ready.directory.openAppend path = .error fault) : encode.Fails := by
  have failed : encode.ready.encode encode.policy encode.order = .failed encode.ready fault := by
    simp only [Run.encode, requested, out, Run.encodeToFile, unopened]
  exact encode.fails_of_expected (by rw [failed]; rfl) (isExpected_of_openAppend unopened)
    (by rw [failed]; rfl)

section Writing

variable (requested : encode.order.payload.request = .ok request)
  (out : encode.order.out = some path) (accepted : (request.plan encode.policy).fault = none)
  (writable : encode.ready.directory.openAppend path = .ok (target, opened))

include requested out accepted writable

theorem encode_of_accepted :
    encode.ready.encode encode.policy encode.order
      = ((encode.ready.written opened encode.policy request path target).inform
          "bytesink.cli.encode" "encode.written"
          [("path", .text path.text),
            ("bytes", .int (request.plan encode.policy).bytes.length)]).print
            (Run.writtenReport path (request.plan encode.policy).bytes.length) := by
  have written := Run.encodeToFile_eq writable encode.policy request
  simp only [accepted] at written
  simp only [Run.encode, requested, out]
  exact written

theorem prints_report (clean : path.text.IsClean) :
    encode.Prints
      (Run.writtenReport path (request.plan encode.policy).bytes.length).withoutEscapes := by
  have line : (Run.writtenReport path (request.plan encode.policy).bytes.length).IsClean :=
    (Text.isClean_ofString _).append clean
  rw [Prints, encode.outcome_eq, encode.encode_of_accepted requested out accepted writable,
    Run.print_of_isClean _ line, finish_of_success rfl]
  exact ⟨rfl, congrArg (· ++ _) encode.ready_of_start.1⟩

/-- What a run writes stands after what the file held. -/
theorem adds_to_file (unlogged : ¬encode.ready.log.WritesTo target) :
    Directory.Keeps (encode.ready.Touches target) encode.ready.directory encode.outcome.directory ∧
      encode.outcome.directory.entry? target
        = some (.file (encode.surroundings.directory.content target
            ++ (request.plan encode.policy).bytes)) := by
  rcases encode.ready_of_start with ⟨-, listening, keeps⟩
  rcases Run.written_of_unlogged writable encode.policy request listening unlogged with
    ⟨log, -, kept, held⟩
  have heard : (encode.ready.written opened encode.policy request path target).log.IsOpen
      (encode.ready.written opened encode.policy request path target).directory := by
    rw [log]
    exact listening.of_keeps kept
  have told := (Run.logs_inform heard "bytesink.cli.encode" "encode.written"
    [("path", .text path.text),
      ("bytes", .int (request.plan encode.policy).bytes.length)]).directory
  rw [log] at told
  rw [encode.outcome_eq, directory_finish,
    encode.encode_of_accepted requested out accepted writable, Run.directory_print]
  refine ⟨kept.trans (told.mono fun _ => Or.inr), ?_⟩
  rw [← keeps.contents target not_false]
  exact told.file unlogged held

end Writing

/-- A run that succeeds has opened its file and has been asked for what can be written. -/
theorem accepted_of_success (requested : encode.order.payload.request = .ok request)
    (out : encode.order.out = some path) (success : encode.outcome.ending = .exit 0) :
    (request.plan encode.policy).fault = none ∧
      ∃ target opened, encode.ready.directory.openAppend path = .ok (target, opened) := by
  have sound : ¬encode.Fails := by
    intro fails
    rw [fails.1] at success
    cases success
  constructor
  · by_contra refused
    exact sound (encode.fails_of_refused requested refused)
  · cases writable : encode.ready.directory.openAppend path with
    | error fault => exact absurd (encode.fails_of_unopened requested out writable) sound
    | ok found => exact ⟨found.1, found.2, rfl⟩

end EncodeRun

/--
Successful runs one after another that encode to the file of a path, which is no file of their logs,
with the policy of each and what it is asked to write.
-/
inductive EncodeRuns (path : Path) :
    Directory → List (SurrogatePolicy × Request) → Directory → Prop where
  | nil (directory : Directory) : EncodeRuns path directory [] directory
  | cons (encode : EncodeRun) {request : Request} {later : List (SurrogatePolicy × Request)}
      {final : Directory} (requested : encode.order.payload.request = .ok request)
      (out : encode.order.out = some path) (success : encode.outcome.ending = .exit 0)
      (unlogged : ∀ target, encode.ready.directory.locate path = .ok target →
        ¬encode.ready.log.WritesTo target)
      (runs : EncodeRuns path encode.outcome.directory later final) :
      EncodeRuns path encode.surroundings.directory ((encode.policy, request) :: later) final

namespace EncodeRuns

variable {path : Path} {start final : Directory} {writes : List (SurrogatePolicy × Request)}

theorem keeps (runs : EncodeRuns path start writes final) :
    Directory.Keeps (fun _ => True) start final := by
  induction runs with
  | nil directory => exact Directory.Keeps.refl _ _
  | cons encode requested out success unlogged runs ih =>
      rcases encode.accepted_of_success requested out success with
        ⟨accepted, target, opened, writable⟩
      have located := (Directory.openAppend_eq_ok writable).1
      have added := encode.adds_to_file requested out accepted writable (unlogged target located)
      have before := encode.ready_of_start.2.2
      exact ((before.mono fun _ _ => trivial).trans (added.1.mono fun _ _ => trivial)).trans ih

/-- The file holds the bytes of each run after those of the runs before. -/
theorem content (runs : EncodeRuns path start writes final) {target : Location}
    (located : final.locate path = .ok target) :
    (∀ write ∈ writes, (write.2.plan write.1).fault = none) ∧
      final.content target
        = start.content target ++ writes.flatMap fun write => (write.2.plan write.1).bytes := by
  induction runs with
  | nil directory => simp
  | cons encode requested out success unlogged runs ih =>
      rcases ih located with ⟨each, content⟩
      rcases encode.accepted_of_success requested out success with
        ⟨accepted, other, opened, writable⟩
      have first := (Directory.openAppend_eq_ok writable).1
      have added := encode.adds_to_file requested out accepted writable (unlogged other first)
      have same : other = target := by
        have later := Directory.locate_of_keeps runs.keeps (Directory.locate_of_keeps added.1 first)
        rw [located] at later
        exact (Except.ok.inj later).symm
      subst same
      rw [List.forall_mem_cons, content, Directory.content_of_entry added.2, List.flatMap_cons,
        List.append_assoc]
      exact ⟨⟨accepted, each⟩, rfl⟩

/-- One sink in memory takes all that the runs write, under their policy or under `replace`. -/
theorem heldInMemory? (runs : EncodeRuns path start writes final) {target : Location}
    (located : final.locate path = .ok target) {policy : SurrogatePolicy}
    (common : policy = .replace ∨ ∀ write ∈ writes, write.1 = policy) :
    ∃ bytes, Sink.heldInMemory? policy (writes.map Prod.snd) = some bytes ∧
      final.content target = start.content target ++ bytes := by
  rcases runs.content located with ⟨each, content⟩
  have alike : ∀ write ∈ writes, write.2.plan policy = write.2.plan write.1 := by
    intro write mem
    rcases common with rfl | same
    · exact (Request.plan_of_accepted (each write mem)).symm
    · rw [same write mem]
  refine ⟨_, Sink.heldInMemory?_eq_some_iff.mpr ⟨?_, rfl⟩, ?_⟩
  · rw [List.forall_mem_map]
    intro write mem
    rw [alike write mem]
    exact each write mem
  · rw [content, List.flatMap_map]
    have bytes : (writes.flatMap fun write => (write.2.plan write.1).bytes)
        = writes.flatMap fun write => (write.2.plan policy).bytes := by
      rw [List.flatMap_def, List.flatMap_def, List.map_congr_left]
      exact fun write mem => congrArg Plan.bytes (alike write mem).symm
    rw [bytes]

end EncodeRuns

/--
A run with valid settings that encodes a payload, and what a new sink in memory holds after the same
request, under the policy of the settings. If the sink accepts the request, the run succeeds. It
shows the digits of the bytes with the separator between them, without the escape sequences that
this line holds, so as it is if the separator has no escape character. Or it puts the bytes at the
end of a file, which is no file of the log, and tells how many they are. If the sink does not accept
the request, or the payload makes none, the run fails and prints nothing. Of successful runs that
encode to one file, each finds there what those before it have put, and one sink in memory holds the
same after all their requests.
-/
theorem encoded_as_in_memory :
    (∀ encode : EncodeRun,
      (∀ fault, encode.order.payload.request = .error fault → encode.Fails) ∧
      ∀ request, encode.order.payload.request = .ok request →
        (Sink.heldInMemory? encode.policy [request] = none → encode.Fails) ∧
        ∀ bytes, Sink.heldInMemory? encode.policy [request] = some bytes →
          (encode.order.out = none → encode.order.separator.IsClean →
            encode.Prints (hexLine encode.order.separator bytes).withoutEscapes ∧
            ((∀ point ∈ encode.order.separator, point.value ≠ 0x1B) →
              encode.Prints (hexLine encode.order.separator bytes))) ∧
          ∀ path target opened, encode.order.out = some path → path.text.IsClean →
            encode.ready.directory.openAppend path = .ok (target, opened) →
            ¬encode.ready.log.WritesTo target →
            encode.Prints (Text.ofString "Wrote " ++ Text.ofNat bytes.length
              ++ Text.ofString " bytes to " ++ path.text.withoutEscapes) ∧
            encode.outcome.directory.look path = .ok (some (target,
              .file (encode.surroundings.directory.content target ++ bytes)))) ∧
    ∀ path start writes final, EncodeRuns path start writes final →
      ∀ target, final.locate path = .ok target →
      ∀ policy, (policy = .replace ∨ ∀ write ∈ writes, write.1 = policy) →
        ∃ bytes, Sink.heldInMemory? policy (writes.map Prod.snd) = some bytes ∧
          final.content target = start.content target ++ bytes := by
  refine ⟨?_, fun path start writes final runs target located policy common =>
    runs.heldInMemory? located common⟩
  intro encode
  refine ⟨fun fault malformed => encode.fails_of_payload malformed, ?_⟩
  intro request requested
  constructor
  · intro refused
    apply encode.fails_of_refused requested
    intro accepted
    rw [Sink.heldInMemory?_singleton.mpr ⟨accepted, rfl⟩] at refused
    cases refused
  · intro bytes held
    rcases Sink.heldInMemory?_singleton.mp held with ⟨accepted, rfl⟩
    constructor
    · intro out clean
      have shown := encode.prints_of_shown requested out accepted clean
      refine ⟨shown, fun plain => ?_⟩
      rwa [withoutEscapes_hexLine plain] at shown
    · intro path target opened out clean writable unlogged
      have told := encode.prints_report requested out accepted writable clean
      have added := encode.adds_to_file requested out accepted writable unlogged
      have located := (Directory.openAppend_eq_ok writable).1
      rw [Run.withoutEscapes_writtenReport] at told
      exact ⟨told, Directory.look_eq_ok_some_iff.mpr
        ⟨Directory.locate_of_keeps added.1 located, added.2⟩⟩

/-- Surroundings with the files of a directory and no settings. -/
def plainSurroundings (directory : Directory) : Surroundings where
  directory := directory
  environment := { startHome := some .root }

/-- A run that shows the two bytes of a number. -/
def shownRun : EncodeRun where
  surroundings := plainSurroundings {}
  stamp := ⟨[], []⟩
  arguments := ["encode", "int16", "258"].map Text.ofString
  invocation := ⟨none, .encode, ["int16", "258"].map Text.ofString⟩
  order := ⟨.number .int16 258, none, Text.ofString " "⟩
  ready := ((Run.start (plainSurroundings {}) ⟨[], []⟩).prepare
    (plainSurroundings {}).environment none).1
  settings := {}
  policy := .replace
  read := by rfl
  topic := rfl
  ordered := by rfl
  configured := Prod.ext rfl (by rfl)
  named := rfl

/-- A run that adds the two bytes of a number to a file. -/
def addingRun (content : Bytes) : EncodeRun where
  surroundings := plainSurroundings { entries := [([Text.ofString "a"], .file content)] }
  stamp := ⟨[], []⟩
  arguments := ["encode", "int16", "258", "--out", "a"].map Text.ofString
  invocation := ⟨none, .encode, ["int16", "258", "--out", "a"].map Text.ofString⟩
  order := ⟨.number .int16 258, some (Path.ofText (Text.ofString "a")), Text.ofString " "⟩
  ready :=
    let surroundings := plainSurroundings { entries := [([Text.ofString "a"], .file content)] }
    ((Run.start surroundings ⟨[], []⟩).prepare surroundings.environment none).1
  settings := {}
  policy := .replace
  read := by rfl
  topic := rfl
  ordered := by rfl
  configured := Prod.ext rfl (by rfl)
  named := rfl

theorem addingRun_unlogged (content : Bytes) (target : Location) :
    ¬(addingRun content).ready.log.WritesTo target := by
  rintro ⟨number, format, mem⟩
  rw [show (addingRun content).ready.log.handlers = [.managed 0 .stderr _] from rfl] at mem
  simp at mem

/-- A number is shown, and is added twice to a file that held one byte. -/
theorem encoded_as_in_memory_twice :
    shownRun.Prints (Text.ofString "01 02") ∧
      (addingRun [7, 1, 2]).outcome.directory.content [Text.ofString "a"] = [7, 1, 2, 1, 2] := by
  have held : Sink.heldInMemory? .replace [.int16 258] = some [1, 2] := by rfl
  have shown := ((encoded_as_in_memory.1 shownRun).2 (.int16 258) rfl).2 [1, 2] held
  have plain := (shown.1 rfl (Text.isClean_ofString " ")).2 (by decide)
  have runs : EncodeRuns (Path.ofText (Text.ofString "a")) (addingRun [7]).surroundings.directory
      [(.replace, .int16 258), (.replace, .int16 258)] (addingRun [7, 1, 2]).outcome.directory := by
    apply EncodeRuns.cons (addingRun [7]) rfl rfl (by rfl) fun target _ => addingRun_unlogged _ _
    have next :
        (addingRun [7]).outcome.directory = (addingRun [7, 1, 2]).surroundings.directory := by
      rfl
    rw [next]
    exact .cons (addingRun [7, 1, 2]) rfl rfl (by rfl) (fun target _ => addingRun_unlogged _ _)
      (.nil _)
  rcases encoded_as_in_memory.2 _ _ _ _ runs [Text.ofString "a"] (by rfl) .replace (Or.inl rfl)
    with ⟨bytes, all, content⟩
  have both : Sink.heldInMemory? .replace [.int16 258, .int16 258] = some [1, 2, 1, 2] := by rfl
  obtain rfl := Option.some.inj (all.symm.trans both)
  exact ⟨plain, content⟩

/-- A separator that is an escape sequence is not printed between the digits. -/
theorem escape_separator_left_out :
    let separator := Text.ofString "\x1b[K"
    let outcome := run (plainSurroundings {}) ⟨[], []⟩
      (["encode", "int16", "--sep", "\x1b[K", "258"].map Text.ofString)
    separator.IsClean ∧ Sink.heldInMemory? .replace [.int16 258] = some [1, 2] ∧
      outcome.ending = .exit 0 ∧ outcome.stdout = Text.ofString "0102\n" ∧
      outcome.stdout ≠ hexLine separator [1, 2] ++ Text.ofString "\n" := by
  intro separator outcome
  have printed : outcome.stdout = Text.ofString "0102\n" := by rfl
  refine ⟨Text.isClean_ofString _, by rfl, by rfl, printed, ?_⟩
  rw [printed]
  decide

end CommandLine

end IndexWire
