import IndexWire.Proofs.Session.Window

/-!
# Sessions in other surroundings

The surroundings of a session are its settings, the environment and the files. Two sessions with the
same objects and the same buffers go on alike, whatever surrounds them. There are two exceptions: a
sink that is made without a policy asks for the settings, and a source that reads from a file sees
what is in the file.

The proof is a lockstep simulation. `Attempt.Agree` relates two deliveries or copies, `Alike` two
sessions.
-/

namespace IndexWire

variable {one two : Store}

/-- Two attempts that end alike in stores with the same buffers. -/
structure Attempt.Agree {State : Type} (one two : Attempt (Store × State)) : Prop where
  fault : two.fault = one.fault
  state : two.state.2 = one.state.2
  buffers : two.state.1.buffers = one.state.1.buffers

theorem Attempt.Agree.map {State Whole : Type} {one two : Attempt (Store × State)}
    (agree : one.Agree two) (embed : State → Whole) :
    (one.map fun (store, state) => (store, embed state)).Agree
      (two.map fun (store, state) => (store, embed state)) :=
  ⟨agree.fault, congrArg embed agree.state, agree.buffers⟩

theorem Store.buffer_congr (same : two.buffers = one.buffers) (id : BufferId) :
    two.buffer id = one.buffer id := by
  rw [Store.buffer, Store.buffer, same]

/-! ## Writing -/

namespace FileWriter

theorem state_commit (one two : Store) (writer : FileWriter) (bytes : Bytes) :
    (writer.commit two bytes).2 = (writer.commit one bytes).2 := by
  unfold commit
  split <;> rfl

/-- What waits in a writer does not depend on what is in the files. -/
theorem state_write (one two : Store) (writer : FileWriter) (bytes : Bytes) :
    (writer.write two bytes).2 = (writer.write one bytes).2 := by
  simp only [write, flush]
  split
  · rfl
  · split
    · simp only [state_commit one two]
    · rw [state_commit two, state_commit _ one, state_commit one two]
      exact state_commit _ _ _ _

end FileWriter

theorem Device.agree_write (same : two.buffers = one.buffers) (device : Device) (bytes : Bytes) :
    (device.write one bytes).Agree (device.write two bytes) := by
  cases device with
  | writer device => exact ⟨rfl, rfl, same⟩
  | file device =>
      by_cases closed : device.isClosed = true
      · simp only [write, if_pos closed]
        exact ⟨rfl, rfl, same⟩
      · simp only [write, if_neg closed]
        refine ⟨rfl, congrArg Device.file (device.state_write one two bytes), ?_⟩
        simpa using same

theorem Device.agree_flush (same : two.buffers = one.buffers) (device : Device) :
    (device.flush one).Agree (device.flush two) := by
  cases device with
  | writer device => exact ⟨rfl, rfl, same⟩
  | file device =>
      by_cases closed : device.isClosed = true
      · simp only [flush, if_pos closed]
        exact ⟨rfl, rfl, same⟩
      · simp only [flush, if_neg closed, FileWriter.flush]
        refine ⟨rfl, ?_, by simpa using same⟩
        rw [device.state_commit one two]

namespace Stream

theorem agree_put (same : two.buffers = one.buffers) (stream : Stream) (bytes : Bytes) :
    (stream.put one bytes).Agree (stream.put two bytes) := by
  have written := stream.device.agree_write same bytes
  unfold put
  simp only [written.fault]
  split
  · exact ⟨rfl, by simp only [Attempt.failed, written.state], written.buffers⟩
  · exact ⟨rfl, by simp only [written.state], written.buffers⟩

theorem agree_flush (same : two.buffers = one.buffers) (stream : Stream) :
    (stream.flush one).Agree (stream.flush two) := by
  have flushed := stream.device.agree_flush same
  exact ⟨flushed.fault, by simp only [flush, Attempt.map, flushed.state], flushed.buffers⟩

theorem agree_close (same : two.buffers = one.buffers) (stream : Stream) :
    (stream.close one).Agree (stream.close two) := by
  rcases stream with ⟨name, written, writer | file⟩
  · exact ⟨rfl, rfl, same⟩
  · refine ⟨rfl, ?_, by simpa [close, Device.close, FileWriter.close, FileWriter.flush] using same⟩
    simp only [close, Device.close, FileWriter.close, FileWriter.flush, file.state_commit one two]

end Stream

namespace Destination

theorem agree_put (same : two.buffers = one.buffers) (destination : Destination) (piece : Piece) :
    (destination.put one piece).Agree (destination.put two piece) := by
  cases destination with
  | memory target => exact ⟨rfl, rfl, same⟩
  | counter count => exact ⟨rfl, rfl, same⟩
  | recorder target => exact ⟨rfl, rfl, same⟩
  | stream target => exact (target.agree_put same piece.bytes).map stream
  | region target =>
      simp only [put, Store.buffer_congr same]
      split
      · exact ⟨rfl, rfl, by simp only [Store.setBuffer, same]⟩
      · exact ⟨rfl, rfl, same⟩

theorem agree_deliver (same : two.buffers = one.buffers) (destination : Destination)
    (pieces : List Piece) : (destination.deliver one pieces).Agree
      (destination.deliver two pieces) := by
  induction pieces generalizing one two destination with
  | nil => exact ⟨rfl, rfl, same⟩
  | cons piece rest ih =>
      have first := destination.agree_put same piece
      simp only [deliver, first.fault]
      split
      · exact first
      · rw [first.state]
        exact ih first.buffers _

end Destination

theorem Sink.agree_write (same : two.buffers = one.buffers) (sink : Sink) (request : Request) :
    (sink.write one request).Agree (sink.write two request) := by
  have delivered := sink.destination.agree_deliver same (request.plan sink.policy).pieces
  refine ⟨?_, ?_, delivered.buffers⟩
  · simp only [Sink.write, Sink.carryOut, delivered.fault]
  · simp only [Sink.write, Sink.carryOut, delivered.state]

/-! ## Reading -/

/-- Whether bytes are taken from a file. -/
def Origin.IsFile : Origin → Prop
  | .stored (.file _) => True
  | _ => False

theorem Origin.bytes_congr (same : two.buffers = one.buffers) {origin : Origin}
    (apart : ¬origin.IsFile) : origin.bytes two = origin.bytes one := by
  rcases origin with content | ⟨id⟩ | ⟨location⟩
  · rfl
  · simp only [Origin.bytes, Place.bytes, Store.buffer_congr same]
  · exact absurd trivial apart

theorem Input.fill_of_buffers (same : two.buffers = one.buffers) {input : Input}
    (apart : ¬input.origin.IsFile) (shared : Option BufferId) (target : Memory)
    (room wanted filled : Nat) :
    input.fill two shared target room wanted filled
      = input.fill one shared target room wanted filled := by
  fun_induction fill one input shared target room wanted filled generalizing two with
  | case1 store input target room filled unfinished changed fault answer =>
      rw [fill, dif_pos unfinished, read_congr (Origin.bytes_congr same apart), answer]
  | case2 store input target room filled unfinished changed answer =>
      rw [fill, dif_pos unfinished, read_congr (Origin.bytes_congr same apart), answer]
  | case3 store input target room filled unfinished changed head tail answer size fits put
      next =>
      rename_i ih
      rw [fill, dif_pos unfinished, read_congr (Origin.bytes_congr same apart), answer]
      apply (if_pos fits).trans
      apply ih
      · cases shared with
        | none => exact same
        | some id =>
            simp only [next, put, Option.elim_some, Store.refresh, Store.setBuffer, same,
              Store.buffer_congr same]
      · rw [origin_of_read answer]
        exact apart
  | case4 store input target room filled unfinished changed head tail answer size =>
      rename_i tooMany
      rw [fill, dif_pos unfinished, read_congr (Origin.bytes_congr same apart), answer]
      exact if_neg tooMany
  | case5 store input target room filled finished =>
      rw [fill, dif_neg finished]

theorem Source.readInto_of_buffers (same : two.buffers = one.buffers) {source : Source}
    (apart : ¬source.origin.IsFile) (shared : Option BufferId) (target : Buffer)
    (offset length : Int) :
    source.readInto two shared target offset length
      = source.readInto one shared target offset length := by
  cases source with
  | memory content position =>
      exact readInto_congr (Origin.bytes_congr same apart) target offset length
  | stream input =>
      simp only [readInto, Input.fill_of_buffers same apart]

theorem Source.eq_of_readByte {store : Store} {content : Content} {position : Int} {byte : UInt8}
    {source : Source} (answer : readByte store content position = .ok (byte, source)) :
    source = memory content (position + 1) := by
  simp only [readByte] at answer
  grind

/-! ## Copying -/

/-- Two transfers with the same sink and the same source, in stores with the same buffers. -/
structure Transfer.Alike (one two : Transfer) : Prop where
  sink : two.sink = one.sink
  source : two.source = one.source
  buffers : two.store.buffers = one.store.buffers
  apart : ¬one.source.origin.IsFile

namespace Transfer.Alike

variable {one two : Transfer}

theorem load (alike : one.Alike two) (count : Nat) :
    (one.load count).state.Alike (two.load count).state ∧
      (two.load count).fault = (one.load count).fault := by
  rcases one with ⟨store, sink, source⟩
  rcases two with ⟨other, held, origin⟩
  cases alike.sink
  cases alike.source
  have read := Source.readInto_of_buffers alike.buffers alike.apart none
    { bytes := sink.scratch.getD [] } 0 count
  simp only [Transfer.load, read, Attempt.map]
  refine ⟨⟨rfl, rfl, alike.buffers, ?_⟩, trivial⟩
  rw [Source.origin_readInto]
  exact alike.apart

theorem unload (alike : one.Alike two) (count : Nat) :
    (one.unload count).state.Alike (two.unload count).state ∧
      (two.unload count).fault = (one.unload count).fault := by
  rcases one with ⟨store, sink, source⟩
  rcases two with ⟨other, held, origin⟩
  cases alike.sink
  cases alike.source
  have written := sink.agree_write alike.buffers
    (.bytes (sink.scratch.getD []) 0 (some (count : Int)))
  exact ⟨⟨written.state, rfl, written.buffers, alike.apart⟩, written.fault⟩

theorem moveBlocks (alike : one.Alike two) (left : Nat) :
    (one.moveBlocks left).state.Alike (two.moveBlocks left).state := by
  fun_induction Transfer.moveBlocks one left generalizing two with
  | case1 transfer left unfinished count loaded fault =>
      rename_i failed
      have read := alike.load count
      rw [moveBlocks_of_load_fault unfinished (read.2.trans failed)]
      exact read.1
  | case2 transfer left unfinished count loaded accepted unloaded fault =>
      rename_i failed
      have read := alike.load count
      have written := read.1.unload count
      rw [moveBlocks_of_unload_fault unfinished (read.2.trans accepted) (written.2.trans failed)]
      exact written.1
  | case3 transfer left unfinished count loaded accepted =>
      rename_i unloaded success ih
      have read := alike.load count
      have written := read.1.unload count
      rw [moveBlocks_of_unload unfinished (read.2.trans accepted) (written.2.trans success)]
      exact ih written.1
  | case4 transfer left finished =>
      rw [Transfer.moveBlocks, dif_neg finished]
      exact alike

theorem copy (alike : one.Alike two) (count : Int) :
    (one.copy count).state.Alike (two.copy count).state := by
  by_cases negative : count < 0
  · simp only [Transfer.copy, if_pos negative]
    exact alike
  · rw [(copy_of_nonneg one (Int.not_lt.mp negative)).1,
      (copy_of_nonneg two (Int.not_lt.mp negative)).1]
    apply moveBlocks
    exact ⟨congrArg Sink.withScratch alike.sink, alike.source, alike.buffers, alike.apart⟩

end Transfer.Alike

namespace Session

/-- A session after steps. -/
def after (session : Session) (steps : List Step) : Session :=
  steps.foldl (fun session step => (session.step step).session) session

theorem session_lacking (session : Session) (name : Text) (method : String) :
    (session.lacking name method).session = session := by
  unfold lacking
  split <;> rfl

theorem session_refused (session : Session) (name : Text) (method : String) (outcome : Outcome) :
    (session.refused name method outcome).session = session := by
  unfold refused
  split
  · rfl
  · exact session_lacking session name method

theorem object?_drop_self (session : Session) (name : Text) :
    (session.drop name).object? name = none := by
  simp only [object?, drop, Option.map_eq_none_iff, List.find?_eq_none]
  intro entry mem
  have other := (List.mem_filter.mp mem).2
  simpa using other

theorem object?_drop_of_ne {name other : Text} (different : other ≠ name) (session : Session) :
    (session.drop name).object? other = session.object? other := by
  simp only [object?, drop, List.find?_filter]
  congr 2
  funext entry
  by_cases same : entry.1 = other
  · simp [same, different]
  · simp [same]

section Congruence

variable {one two : Session} (objects : two.objects = one.objects)
  (buffers : two.store.buffers = one.store.buffers)

include objects

theorem object?_congr (name : Text) : two.object? name = one.object? name := by
  simp only [object?, objects]

include buffers

theorem destination?_congr (target : Target) :
    two.destination? target = one.destination? target := by
  cases target <;>
    simp only [destination?, object?_congr objects, Store.buffer_congr buffers]

theorem drop_congr (name : Text) : (two.drop name).objects = (one.drop name).objects ∧
    (two.drop name).store.buffers = (one.drop name).store.buffers := by
  refine ⟨by simp only [drop, objects], ?_⟩
  simp only [drop, object?_congr objects]
  split
  · rename_i source found
    cases viewed? source with
    | none => exact buffers
    | some id =>
        simp only [Option.elim_some, Store.unpin, Store.setBuffer, buffers,
          Store.buffer_congr buffers]
  · exact buffers

end Congruence

/-- Whether no source of a session takes bytes from a file. -/
def IsApart (session : Session) : Prop :=
  ∀ name source, session.object? name = some (.source source) → ¬source.origin.IsFile

theorem IsApart.setSink {session : Session} (apart : session.IsApart) (name : Text) (sink : Sink) :
    (session.setObject name (.sink sink)).IsApart := by
  intro other source found
  by_cases own : other = name
  · rw [own, object?_setObject_self] at found
    cases found
  · rw [object?_setObject_of_ne own] at found
    exact apart other source found

theorem IsApart.drop {session : Session} (apart : session.IsApart) (name : Text) :
    (session.drop name).IsApart := by
  intro other source found
  by_cases own : other = name
  · rw [own, object?_drop_self] at found
    cases found
  · rw [object?_drop_of_ne own] at found
    exact apart other source found

theorem IsApart.newSink {session : Session} (apart : session.IsApart) (name : Text)
    (policy : Option Value) (target : Target) :
    (session.newSink name policy target).session.IsApart := by
  have dropped := apart.drop name
  have chosen : ((session.drop name).choosePolicy policy).1.IsApart := by
    cases policy <;> exact dropped
  unfold Session.newSink
  simp only
  split
  · exact dropped
  · split
    · exact chosen
    · exact chosen
    · exact chosen.setSink name _

/-- Two sessions with the same objects and the same buffers, in which no source reads a file. -/
structure Alike (one two : Session) : Prop where
  objects : two.objects = one.objects
  buffers : two.store.buffers = one.store.buffers
  apart : one.IsApart

namespace Alike

variable {one two : Session} {name : Text}

theorem object? (alike : one.Alike two) (name : Text) : two.object? name = one.object? name :=
  object?_congr alike.objects name

theorem content? (alike : one.Alike two) (data : Data) : two.content? data = one.content? data := by
  cases data <;> simp only [Session.content?, Session.buffer?, alike.object?]

theorem withStore (alike : one.Alike two) {first second : Store}
    (same : second.buffers = first.buffers) :
    Alike { one with store := first } { two with store := second } :=
  ⟨alike.objects, same, alike.apart⟩

theorem setObject (alike : one.Alike two) {object : Object}
    (apart : ∀ source, object = .source source → ¬source.origin.IsFile) :
    (one.setObject name object).Alike (two.setObject name object) := by
  refine ⟨by simp only [Session.setObject, alike.objects], alike.buffers, ?_⟩
  intro other source found
  by_cases own : other = name
  · rw [own, object?_setObject_self] at found
    exact apart source (Option.some.inj found)
  · rw [object?_setObject_of_ne own] at found
    exact alike.apart other source found

theorem setSink (alike : one.Alike two) (sink : Sink) :
    (one.setObject name (.sink sink)).Alike (two.setObject name (.sink sink)) :=
  ⟨by simp only [Session.setObject, alike.objects], alike.buffers, alike.apart.setSink name sink⟩

theorem lacking (alike : one.Alike two) (name : Text) (method : String) :
    (one.lacking name method).session.Alike (two.lacking name method).session := by
  rw [session_lacking, session_lacking]
  exact alike

theorem write (alike : one.Alike two) (name : Text) (request : Request) :
    (one.write name request).session.Alike (two.write name request).session := by
  simp only [Session.write, alike.object?]
  split
  · rename_i sink found
    have written := sink.agree_write alike.buffers request
    simp only [written.state]
    exact (alike.withStore written.buffers).setSink _
  · exact alike.lacking name _

theorem writeBytes (alike : one.Alike two) (name : Text) (data : Data) (offset : Int)
    (length : Option Int) :
    (one.writeBytes name data offset length).session.Alike
      (two.writeBytes name data offset length).session := by
  simp only [Session.writeBytes, alike.content?]
  split
  · rw [session_refused, session_refused]
    exact alike
  · exact alike.write name _
  · rename_i id given
    have pinned : (two.store.pin id).buffers = (one.store.pin id).buffers := by
      simp only [Store.pin, Store.setBuffer, alike.buffers, Store.buffer_congr alike.buffers]
    have written := (alike.withStore pinned).write name
      (.bytes (one.store.buffer id).bytes offset length)
    simp only [Store.buffer_congr alike.buffers]
    apply written.withStore
    simp only [Store.unpin, Store.setBuffer, written.buffers, Store.buffer_congr written.buffers]

theorem copy (alike : one.Alike two) (name source : Text) (count : Int) :
    (one.copy name source count).session.Alike (two.copy name source count).session := by
  simp only [Session.copy, alike.object?]
  split
  · rename_i sink origin found given
    have start : (Transfer.mk one.store sink origin).Alike ⟨two.store, sink, origin⟩ :=
      ⟨rfl, rfl, alike.buffers, alike.apart source origin given⟩
    have copied := start.copy count
    simp only [copyFrom, copied.sink, copied.source]
    apply ((alike.withStore copied.buffers).setSink _).setObject
    intro changed same
    cases same
    exact copied.apart
  · rename_i sink other noSource found given
    have start : (Transfer.mk one.store sink (.memory (.own []) 0)).Alike
        ⟨two.store, sink, .memory (.own []) 0⟩ := ⟨rfl, rfl, alike.buffers, fun file => file⟩
    simp only [copyFromOther, (start.copy (min count 0)).sink]
    split <;> exact alike.setSink _
  · exact alike
  · exact alike.lacking name _

theorem reset (alike : one.Alike two) (name : Text) (offset : Option (Option Int)) :
    (one.reset name offset).session.Alike (two.reset name offset).session := by
  simp only [Session.reset, alike.object?]
  split
  · split
    · exact alike.setSink _
    · exact alike
    · split
      · exact alike.setSink _
      · exact alike
    · exact alike.lacking name _
  · exact alike.lacking name _

theorem onStream (alike : one.Alike two) (name : Text) (method : String)
    (call : Stream → Store → Attempt (Store × Stream))
    (agree : ∀ stream, (call stream one.store).Agree (call stream two.store)) :
    (one.onStream name method call).session.Alike (two.onStream name method call).session := by
  simp only [Session.onStream, alike.object?]
  split
  · split
    · rename_i stream found
      simp only [(agree stream).state]
      exact (alike.withStore (agree stream).buffers).setSink _
    · exact alike.lacking name _
  · exact alike.lacking name _

theorem readByte (alike : one.Alike two) (name : Text) :
    (one.readByte name).session.Alike (two.readByte name).session := by
  simp only [Session.readByte, alike.object?]
  split
  · rename_i content position found
    have apart := alike.apart name _ found
    have same : content.bytes two.store = content.bytes one.store := by
      have bytes := Origin.bytes_congr alike.buffers apart
      simpa only [Source.origin, Content.bytes_origin] using bytes
    have read : Source.readByte two.store content position
        = Source.readByte one.store content position := by
      simp only [Source.readByte, same]
    rw [read]
    split
    · rename_i byte source answer
      apply alike.setObject
      rintro changed given
      cases given
      rw [Source.eq_of_readByte answer]
      exact apart
    · exact alike
  · exact alike.lacking name _

theorem readBytes (alike : one.Alike two) (name buffer : Text) (offset length : Int) :
    (one.readBytes name buffer offset length).session.Alike
      (two.readBytes name buffer offset length).session := by
  simp only [Session.readBytes, alike.object?]
  split
  · rename_i source id found given
    have apart := alike.apart name source found
    simp only [Store.buffer_congr alike.buffers, Source.readInto_of_buffers alike.buffers apart]
    apply (alike.withStore _).setObject
    · intro changed same
      cases same
      rw [Source.origin_readInto]
      exact apart
    · simp only [Store.setBuffer, alike.buffers]
  · exact alike
  · exact alike
  · exact alike.lacking name _

theorem drop (alike : one.Alike two) (name : Text) : (one.drop name).Alike (two.drop name) :=
  have same := drop_congr alike.objects alike.buffers name
  ⟨same.1, same.2, alike.apart.drop name⟩

theorem setSource (alike : one.Alike two) {source : Source} (apart : ¬source.origin.IsFile) :
    (one.setSource name source).Alike (two.setSource name source) := by
  simp only [Session.setSource]
  apply (alike.withStore _).setObject
  · intro given same
    cases same
    exact apart
  · cases viewed? source with
    | none => exact alike.buffers
    | some id =>
        simp only [Option.elim_some, Store.pin, Store.setBuffer, alike.buffers,
          Store.buffer_congr alike.buffers]

theorem newBuffer (alike : one.Alike two) (name : Text) (data : Data) :
    (one.step (.newBuffer name data)).session.Alike (two.step (.newBuffer name data)).session := by
  have dropped := alike.drop name
  have bytes : (two.drop name).bytes? data = (one.drop name).bytes? data := by
    simp only [bytes?, dropped.content?]
    cases (one.drop name).content? data with
    | none => rfl
    | some content =>
        cases content with
        | own bytes => rfl
        | shared id =>
            simp only [Option.map_some, Content.bytes, Store.buffer_congr dropped.buffers]
  simp only [step, bytes]
  split
  · exact dropped
  · rename_i content given
    simp only [Store.addBuffer, dropped.buffers]
    apply (dropped.withStore (by rfl)).setObject
    intro source other
    cases other

theorem newSink (alike : one.Alike two) (name : Text) (policy : Value) (target : Target) :
    (one.newSink name (some policy) target).session.Alike
      (two.newSink name (some policy) target).session := by
  have dropped := alike.drop name
  simp only [Session.newSink, destination?_congr dropped.objects dropped.buffers, choosePolicy]
  split
  · exact dropped
  · split
    · exact dropped
    · exact dropped
    · exact dropped.setSink _

theorem not_isFile_content (content : Content) : ¬content.origin.IsFile := by
  cases content <;> exact fun file => file

theorem newMemorySource (alike : one.Alike two) (name : Text) (data : Data)
    (offset : Option Int) : (one.newMemorySource name data offset).session.Alike
      (two.newMemorySource name data offset).session := by
  have dropped := alike.drop name
  simp only [Session.newMemorySource, dropped.content?]
  split
  · exact dropped
  · exact dropped
  · rename_i content start given
    have bytes := Origin.bytes_congr dropped.buffers (not_isFile_content content)
    rw [Content.bytes_origin, Content.bytes_origin] at bytes
    simp only [Source.ofContent, bytes]
    split
    · exact dropped
    · rename_i source made
      split at made
      · cases made
        exact dropped.setSource (not_isFile_content content)
      · cases made

theorem newStreamSource (alike : one.Alike two) (name : Text) (data : Data) (reader : Reader) :
    (one.newStreamSource name data reader).session.Alike
      (two.newStreamSource name data reader).session := by
  have dropped := alike.drop name
  simp only [Session.newStreamSource, dropped.content?]
  split
  · exact dropped
  · rename_i content given
    exact dropped.setSource (not_isFile_content content)

end Alike

/-- Whether a step is about the settings, the environment or the files only. -/
def Step.isAround : Step → Bool
  | .setVariable _ _ | .writeFile _ _ | .resetSettings | .getSettings _ | .loadSettings _
  | .makeSettings _ | .assignSetting _ _ => true
  | _ => false

/-- Whether a step makes a sink with the policy of the settings. -/
def Step.TakesPolicy : Step → Prop
  | .newSink _ none _ => True
  | _ => False

theorem Alike.around {one two : Session} (alike : one.Alike two) {step : Step}
    (around : step.isAround = true) : one.Alike (two.step step).session := by
  have kept : (two.step step).session.objects = two.objects ∧
      (two.step step).session.store.buffers = two.store.buffers := by
    cases step with
    | setVariable name value =>
        simp only [Session.step]
        split <;> exact ⟨rfl, rfl⟩
    | writeFile path content =>
        simp only [Session.step, writeFile]
        split
        · exact ⟨rfl, rfl⟩
        · split <;> exact ⟨rfl, rfl⟩
    | resetSettings => exact ⟨rfl, rfl⟩
    | getSettings path =>
        simp only [Session.step, answerSettings]
        split <;> exact ⟨rfl, rfl⟩
    | loadSettings path =>
        simp only [Session.step, answerSettings]
        split <;> exact ⟨rfl, rfl⟩
    | makeSettings entries =>
        simp only [Session.step, answerSettings]
        split <;> exact ⟨rfl, rfl⟩
    | assignSetting field value =>
        simp only [Session.step, assignSetting]
        split <;> exact ⟨rfl, rfl⟩
    | _ => cases around
  exact ⟨kept.1.trans alike.objects, kept.2.trans alike.buffers, alike.apart⟩

theorem Alike.step {one two : Session} (alike : one.Alike two) {step : Step}
    (inside : step.isAround = false) (given : ¬step.TakesPolicy) :
    (one.step step).session.Alike (two.step step).session := by
  cases step with
  | newBuffer name data => exact alike.newBuffer name data
  | newSink name policy target =>
      cases policy with
      | none => exact absurd trivial given
      | some policy => exact alike.newSink name policy target
  | newMemorySource name data offset => exact alike.newMemorySource name data offset
  | newStreamSource name data reader => exact alike.newStreamSource name data reader
  | write name request => exact alike.write name request
  | writeBytes name data offset length => exact alike.writeBytes name data offset length
  | copy name source count => exact alike.copy name source count
  | reset name offset => exact alike.reset name offset
  | flush name =>
      exact alike.onStream name "flush" Stream.flush fun stream => stream.agree_flush alike.buffers
  | close name =>
      exact alike.onStream name "close" Stream.close fun stream => stream.agree_close alike.buffers
  | leave name =>
      exact alike.onStream name "__exit__" Stream.close fun stream =>
        stream.agree_close alike.buffers
  | enter name =>
      have entered := alike.onStream name "__enter__"
        (fun stream store => { state := (store, stream) })
        fun stream => ⟨rfl, rfl, alike.buffers⟩
      simp only [Session.step]
      split <;> split <;> exact entered
  | readByte name => exact alike.readByte name
  | readBytes name buffer offset length => exact alike.readBytes name buffer offset length
  | _ => cases inside

theorem IsApart.step {session : Session} (apart : session.IsApart) (step : Step) :
    (session.step step).session.IsApart := by
  have same : session.Alike session := ⟨rfl, rfl, apart⟩
  cases place : step.isAround with
  | true =>
      intro name source found
      rw [(same.around place).object?] at found
      exact apart name source found
  | false =>
      by_cases given : step.TakesPolicy
      · cases step with
        | newSink name policy target => exact apart.newSink name policy target
        | _ => exact absurd given fun absurd => absurd
      · exact (same.step place given).apart

theorem IsApart.after {session : Session} (apart : session.IsApart) (steps : List Step) :
    (session.after steps).IsApart := by
  induction steps generalizing session with
  | nil => exact apart
  | cons step rest ih => exact ih (apart.step step)

/-- The name of the policy that a new sink takes from the settings, or nothing if it is not made. -/
def policyTaken (session : Session) (name : Text) (target : Target) : Value :=
  match (session.newSink name none target).outcome with
  | .policy policy => .text policy.name
  | _ => .none

/--
A step that does as much to the objects as another does in a session, but asks for no settings: a
sink that takes its policy from the settings is given what it took.
-/
def bare (session : Session) : Step → List Step
  | .newSink name none target => [.newSink name (some (session.policyTaken name target)) target]
  | step => if step.isAround then [] else [step]

def bareRun (session : Session) : List Step → List Step
  | [] => []
  | step :: rest => session.bare step ++ (session.step step).session.bareRun rest

theorem ofValue_name (policy : SurrogatePolicy) :
    SurrogatePolicy.ofValue (.text policy.name) = .ok policy := by
  cases policy <;> rfl

theorem Alike.newSink_taken {one two : Session} (alike : one.Alike two) (name : Text)
    (target : Target) :
    (one.newSink name (some (two.policyTaken name target)) target).session.Alike
      (two.newSink name none target).session := by
  have dropped := alike.drop name
  have around : (one.drop name).Alike ((two.drop name).choosePolicy none).1 :=
    ⟨dropped.objects, dropped.buffers, dropped.apart⟩
  simp only [policyTaken, Session.newSink, destination?_congr dropped.objects dropped.buffers]
  cases (one.drop name).destination? target with
  | none => exact dropped
  | some built =>
      cases ((two.drop name).choosePolicy none).2.result with
      | error fault => exact around
      | ok policy =>
          cases built with
          | error fault => exact around
          | ok destination =>
              simp only [choosePolicy, ofValue_name]
              exact around.setSink _

theorem Alike.bare {one two : Session} (alike : one.Alike two) (step : Step) :
    (one.after (two.bare step)).Alike (two.step step).session := by
  by_cases given : step.TakesPolicy
  · cases step with
    | newSink name policy target =>
        cases policy with
        | none => exact alike.newSink_taken name target
        | some policy => exact absurd given fun absurd => absurd
    | _ => exact absurd given fun absurd => absurd
  · have same : two.bare step = if step.isAround then [] else [step] := by
      cases step with
      | newSink name policy target =>
          cases policy with
          | none => exact absurd trivial given
          | some policy => rfl
      | _ => rfl
    cases place : step.isAround with
    | true =>
        rw [same, place]
        exact alike.around place
    | false =>
        rw [same, place]
        exact alike.step place given

/--
Steps about the surroundings, wherever they come between others, change nothing about the objects
and the buffers but the policies that new sinks take from the settings.
-/
theorem Alike.after {one two : Session} (alike : one.Alike two) (steps : List Step) :
    (one.after (two.bareRun steps)).Alike (two.after steps) := by
  induction steps generalizing one two with
  | nil => exact alike
  | cons step rest ih =>
      have later := ih (alike.bare step)
      simpa only [bareRun, Session.after, List.foldl_append, List.foldl_cons] using later

end Session

end IndexWire
