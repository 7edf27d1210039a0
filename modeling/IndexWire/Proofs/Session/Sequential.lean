import IndexWire.Proofs.Session.Reassembly
import IndexWire.Proofs.Session.Surroundings

/-!
# Reading a source in memory call after call

A source in memory has its position as its only state. A byte that is read is handed over as the
result of the call, a range of bytes by what then stands in a buffer; `handedOver` is both, told
from the session before and after the call and not from the source. However the calls follow each
other, the position is as much further on as bytes have been handed over, and stays inside of the
bytes.

No range has a negative length here: with one, the position goes back, and may leave the bytes. The
source may read from a shared buffer, of which it has a view; the view keeps the size of the buffer
even where a range is read into the same buffer, and its bytes as long as that is not done.
-/

namespace IndexWire

namespace Bytes

/-- What stands between two bounds now, where other bytes stood before. -/
def inserted (before after : Bytes) (start stop : Int) : Bytes :=
  let first := clip before.length start
  let rest := before.length - max first (clip before.length stop)
  (after.take (after.length - rest)).drop first

theorem inserted_splice (bytes : Bytes) (start stop : Int) (replacement : Bytes) :
    inserted bytes (bytes.splice start stop replacement) start stop = replacement := by
  have low := clip_le bytes.length start
  have high := clip_le bytes.length stop
  have front : (bytes.take (clip bytes.length start) ++ replacement).length
      = (bytes.splice start stop replacement).length
        - (bytes.length - max (clip bytes.length start) (clip bytes.length stop)) := by
    simp only [splice, List.length_append, List.length_take, List.length_drop]
    omega
  simp only [inserted, ← front]
  rw [splice, List.take_left' rfl, List.drop_left']
  rw [List.length_take, Nat.min_eq_left low]

end Bytes

theorem Buffer.eq_of_splice {buffer changed : Buffer} {start stop : Int} {replacement : Bytes}
    (spliced : buffer.splice start stop replacement = .ok changed) :
    changed = { buffer with bytes := buffer.bytes.splice start stop replacement } ∧
      (buffer.pins ≠ 0 → changed.bytes.length = buffer.bytes.length) := by
  simp only [Buffer.splice] at spliced
  split at spliced
  · cases spliced
  · rename_i allowed
    cases spliced
    refine ⟨rfl, fun pinned => ?_⟩
    by_contra resized
    exact allowed ⟨resized, pinned⟩

namespace Source

/-- A byte is read wherever there is one. -/
theorem readByte_of_nat (store : Store) (content : Content) (position : Nat) :
    readByte store content position
      = ((content.bytes store)[position]?).elim (.error .pastEnd) fun byte =>
          .ok (byte, memory content (position + 1 : Nat)) := by
  by_cases within : position < (content.bytes store).length
  · have high : ¬((position : Int) ≥ (content.bytes store).length) := by omega
    have near : ¬((position : Int) < -(Nat.pow 2 63 : Int)) := by omega
    have low : ¬((position : Int) < 0) := by omega
    simp only [readByte, if_neg high, if_neg near, if_neg low, Int.toNat_natCast,
      List.getElem?_eq_getElem within, Option.getD_some, Option.elim_some, Int.natCast_add,
      Int.cast_ofNat_Int]
  · have beyond : (position : Int) ≥ (content.bytes store).length := by omega
    rw [List.getElem?_eq_none (Nat.not_lt.mp within)]
    simp only [readByte, if_pos beyond, Option.elim_none]

/-- A range is read if there are as many bytes and the target keeps its size where it has to. -/
theorem readInto_memory_cases (store : Store) (content : Content) (position : Nat)
    (shared : Option BufferId) (target : Buffer) (offset : Int) (length : Nat) :
    (∃ fault, (memory content position).readInto store shared target offset length
        = .failed (memory content position, target) fault) ∨
      ∃ changed,
        target.splice offset (offset + length) (((content.bytes store).drop position).take length)
            = .ok changed ∧
          position + length ≤ (content.bytes store).length ∧
          (memory content position).readInto store shared target offset length
            = { state := (memory content (position + length : Nat), changed) } := by
  by_cases short : (length : Int) > remaining store content position
  · left
    exact ⟨.tooFewLeft length (remaining store content position),
      by simp only [readInto, if_pos short]⟩
  · have enough : position + length ≤ (content.bytes store).length := by
      unfold remaining at short
      omega
    have read : (content.bytes store).slice position (position + length : Nat)
        = ((content.bytes store).drop position).take length := Bytes.slice_of_le enough
    simp only [readInto, if_neg short, ← Int.natCast_add, read]
    split
    · rename_i changed spliced
      exact .inr ⟨changed, spliced, enough, rfl⟩
    · exact .inl ⟨_, rfl⟩

end Source

namespace Session

/-- Whether a call reads from the source of a name, with no negative length. -/
def Step.ReadsFrom (name : Text) : Step → Prop
  | .readByte source => source = name
  | .readBytes source _ _ length => source = name ∧ 0 ≤ length
  | _ => False

/-- The buffer that a call reads into. -/
def Step.target? (session : Session) : Step → Option BufferId
  | .readBytes _ buffer _ _ => session.buffer? buffer
  | _ => none

/-- How many bytes a call asks for. -/
def Step.wanted : Step → Int
  | .readByte _ => 1
  | .readBytes _ _ _ length => length
  | _ => 0

/-- Whether a call has ended without a fault. -/
def Outcome.Succeeds : Outcome → Prop
  | .failed _ | .noObject => False
  | _ => True

/-- The bytes that a call hands over: its result, or what then stands in the range of a buffer. -/
def handedOver (session : Session) (step : Step) : Bytes :=
  let answer := session.step step
  match step, answer.outcome, step.target? session with
  | _, .byte byte, _ => [byte]
  | .readBytes _ _ offset length, .done, some id =>
    Bytes.inserted (session.store.buffer id).bytes (answer.session.store.buffer id).bytes offset
      (offset + length)
  | _, _, _ => []

/-- The bytes that calls hand over one after another. -/
def handedOverBy (session : Session) : List Step → Bytes
  | [] => []
  | step :: rest => session.handedOver step ++ (session.step step).session.handedOverBy rest

/-- Whether every buffer that has a name is there. -/
def HasBuffers (session : Session) : Prop :=
  ∀ name id, session.buffer? name = some id → id < session.store.buffers.length

/-- A session in which a name stands for a source in memory at a position inside of its bytes. -/
structure ReadsAt (name : Text) (content : Content) (size position : Nat) (session : Session) :
    Prop where
  found : session.object? name = some (.source (.memory content position))
  inside : position ≤ size
  size : (content.bytes session.store).length = size
  viewed : ∀ id, content = .shared id → (session.store.buffer id).pins ≠ 0
  buffers : session.HasBuffers

/-- What a call that reads leaves of a session in which a source stands at a position. -/
structure Reads (name : Text) (content : Content) (size position : Nat) (before : Session)
    (step : Step) : Prop where
  after : (before.step step).session.ReadsAt name content size
    (position + (before.handedOver step).length)
  next : before.handedOver step <+: (content.bytes before.store).drop position
  count : (before.step step).outcome.Succeeds → (before.handedOver step).length = step.wanted
  refused : ¬(before.step step).outcome.Succeeds → before.handedOver step = []
  names : ∀ other, (before.step step).session.buffer? other = before.buffer? other
  apart : (∀ id ∈ step.target? before, content ≠ .shared id) →
    content.bytes (before.step step).session.store = content.bytes before.store

variable {name : Text} {content : Content} {size position : Nat} {session : Session}

/-- A call that fails hands nothing over. -/
theorem ReadsAt.reads_of_refused {step : Step}
    (after : (session.step step).session.ReadsAt name content size position)
    (refused : ¬(session.step step).outcome.Succeeds)
    (names : ∀ other, (session.step step).session.buffer? other = session.buffer? other)
    (apart : content.bytes (session.step step).session.store = content.bytes session.store) :
    session.Reads name content size position step := by
  have nothing : session.handedOver step = [] := by
    unfold handedOver
    cases ends : (session.step step).outcome with
    | failed fault => cases step <;> simp only [ends]
    | noObject => cases step <;> simp only [ends]
    | _ => exact absurd (by rw [ends]; trivial) refused
  refine ⟨?_, ?_, fun succeeds => absurd succeeds refused, fun _ => nothing, names, fun _ => apart⟩
  · rw [nothing]
    exact after
  · rw [nothing]
    exact List.nil_prefix

theorem ReadsAt.reads_of_unchanged (there : session.ReadsAt name content size position)
    {step : Step} {outcome : Outcome} (refused : ¬outcome.Succeeds)
    (answer : session.step step = ⟨session, outcome, []⟩) :
    session.Reads name content size position step := by
  apply ReadsAt.reads_of_refused <;> rw [answer]
  · exact there
  · exact refused
  · exact fun _ => rfl

theorem buffer?_setSource (session : Session) {source : Source}
    (found : session.object? name = some (.source source)) (later : Source) (store : Store)
    (other : Text) :
    ({ session with store }.setObject name (.source later)).buffer? other
      = session.buffer? other := by
  unfold buffer?
  by_cases own : other = name
  · rw [own, object?_setObject_self, found]
  · rw [object?_setObject_of_ne own]
    rfl

theorem ReadsAt.readByte (there : session.ReadsAt name content size position) :
    session.Reads name content size position (.readByte name) := by
  have read := Source.readByte_of_nat session.store content position
  rcases within : (content.bytes session.store)[position]? with _ | byte
  · rw [within, Option.elim_none] at read
    have answer : session.step (.readByte name) = session.failed .pastEnd := by
      simp only [step, Session.readByte, there.found, read]
    exact there.reads_of_unchanged id answer
  · rw [within, Option.elim_some] at read
    rcases List.getElem?_eq_some_iff.mp within with ⟨less, value⟩
    have answer : session.step (.readByte name)
        = ⟨session.setObject name (.source (.memory content (position + 1 : Nat))), .byte byte,
            []⟩ := by
      simp only [step, Session.readByte, there.found, read]
    have given : session.handedOver (.readByte name) = [byte] := by
      simp only [handedOver, answer]
    have named := buffer?_setSource session there.found (.memory content (position + 1 : Nat))
      session.store
    refine ⟨?_, ?_, ?_, ?_, ?_, ?_⟩
    · rw [given, answer]
      refine ⟨object?_setObject_self _ _ _, ?_, there.size, there.viewed, ?_⟩
      · rw [there.size] at less
        exact less
      · intro other id held
        exact there.buffers other id ((named other).symm.trans held)
    · rw [given, List.drop_eq_getElem_cons less, value]
      exact ⟨_, rfl⟩
    · intro _
      rw [given]
      rfl
    · rw [answer]
      exact fun fails => absurd trivial fails
    · rw [answer]
      exact named
    · rw [answer]
      exact fun _ => rfl

/-- A buffer that other bytes are put into keeps its size if the source has a view of it. -/
theorem ReadsAt.setBuffer (there : session.ReadsAt name content size position) {id : BufferId}
    (made : id < session.store.buffers.length) {changed : Buffer}
    (pins : changed.pins = (session.store.buffer id).pins)
    (pinned : (session.store.buffer id).pins ≠ 0 →
      changed.bytes.length = (session.store.buffer id).bytes.length)
    {later : Nat} (inside : later ≤ size) :
    ({ session with store := session.store.setBuffer id changed }.setObject name
      (.source (.memory content later))).ReadsAt name content size later := by
  have named := buffer?_setSource session there.found (.memory content later)
    (session.store.setBuffer id changed)
  have viewed := there.viewed
  have whole := there.size
  refine ⟨object?_setObject_self _ _ _, inside, ?_, ?_, ?_⟩
  · cases content with
    | own bytes => exact whole
    | shared other =>
        by_cases same : other = id
        · subst same
          simp only [Content.bytes, setObject, Store.buffer_setBuffer_self made] at whole ⊢
          rw [pinned (viewed other rfl), whole]
        · simp only [Content.bytes, setObject, Store.buffer_setBuffer_of_ne same] at whole ⊢
          exact whole
  · rintro other rfl
    by_cases same : other = id
    · subst same
      simp only [setObject, Store.buffer_setBuffer_self made, pins]
      exact viewed other rfl
    · simp only [setObject, Store.buffer_setBuffer_of_ne same]
      exact viewed other rfl
  · intro other held found
    have before := there.buffers other held ((named other).symm.trans found)
    simpa only [setObject, Store.setBuffer, List.length_set] using before

theorem ReadsAt.readBytes (there : session.ReadsAt name content size position) (buffer : Text)
    (offset : Int) (length : Nat) :
    session.Reads name content size position (.readBytes name buffer offset length) := by
  rcases target : session.object? buffer with _ | id | sink | source
  case none =>
    have answer : session.step (.readBytes name buffer offset length)
        = ⟨session, .noObject, []⟩ := by
      simp only [step, Session.readBytes, there.found, target, noObject]
    exact there.reads_of_unchanged id answer
  case some.sink =>
    have answer : session.step (.readBytes name buffer offset length)
        = session.failed (session.readFault (.memory content position) (.sink sink) length) := by
      simp only [step, Session.readBytes, there.found, target]
    exact there.reads_of_unchanged id answer
  case some.source =>
    have answer : session.step (.readBytes name buffer offset length)
        = session.failed
            (session.readFault (.memory content position) (.source source) length) := by
      simp only [step, Session.readBytes, there.found, target]
    exact there.reads_of_unchanged id answer
  case some.buffer =>
    have held : session.buffer? buffer = some id := by simp only [buffer?, target]
    have made := there.buffers buffer id held
    have elsewhere (changed : Buffer) (different : content ≠ .shared id) :
        content.bytes (session.store.setBuffer id changed) = content.bytes session.store := by
      cases content with
      | own bytes => rfl
      | shared other =>
          have apart : other ≠ id := fun same => different (congrArg Content.shared same)
          simp only [Content.bytes, Store.buffer_setBuffer_of_ne apart]
    rcases Source.readInto_memory_cases session.store content position (some id)
      (session.store.buffer id) offset length with ⟨fault, read⟩ | ⟨changed, spliced, enough, read⟩
    · have answer : session.step (.readBytes name buffer offset length)
          = ⟨{ session with
                store := session.store.setBuffer id (session.store.buffer id) }.setObject name
              (.source (.memory content position)), .failed fault, []⟩ := by
        simp only [step, Session.readBytes, there.found, target, read]
        rfl
      have kept : session.store.setBuffer id (session.store.buffer id) = session.store :=
        Store.refresh_self session.store id
      apply ReadsAt.reads_of_refused <;> rw [answer]
      · exact there.setBuffer made rfl (fun _ => rfl) there.inside
      · exact fun succeeds => succeeds
      · exact buffer?_setSource session there.found _ _
      · simp only [setObject, kept]
    · have answer : session.step (.readBytes name buffer offset length)
          = ⟨{ session with store := session.store.setBuffer id changed }.setObject name
              (.source (.memory content (position + length : Nat))), .done, []⟩ := by
        simp only [step, Session.readBytes, there.found, target, read]
        rfl
      rcases Buffer.eq_of_splice spliced with ⟨same, pinned⟩
      have given : session.handedOver (.readBytes name buffer offset length)
          = ((content.bytes session.store).drop position).take length := by
        simp only [handedOver, answer, Step.target?, held, setObject,
          Store.buffer_setBuffer_self made]
        rw [same]
        exact Bytes.inserted_splice _ _ _ _
      have count : (session.handedOver (.readBytes name buffer offset length)).length
          = length := by
        rw [given, List.length_take, List.length_drop]
        omega
      refine ⟨?_, ?_, ?_, ?_, ?_, ?_⟩
      · rw [count, answer]
        exact there.setBuffer made (by rw [same]) pinned (by rw [← there.size]; exact enough)
      · rw [given]
        exact List.take_prefix _ _
      · intro _
        rw [count]
        rfl
      · rw [answer]
        exact fun fails => absurd trivial fails
      · rw [answer]
        exact buffer?_setSource session there.found _ _
      · intro apart
        rw [answer]
        exact elsewhere changed (apart id held)

/-- Whatever is read, the source is as much further on as bytes have been handed over. -/
theorem ReadsAt.reads (there : session.ReadsAt name content size position) {step : Step}
    (reads : step.ReadsFrom name) : session.Reads name content size position step := by
  cases step with
  | readByte source =>
      obtain rfl : source = name := reads
      exact there.readByte
  | readBytes source buffer offset length =>
      rcases reads with ⟨rfl, nonneg⟩
      rcases Int.eq_ofNat_of_zero_le nonneg with ⟨count, rfl⟩
      exact there.readBytes buffer offset count
  | _ => exact False.elim reads

/-- Call after call, what is handed over is what stands between the first and the last position. -/
theorem ReadsAt.after (there : session.ReadsAt name content size position) {steps : List Step}
    (reads : ∀ step ∈ steps, step.ReadsFrom name) :
    (session.after steps).ReadsAt name content size
        (position + (session.handedOverBy steps).length) ∧
      ((∀ step ∈ steps, ∀ id ∈ step.target? session, content ≠ .shared id) →
        content.bytes (session.after steps).store = content.bytes session.store ∧
          session.handedOverBy steps <+: (content.bytes session.store).drop position) := by
  induction steps generalizing session position with
  | nil => exact ⟨there, fun _ => ⟨rfl, List.nil_prefix⟩⟩
  | cons step rest ih =>
      have first := there.reads (reads step List.mem_cons_self)
      have later := ih first.after fun step mem => reads step (List.mem_cons_of_mem _ mem)
      rw [Nat.add_assoc, ← List.length_append] at later
      refine ⟨later.1, fun apart => ?_⟩
      have same := first.apart (apart step List.mem_cons_self)
      have others : ∀ next ∈ rest, ∀ id ∈ next.target? (session.step step).session,
          content ≠ .shared id := by
        intro next mem
        have target : next.target? (session.step step).session = next.target? session := by
          cases next with
          | readBytes source buffer offset length => exact first.names buffer
          | _ => rfl
        rw [target]
        exact apart next (List.mem_cons_of_mem _ mem)
      rcases later.2 others with ⟨kept, joined⟩
      refine ⟨kept.trans same, ?_⟩
      rcases first.next with ⟨others, split⟩
      rw [same, ← List.drop_drop, ← split, List.drop_left] at joined
      rw [← split]
      exact (List.prefix_append_right_inj _).mpr joined

theorem HasBuffers.drop (buffers : session.HasBuffers) (name : Text) :
    (session.drop name).HasBuffers := by
  intro other id held
  have length : (session.drop name).store.buffers.length = session.store.buffers.length := by
    unfold Session.drop
    simp only
    split
    · rename_i source found
      cases viewed? source with
      | none => rfl
      | some id => exact Store.length_unpin session.store id
    · rfl
  have different : other ≠ name := by
    rintro rfl
    simp only [buffer?, object?_drop_self] at held
    cases held
  rw [length]
  apply buffers other id
  simpa only [buffer?, object?_drop_of_ne different] using held

theorem bytes_drop (session : Session) (name : Text) (content : Content) :
    content.bytes (session.drop name).store = content.bytes session.store := by
  cases content with
  | own bytes => rfl
  | shared id =>
      unfold Session.drop
      simp only [Content.bytes]
      split
      · rename_i source found
        cases viewed? source with
        | none => rfl
        | some other => exact Store.bytes_unpin session.store other id
      · rfl

theorem content?_made (buffers : session.HasBuffers) {data : Data} {id : BufferId}
    (given : session.content? data = some (.shared id)) : id < session.store.buffers.length := by
  cases data with
  | own bytes => cases given
  | shared buffer =>
      rcases Option.map_eq_some_iff.mp given with ⟨_, held, same⟩
      cases same
      exact buffers buffer _ held
  | view buffer =>
      rcases Option.map_eq_some_iff.mp given with ⟨_, held, same⟩
      cases same
      exact buffers buffer _ held

theorem HasBuffers.readsAt_setSource (buffers : session.HasBuffers) (name : Text)
    (made : ∀ id, content = .shared id → id < session.store.buffers.length)
    (inside : position ≤ (content.bytes session.store).length) :
    let later := session.setSource name (.memory content position)
    later.ReadsAt name content (content.bytes session.store).length position ∧
      content.bytes later.store = content.bytes session.store := by
  intro later
  have same : content.bytes later.store = content.bytes session.store := by
    cases content with
    | own bytes => rfl
    | shared id => exact Store.bytes_pin session.store id id
  refine ⟨⟨object?_setObject_self _ _ _, inside, by rw [same], ?_, ?_⟩, same⟩
  · rintro id rfl
    simp only [later, setSource, setObject, viewed?, Option.elim_some, Store.pin,
      Store.buffer_setBuffer_self (made id rfl)]
    exact Nat.succ_ne_zero _
  · intro other id held
    have length : later.store.buffers.length = session.store.buffers.length := by
      cases content with
      | own bytes => rfl
      | shared id => exact Store.length_pin session.store id
    have different : other ≠ name := by
      rintro rfl
      simp only [buffer?, later, setSource, object?_setObject_self] at held
      cases held
    rw [length]
    apply buffers other id
    simp only [buffer?, later, setSource, object?_setObject_of_ne different] at held
    exact held

/-- A source is made at any position inside of its bytes, and at no other. -/
theorem newMemorySource_of_content (buffers : session.HasBuffers) {data : Data}
    (given : (session.drop name).content? data = some content) (offset : Int) :
    let bytes := content.bytes session.store
    let built := session.newMemorySource name data (some offset)
    (¬(0 ≤ offset ∧ offset ≤ bytes.length) →
        built.outcome = .failed (.startOutside offset bytes.length)) ∧
      (0 ≤ offset ∧ offset ≤ bytes.length →
        built.outcome = .done ∧
          built.session.ReadsAt name content bytes.length offset.toNat ∧
          content.bytes built.session.store = bytes) := by
  intro bytes built
  have same := bytes_drop session name content
  refine ⟨fun outside => ?_, ?_⟩
  · simp only [built, newMemorySource, given, Source.ofContent, same]
    rw [if_neg outside]
    rfl
  · rintro ⟨nonneg, within⟩
    rcases Int.eq_ofNat_of_zero_le nonneg with ⟨start, rfl⟩
    have made : built
        = ⟨(session.drop name).setSource name (.memory content start), .done, []⟩ := by
      simp only [built, newMemorySource, given, Source.ofContent, same]
      rw [if_pos ⟨nonneg, within⟩]
    have dropped := buffers.drop name
    have inside : start ≤ (content.bytes (session.drop name).store).length := by
      rw [same]
      exact Int.ofNat_le.mp within
    rcases dropped.readsAt_setSource name
      (fun id shared => content?_made dropped (by rw [given, shared])) inside with ⟨there, kept⟩
    rw [made]
    rw [same] at there kept
    exact ⟨rfl, there, kept⟩

/--
A source is made at any position inside of its bytes. Whatever is then read from it, call after
call, its position stays inside of the bytes and is as much further on as bytes have been handed
over. A call that succeeds hands over as many bytes as it is asked for, and they are the next ones;
a call that fails hands over none. Where no call reads into the buffer that the source reads from,
all that has been handed over is what stands between the first position and the last.
-/
theorem sequential_reads (session : Session) (buffers : session.HasBuffers) {name : Text}
    {data : Data} {content : Content} (given : (session.drop name).content? data = some content)
    (offset : Int) :
    let bytes := content.bytes session.store
    let built := session.step (.newMemorySource name data (some offset))
    (built.outcome = .done ↔ 0 ≤ offset ∧ offset ≤ bytes.length) ∧
      (built.outcome = .done → ∀ steps : List Step, (∀ step ∈ steps, step.ReadsFrom name) →
        let reached := built.session.after steps
        let delivered := built.session.handedOverBy steps
        ∃ position : Nat,
          reached.object? name = some (.source (.memory content position)) ∧
            (position : Int) = offset + delivered.length ∧ position ≤ bytes.length ∧
            Source.remaining reached.store content position = bytes.length - position ∧
            (∀ step : Step, step.ReadsFrom name →
              let answer := reached.step step
              let more := reached.handedOver step
              answer.session.object? name
                  = some (.source (.memory content (position + more.length : Nat))) ∧
                more = ((content.bytes reached.store).drop position).take more.length ∧
                (answer.outcome.Succeeds → more.length = step.wanted) ∧
                (¬answer.outcome.Succeeds → more = [])) ∧
            ((∀ step ∈ steps, ∀ id ∈ step.target? built.session, content ≠ .shared id) →
              content.bytes reached.store = bytes ∧ delivered = bytes.slice offset position)) := by
  intro bytes built
  rcases newMemorySource_of_content buffers given offset with ⟨outside, inside⟩
  have legal : built.outcome = .done ↔ 0 ≤ offset ∧ offset ≤ bytes.length := by
    refine ⟨fun done => ?_, fun within => (inside within).1⟩
    by_contra beyond
    cases done.symm.trans (outside beyond)
  refine ⟨legal, fun done steps reads => ?_⟩
  rcases inside (legal.mp done) with ⟨-, start, same⟩
  rcases start.after reads with ⟨there, joined⟩
  have nonneg := (legal.mp done).1
  intro reached delivered
  refine ⟨_, there.found, ?_, there.inside, ?_, ?_, ?_⟩
  · simp only [delivered, built, step]
    omega
  · have whole : ((content.bytes reached.store).length : Int) = bytes.length :=
      congrArg Int.ofNat there.size
    simp only [Source.remaining, whole]
  · intro step own
    have next := there.reads own
    exact ⟨next.after.found, List.prefix_iff_eq_take.mp next.next, next.count, next.refused⟩
  · intro apart
    rcases joined apart with ⟨kept, whole⟩
    refine ⟨kept.trans same, ?_⟩
    rcases Int.eq_ofNat_of_zero_le nonneg with ⟨first, rfl⟩
    rw [same] at whole
    have all : first + delivered.length ≤ bytes.length := there.inside
    exact (List.prefix_iff_eq_take.mp whole).trans (Bytes.slice_of_le all).symm

/-- A byte, a range and a range that is too long, from the second byte on. -/
theorem sequential_reads_of_four :
    let source := Text.ofString "source"
    let buffer := Text.ofString "buffer"
    let start : Session :=
      { store := { buffers := [{ bytes := [0, 0, 0] }] }, objects := [(buffer, .buffer 0)] }
    let built := start.step (.newMemorySource source (.own [5, 6, 7, 8]) (some 1))
    let steps : List Step :=
      [.readByte source, .readBytes source buffer 1 2, .readBytes source buffer (-1) 1]
    built.session.handedOverBy steps = [6, 7, 8] ∧
      (built.session.after steps).object? source
        = some (.source (.memory (.own [5, 6, 7, 8]) 4)) := by
  intro source buffer start built steps
  have buffers : start.HasBuffers := by
    intro name id held
    by_cases own : name = buffer
    · subst own
      obtain rfl : 0 = id := Option.some.inj held
      exact Nat.one_pos
    · simp [buffer?, object?, start, Ne.symm own] at held
  have given : (start.drop source).content? (.own [5, 6, 7, 8]) = some (.own [5, 6, 7, 8]) := rfl
  have delivered : built.session.handedOverBy steps = [6, 7, 8] := by decide +kernel
  rcases sequential_reads start buffers given 1 with ⟨legal, reads⟩
  rcases reads (legal.mpr (by decide)) steps (by simp [steps, Step.ReadsFrom]) with
      ⟨position, found, further, -⟩
  obtain rfl : position = 4 := by
    rw [delivered] at further
    exact Int.ofNat.inj further
  exact ⟨delivered, found⟩

/-- A read of a negative length succeeds and leaves the source before its bytes. -/
theorem negative_length_moves_back :
    let source := Text.ofString "source"
    let buffer := Text.ofString "buffer"
    let start : Session :=
      { store := { buffers := [{ bytes := [0] }] }, objects := [(buffer, .buffer 0)] }
    let built := (start.step (.newMemorySource source (.own [1, 2, 3]) (some 0))).session
    let answer := built.step (.readBytes source buffer 0 (-1))
    answer.outcome.Succeeds ∧
      answer.session.object? source = some (.source (.memory (.own [1, 2, 3]) (-1))) := by
  intro source buffer start built answer
  exact ⟨trivial, rfl⟩

end Session

end IndexWire
