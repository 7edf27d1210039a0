import IndexWire.Proofs.Session.Beside
import IndexWire.Proofs.Session.Untouched

/-!
# Calls of two sinks

Two sinks may write to windows of one buffer that have no byte in common. Both are followed in
sessions of their own, in which the calls of the other sink are left out. A call of a sink does the
same in its own session and in the one with all calls, as `Beside` tells, and is not felt in the own
session of the other. The data must not come from the buffer, and no source may be copied from by
both, since a source hands out each of its bytes once.
-/

namespace IndexWire

/-- The kind of an object, with the place of a buffer or the origin of a source. -/
def Object.nature (object : Object) : String × Option (BufferId ⊕ Origin) :=
  match object with
  | buffer id => (object.kindName, some (.inl id))
  | source origin => (object.kindName, some (.inr origin.origin))
  | sink _ => (object.kindName, none)

theorem Object.fst_nature (object : Object) : object.nature.1 = object.kindName := by
  cases object <;> rfl

namespace Transfer

theorem nature_load (transfer : Transfer) (count : Nat) :
    (Object.source (transfer.load count).state.source).nature
      = (Object.source transfer.source).nature := by
  have origin : (transfer.load count).state.source.origin = transfer.source.origin :=
    Source.origin_readInto transfer.source { bytes := transfer.sink.scratch.getD [] } 0 count
  have kind : (Object.source (transfer.load count).state.source).kindName
      = (Object.source transfer.source).kindName := by
    rcases transfer with ⟨store, sink, content | input⟩
    · simp only [load, Source.readInto]
      split
      · rfl
      · split <;> rfl
    · rfl
  simp only [Object.nature, origin, kind]

/-- A copy leaves the kind of the source and the place that it reads from. -/
theorem nature_copy (transfer : Transfer) (count : Int) :
    (Object.source (transfer.copy count).state.source).nature
      = (Object.source transfer.source).nature := by
  have moved (transfer : Transfer) (left : Nat) :
      (Object.source (transfer.moveBlocks left).state.source).nature
        = (Object.source transfer.source).nature := by
    fun_induction Transfer.moveBlocks transfer left with
    | case1 transfer left unfinished count loaded => exact nature_load transfer count
    | case2 transfer left unfinished count loaded accepted => exact nature_load transfer count
    | case3 transfer left unfinished count loaded accepted =>
        rename_i unloaded success ih
        exact ih.trans (nature_load transfer count)
    | case4 transfer left finished => rfl
  by_cases negative : count < 0
  · rw [copy, if_pos negative]
    rfl
  · rw [(copy_of_nonneg transfer (Int.not_lt.mp negative)).1]
    exact moved _ _

end Transfer

namespace Session

/-- What no call of a sink changes about the object of a name. -/
def natureOf? (session : Session) (name : Text) : Option (String × Option (BufferId ⊕ Origin)) :=
  (session.object? name).map Object.nature

/-- The steps in order, each with its outcome and with what it reported. -/
def transcript (session : Session) : List Step → List (Step × Outcome × List Notice)
  | [] => []
  | step :: rest =>
    let answer := session.step step
    (step, answer.outcome, answer.notices) :: answer.session.transcript rest

/-- Whether what a call writes does not come from a buffer. -/
def Step.Avoids (session : Session) (id : BufferId) : Step → Prop
  | .writeBytes _ data _ _ => session.content? data ≠ some (.shared id)
  | .copy _ source _ =>
    ∀ origin, session.object? source = some (.source origin) →
      origin.origin.Avoids (some (.buffer id))
  | _ => True

/-- Whether a name stands for a sink that writes to the window of a region. -/
def Fills (session : Session) (name : Text) (region : Region) : Prop :=
  ∃ sink, session.object? name = some (.sink sink) ∧
    sink.destination.site = .region region.buffer region.start region.stop ∧
    sink.destination.IsWhole session.store

theorem buffer?_eq_of_nature (session : Session) (name : Text) :
    session.buffer? name
      = (session.natureOf? name).bind fun nature => nature.2.bind Sum.getLeft? := by
  unfold buffer? natureOf?
  rcases session.object? name with _ | id | sink | source <;> rfl

theorem elim_eq_of_nature (session : Session) (name : Text) (fault : String → Fault) :
    ((session.object? name).elim .noObject fun object => Outcome.failed (fault object.kindName))
      = (session.natureOf? name).elim .noObject fun nature => .failed (fault nature.1) := by
  unfold natureOf?
  rcases session.object? name with _ | id | sink | source <;> rfl

theorem natureOf?_of_source {session : Session} {name : Text} {source : Source}
    (found : session.object? name = some (.source source)) :
    session.natureOf? name = some ((Object.source source).kindName, some (.inr source.origin)) := by
  rw [natureOf?, found]
  rfl

theorem exists_source_of_nature {session : Session} {name : Text} {kind : String} {origin : Origin}
    (known : session.natureOf? name = some (kind, some (.inr origin))) :
    ∃ source, session.object? name = some (.source source) ∧ source.origin = origin := by
  unfold natureOf? at known
  rcases found : session.object? name with _ | id | sink | source <;> rw [found] at known
  · cases known
  · cases known
  · cases known
  · cases known
    exact ⟨source, rfl, rfl⟩

section Natures

variable {one two : Session} (same : ∀ name, two.natureOf? name = one.natureOf? name)

include same

theorem content?_of_natures (data : Data) : two.content? data = one.content? data := by
  cases data <;> simp only [content?, buffer?_eq_of_nature, same]

theorem withoutBytes_of_natures (data : Data) (fault : String → Fault) :
    two.withoutBytes data fault = one.withoutBytes data fault := by
  cases data <;> simp only [withoutBytes, elim_eq_of_nature, same]

theorem origin_of_natures {name : Text} {source : Source}
    (found : two.object? name = some (.source source)) :
    ∃ before, one.object? name = some (.source before) ∧ before.origin = source.origin := by
  have known := natureOf?_of_source found
  rw [same] at known
  exact exists_source_of_nature known

/-- What is no source is none in the other session either, and is of the same kind there. -/
theorem kindName_of_natures {name : Text} {object : Object}
    (found : one.object? name = some object) (other : ∀ source, object ≠ .source source) :
    ∃ again, two.object? name = some again ∧ again.kindName = object.kindName ∧
      ∀ source, again ≠ .source source := by
  have known := same name
  rw [natureOf?, natureOf?, found] at known
  rcases Option.map_eq_some_iff.mp known with ⟨again, there, nature⟩
  refine ⟨again, there, ?_, ?_⟩
  · rw [← Object.fst_nature again, nature, Object.fst_nature]
  · rintro source rfl
    rcases origin_of_natures same there with ⟨before, given, -⟩
    exact other before (Option.some.inj (found.symm.trans given))

theorem Step.Avoids.of_natures {step : Step} {id : BufferId} (avoids : step.Avoids one id) :
    step.Avoids two id := by
  cases step with
  | writeBytes target data offset length =>
      simp only [Step.Avoids, content?_of_natures same]
      exact avoids
  | copy target source count =>
      intro origin found
      rcases origin_of_natures same found with ⟨before, given, kept⟩
      rw [← kept]
      exact avoids before given
  | _ => trivial

end Natures

/-! ## What a call of a sink changes -/

section Call

variable {session : Session} {name other : Text} {region : Region} {step : Step}

theorem Fills.exists_sink (fills : session.Fills name region) :
    ∃ sink, session.object? name = some (.sink sink) ∧
      sink.destination.WritesTo region.buffer session.store := by
  rcases fills with ⟨sink, found, site, whole⟩
  exact ⟨sink, found, ⟨_, _, site⟩, whole⟩

theorem Fills.natureOf? (fills : session.Fills name region) :
    session.natureOf? name = some ("FixedMemorySink", none) := by
  rcases fills with ⟨⟨policy, scratch, destination⟩, found, site, -⟩
  rcases Destination.exists_region_of_site site with ⟨position, rfl⟩
  rw [Session.natureOf?, found]
  rfl

/-- A sink is not felt by another one of the same buffer. -/
theorem Fills.of_overwritten (fills : session.Fills name region) {later : Session}
    {start stop : Nat}
    (altered : Store.Overwritten region.buffer start stop session.store later.store)
    (kept : later.object? name = session.object? name) : later.Fills name region := by
  rcases fills with ⟨⟨policy, scratch, destination⟩, found, site, whole⟩
  refine ⟨_, kept.trans found, site, ?_⟩
  rcases Destination.exists_region_of_site site with ⟨position, rfl⟩
  exact altered.isPlaced whole rfl

theorem Fills.pin (fills : session.Fills name region) (id : BufferId) :
    Fills { session with store := session.store.pin id } name region := by
  rcases fills with ⟨⟨policy, scratch, destination⟩, found, site, whole⟩
  refine ⟨_, found, site, ?_⟩
  rcases Destination.exists_region_of_site site with ⟨position, rfl⟩
  exact Region.IsPlaced.pin whole id

theorem differIn_write (fills : session.Fills name region) (request : Request) :
    session.store.DifferIn region.buffer (session.write name request).session.store := by
  rcases fills.exists_sink with ⟨sink, found, writes⟩
  simp only [write, found]
  exact (writes.differIn_deliver (request.plan sink.policy).pieces).2

theorem differIn_writeBytes (fills : session.Fills name region) {data : Data}
    (avoids : session.content? data ≠ some (.shared region.buffer)) (offset : Int)
    (length : Option Int) :
    session.store.DifferIn region.buffer
      (session.writeBytes name data offset length).session.store := by
  unfold writeBytes
  split
  · rw [session_refused]
    exact .refl _ _
  · exact differIn_write fills _
  · rename_i id given
    have different : id ≠ region.buffer := by
      rintro rfl
      exact avoids given
    have written := differIn_write (fills.pin id)
      (.bytes (session.store.buffer id).bytes offset length)
    have unpinned := written.unpin different
    rw [Store.unpin_pin] at unpinned
    exact unpinned

theorem differIn_copy (fills : session.Fills name region) (source : Text) (count : Int) :
    session.store.DifferIn region.buffer (session.copy name source count).session.store := by
  rcases fills.exists_sink with ⟨sink, found, writes⟩
  simp only [copy, found]
  rcases given : session.object? source with _ | id | held | origin
  · exact .refl _ _
  · simp only [copyFromOther]
    split <;> exact .refl _ _
  · simp only [copyFromOther]
    split <;> exact .refl _ _
  · let keeps (store : Store) (destination : Destination) : Prop :=
      destination.WritesTo region.buffer store ∧ session.store.DifferIn region.buffer store
    have each : ∀ store destination pieces, keeps store destination →
        keeps (destination.deliver store pieces).state.1
          (destination.deliver store pieces).state.2 := by
      intro store destination pieces before
      rcases before.1.differIn_deliver pieces with ⟨still, differ⟩
      exact ⟨still, before.2.trans differ⟩
    exact (Transfer.copy_keeps each (Transfer.mk session.store sink origin) count
      ⟨writes, .refl _ _⟩).2

theorem differIn_reset (session : Session) (name : Text) (offset : Option (Option Int))
    (id : BufferId) : session.store.DifferIn id (session.reset name offset).session.store := by
  have same : (session.reset name offset).session.store = session.store := by
    unfold reset
    split
    · simp only
      split
      · rfl
      · rfl
      · split <;> rfl
      · rw [session_lacking]
    · rw [session_lacking]
  rw [same]
  exact .refl id _

/-- A call of a sink changes no more than the bytes of its window. -/
theorem Fills.call (fills : session.Fills name region) (own : step.IsOn name)
    (avoids : step.Avoids session region.buffer) :
    (session.step step).session.Fills name region ∧
      Store.Overwritten region.buffer region.start region.stop session.store
        (session.step step).session.store := by
  have differ : session.store.DifferIn region.buffer (session.step step).session.store := by
    cases step with
    | write target request =>
        obtain rfl : target = name := own
        exact differIn_write fills request
    | writeBytes target data offset length =>
        obtain rfl : target = name := own
        exact differIn_writeBytes fills avoids offset length
    | copy target source count =>
        obtain rfl : target = name := own
        exact differIn_copy fills source count
    | reset target offset => exact differIn_reset session target offset region.buffer
    | _ => exact False.elim own
  rcases fills with ⟨sink, found, site, whole⟩
  have guards : session.Guards ⟨region.buffer, region.start, region.stop,
      (session.store.buffer region.buffer).bytes⟩ name :=
    ⟨sink, found, site, whole, rfl, fun _ _ => rfl⟩
  rcases guards.step own with ⟨later, there, confines⟩
  exact ⟨⟨later, there, confines.site, confines.whole⟩, differ, confines.size, confines.outside⟩

/-- A call of a sink changes no other object but a source that it copies from. -/
theorem object?_call_of_ne (own : step.IsOn name) (different : other ≠ name)
    (still : ∀ count origin, step = .copy name other count →
      session.object? other ≠ some (.source origin)) :
    (session.step step).session.object? other = session.object? other := by
  by_cases touched : step.Touches other
  · cases step with
    | write target request => exact absurd (touched.trans own) different
    | writeBytes target data offset length => exact absurd (touched.trans own) different
    | reset target offset => exact absurd (touched.trans own) different
    | copy target source count =>
        obtain rfl : target = name := own
        obtain rfl : other = source := touched.resolve_left different
        simp only [Session.step, copy]
        split
        · rename_i origin found given
          exact absurd given (still count origin rfl)
        · simp only [copyFromOther]
          split <;> exact object?_setObject_of_ne different _ _
        · rfl
        · rw [session_lacking]
    | _ => exact False.elim own
  · exact object?_step_of_untouched touched session

theorem natureOf?_call (fills : session.Fills name region) (own : step.IsOn name)
    (avoids : step.Avoids session region.buffer) (other : Text) :
    (session.step step).session.natureOf? other = session.natureOf? other := by
  by_cases same : other = name
  · rw [same, (fills.call own avoids).1.natureOf?, fills.natureOf?]
  · by_cases copied : ∃ count origin, step = .copy name other count ∧
        session.object? other = some (.source origin)
    · rcases copied with ⟨count, origin, rfl, given⟩
      rcases fills with ⟨sink, found, -⟩
      have copied := Transfer.nature_copy (Transfer.mk session.store sink origin) count
      simp only [Session.natureOf?, Session.step, copy, found, given, copyFrom,
        object?_setObject_self, Option.map_some]
      exact congrArg some copied
    · unfold Session.natureOf?
      rw [object?_call_of_ne own same]
      intro count origin same given
      exact copied ⟨count, origin, same, given⟩

end Call

theorem copy_of_other {session : Session} {name source : Text} {sink : Sink} {object : Object}
    (found : session.object? name = some (.sink sink))
    (given : session.object? source = some object) (other : ∀ origin, object ≠ .source origin)
    (count : Int) :
    session.copy name source count = session.copyFromOther name sink object count := by
  cases object with
  | source origin => exact absurd rfl (other origin)
  | _ => simp only [copy, found, given]

/-! ## A sink beside another -/

/--
A session with the calls of one sink, and the session in which others have written to a window; the
foreign names are the objects that the others change.
-/
structure Beside (window : Region) (foreign : Text → Prop) (alone actual : Session) : Prop where
  store : Store.Overwritten window.buffer window.start window.stop alone.store actual.store
  objects : ∀ name, ¬foreign name → actual.object? name = alone.object? name

/-- Two answers of such sessions to the same call. -/
structure Answer.Beside (window : Region) (foreign : Text → Prop) (one two : Answer) : Prop where
  outcome : two.outcome = one.outcome
  notices : two.notices = one.notices
  session : one.session.Beside window foreign two.session

namespace Beside

variable {window region : Region} {foreign : Text → Prop} {alone actual : Session} {name : Text}

theorem refl (window : Region) (foreign : Text → Prop) (session : Session) :
    session.Beside window foreign session :=
  ⟨.refl _ _ _ _, fun _ _ => rfl⟩

theorem setObject (beside : alone.Beside window foreign actual) (name : Text) (object : Object) :
    (alone.setObject name object).Beside window foreign (actual.setObject name object) := by
  refine ⟨beside.store, ?_⟩
  intro other known
  by_cases same : other = name
  · rw [same, object?_setObject_self, object?_setObject_self]
  · rw [object?_setObject_of_ne same, object?_setObject_of_ne same]
    exact beside.objects other known

theorem withStore (beside : alone.Beside window foreign actual) {one two : Store}
    (altered : Store.Overwritten window.buffer window.start window.stop one two) :
    Beside window foreign { alone with store := one } { actual with store := two } :=
  ⟨altered, beside.objects⟩

theorem answer (beside : alone.Beside window foreign actual) (outcome : Outcome)
    (notices : List Notice) :
    Answer.Beside window foreign ⟨alone, outcome, notices⟩ ⟨actual, outcome, notices⟩ :=
  ⟨rfl, rfl, beside⟩

section Own

variable (beside : alone.Beside window foreign actual) (fills : alone.Fills name region)
  (shared : region.buffer = window.buffer) (known : ¬foreign name)

include beside fills known

theorem refused (method : String) (outcome : Outcome) :
    Answer.Beside window foreign (alone.refused name method outcome)
      (actual.refused name method outcome) := by
  rcases fills.exists_sink with ⟨sink, found, -⟩
  simp only [Session.refused, lacking, beside.objects name known, found]
  split <;> exact beside.answer _ _

theorem reset (offset : Option (Option Int)) :
    Answer.Beside window foreign (alone.reset name offset) (actual.reset name offset) := by
  rcases fills with ⟨⟨policy, scratch, destination⟩, found, site, -⟩
  rcases Destination.exists_region_of_site site with ⟨position, rfl⟩
  simp only [Session.reset, beside.objects name known, found]
  split
  · exact (beside.setObject name _).answer _ _
  · exact beside.answer _ _

include shared

theorem write (request : Request) :
    Answer.Beside window foreign (alone.write name request) (actual.write name request) := by
  rcases fills.exists_sink with ⟨sink, found, writes⟩
  rw [shared] at writes
  have delivered := writes.deliver beside.store (request.plan sink.policy).pieces
  rcases delivered.state with ⟨same, -, altered⟩
  simp only [Session.write, beside.objects name known, found, Sink.write, Sink.carryOut,
    delivered.fault, delivered.notices, same]
  exact ((beside.withStore altered).setObject name _).answer _ _

theorem writeBytes (natures : ∀ name, actual.natureOf? name = alone.natureOf? name) {data : Data}
    (avoids : alone.content? data ≠ some (.shared window.buffer)) (offset : Int)
    (length : Option Int) :
    Answer.Beside window foreign (alone.writeBytes name data offset length)
      (actual.writeBytes name data offset length) := by
  unfold Session.writeBytes
  rw [content?_of_natures natures, withoutBytes_of_natures natures]
  split
  · exact beside.refused fills known _ _
  · exact beside.write fills shared known _
  · rename_i id given
    have different : id ≠ window.buffer := by
      rintro rfl
      exact avoids given
    have pinned := beside.withStore (beside.store.pin different)
    have written := pinned.write (fills.pin id) shared known
      (.bytes (alone.store.buffer id).bytes offset length)
    rw [beside.store.rest.buffer_of_ne different]
    exact ⟨written.outcome, written.notices,
      written.session.withStore (written.session.store.unpin different)⟩

theorem copy (natures : ∀ name, actual.natureOf? name = alone.natureOf? name) {source : Text}
    (avoids : ∀ origin, alone.object? source = some (.source origin) →
      origin.origin.Avoids (some (.buffer window.buffer)))
    (drawn : ∀ origin, alone.object? source = some (.source origin) → ¬foreign source)
    (count : Int) :
    Answer.Beside window foreign (alone.copy name source count)
      (actual.copy name source count) := by
  rcases fills.exists_sink with ⟨sink, found, writes⟩
  have there := (beside.objects name known).trans found
  rw [shared] at writes
  have transfer {origin : Source} (apart : origin.origin.Avoids (some (.buffer window.buffer))) :
      Transfer.Beside window.buffer window.start window.stop ⟨alone.store, sink, origin⟩
        ⟨actual.store, sink, origin⟩ :=
    ⟨beside.store, rfl, rfl, writes, apart⟩
  rcases given : alone.object? source with _ | object
  · have missing := natures source
    rw [natureOf?, natureOf?, given, Option.map_none, Option.map_eq_none_iff] at missing
    simp only [Session.copy, found, there, given, missing]
    exact beside.answer _ _
  · by_cases isSource : ∃ origin, object = .source origin
    · rcases isSource with ⟨origin, rfl⟩
      have copied := (transfer (avoids origin given)).copy count
      have again := (beside.objects source (drawn origin given)).trans given
      simp only [Session.copy, found, there, given, again, copyFrom, copied.fault, copied.notices,
        copied.state.sink, copied.state.source]
      exact (((beside.withStore copied.state.store).setObject name _).setObject source _).answer _ _
    · have other : ∀ origin, object ≠ .source origin := by
        intro origin same
        exact isSource ⟨origin, same⟩
      rcases kindName_of_natures natures given other with ⟨again, given', kind, others⟩
      have nothing : (Source.memory (.own []) 0).origin.Avoids (some (.buffer window.buffer)) :=
        Origin.avoids_own _ _
      have copied := (transfer nothing).copy (min count 0)
      rw [copy_of_other found given other, copy_of_other there given' others]
      simp only [copyFromOther, copied.fault, copied.notices, copied.state.sink, kind]
      split
      · exact (beside.setObject name _).answer _ _
      · exact (beside.setObject name _).answer _ _

/-- A call of the sink does the same in both sessions. -/
theorem call (natures : ∀ name, actual.natureOf? name = alone.natureOf? name) {step : Step}
    (own : step.IsOn name) (avoids : step.Avoids alone window.buffer)
    (drawn : ∀ source count origin, step = .copy name source count →
      alone.object? source = some (.source origin) → ¬foreign source) :
    Answer.Beside window foreign (alone.step step) (actual.step step) := by
  cases step with
  | write target request =>
      obtain rfl : target = name := own
      exact beside.write fills shared known request
  | writeBytes target data offset length =>
      obtain rfl : target = name := own
      exact beside.writeBytes fills shared known natures avoids offset length
  | copy target source count =>
      obtain rfl : target = name := own
      exact beside.copy fills shared known natures avoids
        (fun origin given => drawn source count origin rfl given) count
  | reset target offset =>
      obtain rfl : target = name := own
      exact beside.reset fills known offset
  | _ => exact False.elim own

end Own

/-- A call of a sink that writes to the window is not felt in the session without it. -/
theorem other (beside : alone.Beside window foreign actual) {step : Step}
    (fills : actual.Fills name window) (own : step.IsOn name)
    (avoids : step.Avoids actual window.buffer) (unknown : foreign name)
    (drawn : ∀ source count origin, step = .copy name source count →
      actual.object? source = some (.source origin) → foreign source) :
    alone.Beside window foreign (actual.step step).session where
  store := beside.store.trans (fills.call own avoids).2
  objects := by
    intro third known
    have different : third ≠ name := by
      rintro rfl
      exact known unknown
    rw [object?_call_of_ne own different]
    · exact beside.objects third known
    · intro count origin same given
      exact known (drawn third count origin same given)

end Beside

/-! ## Both sinks in turn -/

/-- Two sinks with windows of one buffer, and the sources that each of them may copy from. -/
structure Pair (start : Session) (one two : Text) (first second : Region)
    (drawnOne drawnTwo : Text → Prop) : Prop where
  different : one ≠ two
  shared : first.buffer = second.buffer
  fillsOne : start.Fills one first
  fillsTwo : start.Fills two second
  sourcesOne : ∀ name, drawnOne name → ∃ source, start.object? name = some (.source source)
  sourcesTwo : ∀ name, drawnTwo name → ∃ source, start.object? name = some (.source source)
  disjoint : ∀ name, drawnOne name → ¬drawnTwo name

/-- A call of a sink that copies, if at all, from one of its own sources. -/
structure Step.IsCall (start : Session) (id : BufferId) (name : Text) (drawn : Text → Prop)
    (step : Step) : Prop where
  own : step.IsOn name
  avoids : step.Avoids start id
  drawn : ∀ source count origin, step = .copy name source count →
    start.object? source = some (.source origin) → drawn source

/-- A session that calls of both sinks lead to. -/
structure Reached (start : Session) (one two : Text) (first second : Region) (session : Session) :
    Prop where
  fillsOne : session.Fills one first
  fillsTwo : session.Fills two second
  natures : ∀ name, session.natureOf? name = start.natureOf? name

section Turns

variable {start session alone other actual : Session} {one two : Text} {first second : Region}
  {drawnOne drawnTwo : Text → Prop} {step : Step}

theorem Pair.symm (pair : start.Pair one two first second drawnOne drawnTwo) :
    start.Pair two one second first drawnTwo drawnOne :=
  ⟨pair.different.symm, pair.shared.symm, pair.fillsTwo, pair.fillsOne, pair.sourcesTwo,
    pair.sourcesOne, fun name drawn own => pair.disjoint name own drawn⟩

theorem Reached.symm (reached : start.Reached one two first second session) :
    start.Reached two one second first session :=
  ⟨reached.fillsTwo, reached.fillsOne, reached.natures⟩

theorem Pair.not_drawn (pair : start.Pair one two first second drawnOne drawnTwo) :
    ¬drawnTwo one := by
  intro drawn
  rcases pair.sourcesTwo one drawn with ⟨source, given⟩
  rcases pair.fillsOne with ⟨sink, found, -⟩
  cases given.symm.trans found

theorem Reached.call (pair : start.Pair one two first second drawnOne drawnTwo)
    (reached : start.Reached one two first second session)
    (isCall : step.IsCall start first.buffer one drawnOne) :
    start.Reached one two first second (session.step step).session := by
  have avoids := isCall.avoids.of_natures reached.natures
  rcases reached.fillsOne.call isCall.own avoids with ⟨still, altered⟩
  refine ⟨still, ?_, ?_⟩
  · rw [pair.shared] at altered
    apply reached.fillsTwo.of_overwritten altered
    apply object?_call_of_ne isCall.own pair.different.symm
    intro count origin same given
    rcases reached.fillsTwo with ⟨sink, found, -⟩
    cases given.symm.trans found
  · intro name
    rw [natureOf?_call reached.fillsOne isCall.own avoids, reached.natures]

/-- A call of one sink, in its own session, in that of the other sink, and in the one of both. -/
theorem Pair.turn (pair : start.Pair one two first second drawnOne drawnTwo)
    (reachedAlone : start.Reached one two first second alone)
    (reached : start.Reached one two first second actual)
    (beside : alone.Beside second (fun name => name = two ∨ drawnTwo name) actual)
    (besideOther : other.Beside first (fun name => name = one ∨ drawnOne name) actual)
    (isCall : step.IsCall start first.buffer one drawnOne) :
    Answer.Beside second (fun name => name = two ∨ drawnTwo name) (alone.step step)
        (actual.step step) ∧
      other.Beside first (fun name => name = one ∨ drawnOne name) (actual.step step).session := by
  have natures (name : Text) : actual.natureOf? name = alone.natureOf? name := by
    rw [reached.natures, reachedAlone.natures]
  constructor
  · have known : ¬(one = two ∨ drawnTwo one) := not_or.mpr ⟨pair.different, pair.not_drawn⟩
    have avoids := isCall.avoids.of_natures reachedAlone.natures
    rw [pair.shared] at avoids
    apply beside.call reachedAlone.fillsOne pair.shared known natures isCall.own avoids
    intro source count origin same given
    rcases origin_of_natures reachedAlone.natures given with ⟨before, found, -⟩
    rintro (rfl | drawn)
    · rcases reachedAlone.fillsTwo with ⟨sink, there, -⟩
      cases given.symm.trans there
    · exact pair.disjoint source (isCall.drawn source count before same found) drawn
  · apply besideOther.other reached.fillsOne isCall.own
      (isCall.avoids.of_natures reached.natures) (.inl rfl)
    intro source count origin same given
    rcases origin_of_natures reached.natures given with ⟨before, found, -⟩
    exact .inr (isCall.drawn source count before same found)

/-- A session is told by what each of both sinks would have made of it alone. -/
theorem Pair.eq_of_beside (pair : start.Pair one two first second drawnOne drawnTwo)
    (apart : ∀ index, first.start ≤ index → index < first.stop →
      ¬(second.start ≤ index ∧ index < second.stop)) {later : Session}
    (beside : alone.Beside second (fun name => name = two ∨ drawnTwo name) actual)
    (besideOther : other.Beside first (fun name => name = one ∨ drawnOne name) actual)
    (again : alone.Beside second (fun name => name = two ∨ drawnTwo name) later)
    (againOther : other.Beside first (fun name => name = one ∨ drawnOne name) later) :
    actual.store = later.store ∧ ∀ name, actual.object? name = later.object? name := by
  constructor
  · have bytes : (actual.store.buffer second.buffer).bytes
        = (later.store.buffer second.buffer).bytes := by
      apply List.ext_getElem?
      intro index
      by_cases outside : index < second.start ∨ second.stop ≤ index
      · rw [beside.store.outside index outside, again.store.outside index outside]
      · have elsewhere : index < first.start ∨ first.stop ≤ index := by
          by_contra inside
          exact apart index (by omega) (by omega) (by omega)
        rw [← pair.shared, besideOther.store.outside index elsewhere,
          againOther.store.outside index elsewhere]
    have rest := beside.store.rest
    rw [Store.DifferIn, bytes] at rest
    exact rest.trans again.store.rest.symm
  · intro name
    by_cases foreign : name = two ∨ drawnTwo name
    · have known : ¬(name = one ∨ drawnOne name) := by
        rintro (rfl | drawn)
        · rcases foreign with same | drawn
          · exact pair.different same
          · exact pair.not_drawn drawn
        · rcases foreign with rfl | drawnToo
          · exact pair.symm.not_drawn drawn
          · exact pair.disjoint name drawn drawnToo
      rw [besideOther.objects name known, againOther.objects name known]
    · rw [beside.objects name foreign, again.objects name foreign]

end Turns

end Session

end IndexWire
