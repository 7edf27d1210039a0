import IndexWire.Proofs.Sink.Copy
import IndexWire.Proofs.Sink.Views
import IndexWire.Session.Workspace

/-!
# Agreement of destinations

A run of calls on a sink, some of which fail, reads the same bytes and ends each call alike whatever
the destination is, as long as there is room: neither requests nor copies look at the destination.
What a run hands over is told by `Feed.run` without one, and so any two destinations that a run has
room in take the same bytes.

That is so of requests, which are values. Destinations may differ about items of several bytes and
about items that stand apart, about a buffer that one of them writes to, and about an iterator, of
which the first gets all and the others nothing.
-/

namespace IndexWire

/-- A call of a sink. -/
inductive Sink.Call where
  | write (request : Request)
  | copy (source : Nat) (count : Int)

/-- The sources after a copy from one of them. -/
def setSource (sources : Nat → Source) (index : Nat) (source : Source) : Nat → Source :=
  fun other => if other = index then source else sources other

theorem setSource_self (sources : Nat → Source) (index : Nat) :
    setSource sources index (sources index) = sources := by
  funext other
  by_cases same : other = index
  · simp only [setSource, same, if_true]
  · simp only [setSource, same, if_false]

/-- A sink and the sources that it copies from. -/
structure Bench where
  store : Store
  sink : Sink
  sources : Nat → Source

namespace Bench

/-- Makes a call, and tells how it ends. -/
def call (bench : Bench) : Sink.Call → Bench × Option Fault
  | .write request =>
    let attempt := bench.sink.write bench.store request
    (⟨attempt.state.1, attempt.state.2, bench.sources⟩, attempt.fault)
  | .copy index count =>
    let attempt := (Transfer.mk bench.store bench.sink (bench.sources index)).copy count
    (⟨attempt.state.store, attempt.state.sink,
      setSource bench.sources index attempt.state.source⟩, attempt.fault)

/-- Makes calls one after another, whether they fail or not, and tells how each of them ends. -/
def run (bench : Bench) : List Sink.Call → Bench × List (Option Fault)
  | [] => (bench, [])
  | call :: rest =>
    let (after, outcome) := bench.call call
    let (last, outcomes) := after.run rest
    (last, outcome :: outcomes)

end Bench

/-- What a sink has beside its destination: the scratch buffer, and the sources. -/
structure Feed where
  scratch : Option Bytes
  sources : Nat → Source

namespace Feed

/-- What a call hands over, and how it ends where everything is taken. -/
def call (base : Store) (policy : SurrogatePolicy) (feed : Feed) : Sink.Call → Feed × Plan
  | .write request => (feed, request.plan policy)
  | .copy index count =>
    if count < 0 then (feed, .refused (.negativeCount count))
    else
      let fetched := (feed.sources index).fetch base
        (feed.scratch.getD (List.replicate blockSize 0)) count.toNat
      (⟨some fetched.scratch, setSource feed.sources index fetched.source⟩,
        ⟨fetched.pieces, fetched.fault⟩)

/-- What calls hand over, and how each of them ends where everything is taken. -/
def run (base : Store) (policy : SurrogatePolicy) (feed : Feed) :
    List Sink.Call → Feed × List Piece × List (Option Fault)
  | [] => (feed, [], [])
  | call :: rest =>
    let (after, plan) := feed.call base policy call
    let (last, pieces, outcomes) := after.run base policy rest
    (last, plan.pieces ++ pieces, plan.fault :: outcomes)

/-- Whether a run on a destination changes nothing that the sources read. -/
def Apart (feed : Feed) (base store : Store) (destination : Destination) : Prop :=
  ∀ index, (feed.sources index).IsApart base store destination

end Feed

theorem Source.origin_fetch (store : Store) (source : Source) (scratch : Bytes) (left : Nat) :
    (source.fetch store scratch left).source.origin = source.origin := by
  fun_induction Source.fetch store source scratch left with
  | case1 source scratch left unfinished count loaded plan =>
      exact origin_readInto source { bytes := scratch } 0 count
  | case2 source scratch left unfinished count loaded plan accepted =>
      rename_i later ih
      exact ih.trans (origin_readInto source { bytes := scratch } 0 count)
  | case3 source scratch left finished => rfl

namespace Feed

variable {base store : Store} {policy : SurrogatePolicy} {feed : Feed} {destination : Destination}

theorem origin_call (call : Sink.Call) (index : Nat) :
    ((feed.call base policy call).1.sources index).origin = (feed.sources index).origin := by
  cases call with
  | write request => rfl
  | copy chosen count =>
      simp only [Feed.call]
      split
      · rfl
      · by_cases same : index = chosen
        · simp only [setSource, same, if_true, Source.origin_fetch]
        · simp only [setSource, same, if_false]

theorem call_of_room {call : Sink.Call} (whole : destination.IsWhole store)
    (apart : feed.Apart base store destination)
    (room : destination.HasRoom
      ((feed.call base policy call).2.pieces.flatMap Piece.bytes).length) :
    let fed := feed.call base policy call
    let delivered := destination.deliver store fed.2.pieces
    (Bench.mk store ⟨policy, feed.scratch, destination⟩ feed.sources).call call
      = (⟨delivered.state.1, ⟨policy, fed.1.scratch, delivered.state.2⟩, fed.1.sources⟩,
          fed.2.fault) := by
  rcases Destination.deliver_of_room whole room with ⟨accepted, took⟩
  cases call with
  | write request =>
      simp only [Feed.call] at accepted
      simp only [Feed.call, Bench.call, Sink.write, Sink.carryOut, accepted, Option.none_or]
  | copy index count =>
      by_cases negative : count < 0
      · simp only [Feed.call, Bench.call, Transfer.copy, if_pos negative, Attempt.failed,
          Plan.refused, Destination.deliver, setSource_self]
      · simp only [Feed.call, if_neg negative] at room ⊢
        rcases Transfer.copy_of_room store ⟨policy, feed.scratch, destination⟩
          (feed.sources index) (Int.not_lt.mp negative) whole (apart index) rfl room with
            ⟨state, outcome⟩
        simp only [Bench.call, state, outcome]

/-- What a run hands over begins with what its first calls hand over. -/
theorem pieces_run_append (feed : Feed) (first second : List Sink.Call) :
    (feed.run base policy (first ++ second)).2.1
      = (feed.run base policy first).2.1
        ++ ((feed.run base policy first).1.run base policy second).2.1 := by
  induction first generalizing feed with
  | nil => rfl
  | cons call rest ih =>
      simp only [List.cons_append, Feed.run, ih, List.append_assoc]

/-- A run hands over what it feeds on, if there is room for it. -/
theorem run_of_room {calls : List Sink.Call} (whole : destination.IsWhole store)
    (apart : feed.Apart base store destination)
    (room : destination.HasRoom
      ((feed.run base policy calls).2.1.flatMap Piece.bytes).length) :
    let fed := feed.run base policy calls
    let delivered := destination.deliver store fed.2.1
    (Bench.mk store ⟨policy, feed.scratch, destination⟩ feed.sources).run calls
      = (⟨delivered.state.1, ⟨policy, fed.1.scratch, delivered.state.2⟩, fed.1.sources⟩,
          fed.2.2) := by
  induction calls generalizing store feed destination with
  | nil => rfl
  | cons call rest ih =>
      simp only [Feed.run, List.flatMap_append, List.length_append] at room ⊢
      have first := room.mono (Nat.le_add_right _ _)
      rcases Destination.deliver_of_room whole first with ⟨accepted, took⟩
      have later : (feed.call base policy call).1.Apart base
          (destination.deliver store (feed.call base policy call).2.pieces).state.1
          (destination.deliver store (feed.call base policy call).2.pieces).state.2 := by
        intro index
        exact (apart index).took took (origin_call call index)
      simp only [Bench.run, call_of_room whole apart first, Destination.deliver_append accepted,
        ih took.whole later (took.room _ room)]

end Feed

namespace Bench

/-- A sink that has not been used yet, with its sources. -/
def fresh (store : Store) (policy : SurrogatePolicy) (sources : Nat → Source)
    (destination : Destination) : Bench :=
  ⟨store, { policy, destination }, sources⟩

theorem took_of_room (store : Store) (policy : SurrogatePolicy) (sources : Nat → Source)
    (calls : List Sink.Call) (destination : Destination) (whole : destination.IsWhole store)
    (apart : ∀ index, (sources index).origin.Avoids destination.site.place?)
    (room : destination.HasRoom
      ((Feed.run store policy ⟨none, sources⟩ calls).2.1.flatMap Piece.bytes).length) :
    ((fresh store policy sources destination).run calls).2
        = (Feed.run store policy ⟨none, sources⟩ calls).2.2 ∧
      Destination.Took (store, destination)
        ((Feed.run store policy ⟨none, sources⟩ calls).2.1.flatMap Piece.bytes)
        (((fresh store policy sources destination).run calls).1.store,
          ((fresh store policy sources destination).run calls).1.sink.destination) := by
  have ran := Feed.run_of_room whole (fun index => ⟨apart index, rfl⟩) room
  simp only at ran
  rw [fresh, ran]
  exact ⟨rfl, (Destination.deliver_of_room whole room).2⟩

/-- A run on a sink in memory counts what it hands over. -/
theorem count_run_memory (store : Store) (policy : SurrogatePolicy) (sources : Nat → Source)
    (calls : List Sink.Call) :
    ((fresh store policy sources (.memory {})).run calls).1.sink.destination.count
      = ((Feed.run store policy ⟨none, sources⟩ calls).2.1.flatMap Piece.bytes).length := by
  have nowhere : ∀ index, (sources index).origin.Avoids none :=
    fun index place found => Option.some_ne_none place ∘ Eq.symm
  have took := (took_of_room store policy sources calls (.memory {}) trivial nowhere trivial).2
  exact took.count.trans (Nat.zero_add _)

/--
A run leaves the same bytes and ends each call alike whether they go to memory, to a count, to a
stream, to a window with room for them or to a recorder; and each of them tells their number.
-/
theorem destinations_agree (store : Store) (policy : SurrogatePolicy) (sources : Nat → Source)
    (calls : List Sink.Call) (name : Text) (id : BufferId) (start stop : Nat)
    (made : id < store.buffers.length) (inside : stop ≤ (store.buffer id).bytes.length)
    (unshared : ∀ index, (sources index).origin.Avoids (some (.buffer id)))
    (room : start + ((fresh store policy sources (.memory {})).run calls).1.sink.destination.count
      ≤ stop)
    (done : List Sink.Call) (reached : done <+: calls) :
    let ran := fun destination => (fresh store policy sources destination).run done
    let stream := ran (.stream ⟨name, 0, .writer {}⟩)
    let region := ran (.region ⟨id, start, stop, start⟩)
    ∃ data outcomes,
      (∀ destination ∈ [.memory {}, .counter 0, .stream ⟨name, 0, .writer {}⟩,
          .region ⟨id, start, stop, start⟩, .recorder {}],
        (ran destination).2 = outcomes ∧
          (ran destination).1.sink.destination.count = data.length) ∧
      (∃ memory, (ran (.memory {})).1.sink.destination = .memory memory ∧ memory.value = data) ∧
      (∃ name written device,
        stream.1.sink.destination = .stream ⟨name, written, .writer device⟩ ∧
          device.kept = data) ∧
      (∃ position, region.1.sink.destination = .region ⟨id, start, stop, position⟩ ∧
        ((region.1.store.buffer id).bytes.take position).drop start = data) ∧
      (∃ recorder, (ran (.recorder {})).1.sink.destination = .recorder recorder ∧
        recorder.data = data) := by
  intro ran stream region
  have fits : start + ((Feed.run store policy ⟨none, sources⟩ done).2.1.flatMap Piece.bytes).length
      ≤ stop := by
    rcases reached with ⟨later, rfl⟩
    rw [count_run_memory, Feed.pieces_run_append, List.flatMap_append, List.length_append] at room
    omega
  have ends := took_of_room store policy sources done
  generalize (Feed.run store policy ⟨none, sources⟩ done).2.1.flatMap Piece.bytes = data
    at ends fits
  generalize (Feed.run store policy ⟨none, sources⟩ done).2.2 = outcomes at ends
  have nowhere : ∀ index, (sources index).origin.Avoids none :=
    fun index place found => Option.some_ne_none place ∘ Eq.symm
  have placed : Region.IsPlaced store ⟨id, start, stop, start⟩ :=
    ⟨made, Nat.le_refl start, Nat.le_trans (Nat.le_add_right start data.length) fits, inside⟩
  rcases ends (.memory {}) trivial nowhere trivial with ⟨memoryOutcomes, memoryTook⟩
  rcases ends (.counter 0) trivial nowhere trivial with ⟨counterOutcomes, counterTook⟩
  rcases ends (.stream ⟨name, 0, .writer {}⟩) rfl nowhere ⟨rfl, by simp⟩ with
      ⟨streamOutcomes, streamTook⟩
  rcases ends (.region ⟨id, start, stop, start⟩) placed unshared fits with
      ⟨regionOutcomes, regionTook⟩
  rcases ends (.recorder {}) trivial nowhere (by simp [Destination.HasRoom]) with
      ⟨recorderOutcomes, recorderTook⟩
  refine ⟨data, outcomes, ?_, ?_, ?_, ?_, ?_⟩
  · simp only [List.forall_mem_cons]
    refine ⟨⟨memoryOutcomes, ?_⟩, ⟨counterOutcomes, ?_⟩, ⟨streamOutcomes, ?_⟩,
      ⟨regionOutcomes, ?_⟩, ⟨recorderOutcomes, ?_⟩, by simp⟩
    · exact memoryTook.count.trans (Nat.zero_add _)
    · exact counterTook.count.trans (Nat.zero_add _)
    · exact streamTook.count.trans (Nat.zero_add _)
    · exact regionTook.count.trans (by simp [Destination.count])
    · exact recorderTook.count.trans (Nat.zero_add _)
  · exact memoryTook.value_of_memory
  · exact streamTook.kept_of_writer
  · rcases regionTook.held_of_region placed with ⟨position, found, held⟩
    refine ⟨position, found, ?_⟩
    rw [held]
    simp
  · exact recorderTook.data_of_recorder

/-- A text, a copy from a stream that answers in parts, a refused integer and a copy cut short. -/
theorem destinations_agree_cut_copy :
    let ran := fun destination =>
      (fresh { buffers := [{ bytes := [0, 0, 0, 0, 0, 0, 0, 0] }] } .strict
        (fun _ => .stream (.reader { data := .own [5, 6, 7], replies := [.give (some 1)] }))
        destination).run
        [.write (.string (.text (Text.ofString "ab"))), .copy 0 2, .write (.vint (2 ^ 32)),
          .copy 0 4]
    (ran (.region ⟨0, 1, 8, 1⟩)).2 = (ran (.memory {})).2 ∧
      ∃ memory position,
        (ran (.memory {})).1.sink.destination = .memory memory ∧
          (ran (.region ⟨0, 1, 8, 1⟩)).1.sink.destination = .region ⟨0, 1, 8, position⟩ ∧
          (((ran (.region ⟨0, 1, 8, 1⟩)).1.store.buffer 0).bytes.take position).drop 1
            = memory.value := by
  intro ran
  have room : 1 + (ran (.memory {})).1.sink.destination.count ≤ 8 := by
    decide +kernel
  rcases destinations_agree { buffers := [{ bytes := [0, 0, 0, 0, 0, 0, 0, 0] }] } .strict _ _ [] 0
      1 8 (by decide) (by decide) (fun index place own => by cases own) room _ List.prefix_rfl with
    ⟨data, outcomes, each, ⟨memory, found, value⟩, -, ⟨position, placed, held⟩, -⟩
  have same := (each (.region ⟨0, 1, 8, 1⟩) (by simp)).1.trans (each (.memory {}) (by simp)).1.symm
  exact ⟨same, memory, position, found, placed, held.trans value.symm⟩

end Bench

/-- The bytes that a destination has kept. -/
def Destination.held (store : Store) : Destination → Bytes
  | memory target => target.value
  | counter _ => []
  | region target => ((store.buffer target.buffer).bytes.take target.position).drop target.start
  | stream { device := .writer device, .. } => device.kept
  | stream { device := .file device, .. } => device.pending
  | recorder target => target.data

namespace Workspace

/-- The bytes that the sink of a name has kept. -/
def held (workspace : Workspace) (name : Text) : Bytes :=
  match workspace.session.object? name with
  | some (.sink sink) => sink.destination.held workspace.session.store
  | _ => []

/--
Sinks that are given the same need not agree: memory keeps three bytes of three items of four bytes
each where a stream gets all of them; a file takes no bytes that stand apart; a window that is given
its own buffer changes what memory is given after it; and the set of an iterator is empty once it
has been written.
-/
theorem destinations_disagree :
    let memory := Text.ofString "memory"
    let stream := Text.ofString "stream"
    let file := Text.ofString "file"
    let window := Text.ofString "window"
    let buffer := Text.ofString "buffer"
    let texts := Text.ofString "texts"
    let start : Workspace :=
      { session :=
          { store := { buffers := [{ bytes := [1, 2, 3] }] }
            objects :=
              [(memory, .sink { policy := .replace, destination := .memory {} }),
                (stream, .sink
                  { policy := .replace, destination := .stream ⟨stream, 0, .writer {}⟩ }),
                (file, .sink
                  { policy := .replace
                    destination := .stream ⟨file, 0, .file { location := [file] }⟩ }),
                (window, .sink { policy := .replace, destination := .region ⟨0, 0, 2, 0⟩ }),
                (buffer, .buffer 0)] }
        iterators := fun _ => [.text (Text.ofString "a")] }
    let words (name : Text) : Step := .writeItems name View.threeWords 0 none
    let spread (name : Text) : Step := .writeItems name View.everyOtherByte 0 none
    let shared (name : Text) : Step :=
      .call (.writeBytes name (.shared buffer) 1 (some 2))
    let set (name : Text) : Step := .writeSet name texts
    ((start.next (words memory)).held memory = [1, 0, 0] ∧
        (start.next (words stream)).held stream = [1, 0, 0, 0, 2, 0, 0, 0, 3, 0, 0, 0]) ∧
      ((start.answer (spread memory)).outcome = .done ∧
        (start.answer (spread file)).outcome = .failed .notPacked) ∧
      (((start.next (shared window)).next (shared memory)).held window = [2, 3] ∧
        ((start.next (shared window)).next (shared memory)).held memory = [3, 3]) ∧
      (((start.next (set memory)).next (set stream)).held memory = [0, 0, 0, 1, 1, 97] ∧
        ((start.next (set memory)).next (set stream)).held stream = [0, 0, 0, 0]) := by
  intro memory stream file window buffer texts start words spread shared set
  refine ⟨?_, ⟨rfl, rfl⟩, ?_, ?_⟩
  · decide +kernel
  · decide +kernel
  · decide +kernel

end Workspace

end IndexWire
