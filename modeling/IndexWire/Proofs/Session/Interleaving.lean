import IndexWire.Proofs.Session.Turns
import IndexWire.Proofs.Sink.Views
import IndexWire.Session.Workspace

/-!
# Calls of two sinks in turn

Two sinks write to windows of one buffer that have no byte in common. However their calls are
interleaved, each call ends as it does when one sink is done before the other begins, and so do the
buffer, the cursors and the sources. For that no call may use up what the other sink is still to
get, be it from a source, from a stream that several sources read, or from an iterator, and items
must be bytes, since others push all that stands behind a window away.

A step of a workspace does what `Step.inside` does in its session, for which `Pair.turn` tells what
a call means to both sinks.
-/

namespace IndexWire

/-- A list made of two others, each of which keeps its order. -/
inductive Interleaves {α : Type} : List α → List α → List α → Prop where
  | nil : Interleaves [] [] []
  | left (entry : α) {first second merged : List α} (rest : Interleaves first second merged) :
      Interleaves (entry :: first) second (entry :: merged)
  | right (entry : α) {first second merged : List α} (rest : Interleaves first second merged) :
      Interleaves first (entry :: second) (entry :: merged)

namespace Interleaves

variable {α : Type}

theorem nil_right (entries : List α) : Interleaves entries [] entries := by
  induction entries with
  | nil => exact .nil
  | cons entry rest ih => exact .left entry ih

theorem nil_left (entries : List α) : Interleaves [] entries entries := by
  induction entries with
  | nil => exact .nil
  | cons entry rest ih => exact .right entry ih

theorem eq_of_nil_left {entries merged : List α} (merge : Interleaves [] entries merged) :
    merged = entries := by
  induction entries generalizing merged with
  | nil =>
      cases merge
      rfl
  | cons entry rest ih =>
      cases merge with
      | right _ later => rw [ih later]

end Interleaves

namespace Workspace

/-- The workspace after steps. -/
def after (workspace : Workspace) : List Step → Workspace
  | [] => workspace
  | step :: rest => (workspace.next step).after rest

/-- The steps in order, each with its outcome and with what it reported. -/
def transcript (workspace : Workspace) : List Step → List (Step × Session.Outcome × List Notice)
  | [] => []
  | step :: rest =>
    let answer := workspace.answer step
    (step, answer.outcome, answer.notices) :: (workspace.next step).transcript rest

namespace Step

/-- Whether a step is a call of the sink of a name. -/
def IsOn (name : Text) : Step → Prop
  | call step => step.IsOn name
  | writeSet target _ => target = name
  | writeItems target _ _ _ => target = name

/-- Whether the items that a step writes are bytes. -/
def IsNarrow : Step → Prop
  | writeItems _ view _ _ => view.itemSize = 1
  | _ => True

/-- Whether what a step writes does not come from a buffer. Items are told by their bytes. -/
def Avoids (workspace : Workspace) (id : BufferId) : Step → Prop
  | call step => (step.over workspace.streams).Avoids workspace.session id
  | _ => True

/-- Whether a step uses an iterator up. -/
def Exhausts (iterator : Text) : Step → Prop
  | writeSet _ own => own = iterator
  | _ => False

/-- The step of a session that does the same to it. -/
def inside (workspace : Workspace) : Step → Session.Step
  | call step => step.over workspace.streams
  | writeSet name iterator => .write name (.stringSet (.list (workspace.iterators iterator)))
  | writeItems name view offset length => .writeBytes name (.own view.bytes) offset length

end Step

/-- Whether one of the steps copies from what the name of a source, or of a stream, stands for. -/
def Draws (workspace : Workspace) (steps : List Step) (name : Text) : Prop :=
  (∃ target source count,
    .call (.copy target source count) ∈ steps ∧ workspace.streams source = name) ∧
    ∃ source, workspace.session.object? name = some (.source source)

/-- Whether one of the steps uses an iterator up. -/
def Empties (steps : List Step) (iterator : Text) : Prop :=
  ∃ step ∈ steps, step.Exhausts iterator

section Inside

variable {workspace other : Workspace} {step : Step} {name iterator : Text} {region : Region}

theorem Step.IsOn.inside (own : step.IsOn name) (workspace : Workspace) :
    (step.inside workspace).IsOn name := by
  cases step with
  | call step => cases step <;> exact own
  | writeSet target iterator => exact own
  | writeItems target view offset length => exact own

theorem avoids_copy {target source : Text} {held : Source} {id : BufferId}
    (found : workspace.session.object? (workspace.streams source) = some (.source held))
    (avoids : held.origin.Avoids (some (.buffer id))) (count : Int) :
    (Step.call (.copy target source count)).Avoids workspace id := by
  intro origin given
  cases found.symm.trans given
  exact avoids

/-- A step does the same in workspaces that have the streams and its iterator in common. -/
theorem inside_congr (streams : other.streams = workspace.streams)
    (iterators : ∀ iterator, step.Exhausts iterator →
      other.iterators iterator = workspace.iterators iterator) :
    step.inside other = step.inside workspace := by
  cases step with
  | call step => simp only [Step.inside, streams]
  | writeSet target iterator => simp only [Step.inside, iterators iterator rfl]
  | writeItems target view offset length => rfl

/-- What a step does to the session of a workspace, on a sink that writes to a window. -/
theorem answer_eq_step (fills : workspace.session.Fills name region) (own : step.IsOn name)
    (narrow : step.IsNarrow) :
    workspace.answer step = workspace.session.step (step.inside workspace) := by
  cases step with
  | call step => rfl
  | writeSet target iterator => rfl
  | writeItems target view offset length =>
      obtain rfl : target = name := own
      rcases fills with ⟨sink, found, site, -⟩
      have spread : sink.destination.TakesSpread := by
        rcases Destination.exists_region_of_site site with ⟨position, placed⟩
        rw [placed]
        trivial
      have written := Sink.writeItems_of_narrow workspace.session.store narrow (.inr spread) offset
        length
      simp only [answer, Session.writeItems, Step.inside, Session.step, Session.writeBytes,
        Session.content?, Session.write, found, written]

theorem remaining_of_not_exhausts (workspace : Workspace) (keeps : ¬step.Exhausts iterator) :
    workspace.remaining step iterator = workspace.iterators iterator := by
  cases step with
  | call step => rfl
  | writeItems target view offset length => rfl
  | writeSet target own =>
      simp only [remaining]
      split
      · exact if_neg fun same => keeps same.symm
      · rfl

/-- An iterator is left alike by a step on a sink, if it was alike before. -/
theorem remaining_congr (fills : workspace.session.Fills name region)
    (fillsToo : other.session.Fills name region) (own : step.IsOn name)
    (same : other.iterators iterator = workspace.iterators iterator) :
    other.remaining step iterator = workspace.remaining step iterator := by
  by_cases used : step.Exhausts iterator
  · cases step with
    | writeSet target taken =>
        obtain rfl : target = name := own
        rcases fills with ⟨sink, found, -⟩
        rcases fillsToo with ⟨again, there, -⟩
        simp only [remaining, found, there, same]
    | _ => exact used.elim
  · rw [remaining_of_not_exhausts other used, remaining_of_not_exhausts workspace used, same]

end Inside

/-! ## Both sinks in turn -/

/--
A workspace with the calls of one sink, and the workspace with those of another one too, which
writes to a window and changes the foreign objects and iterators.
-/
structure Beside (window : Region) (foreign spent : Text → Prop) (alone actual : Workspace) :
    Prop where
  session : alone.session.Beside window foreign actual.session
  iterators : ∀ iterator, ¬spent iterator →
    actual.iterators iterator = alone.iterators iterator

/-- A call of a sink that takes all that it copies, or uses up, from what is its own. -/
structure Step.IsCall (start : Workspace) (id : BufferId) (name : Text) (drawn used : Text → Prop)
    (step : Step) : Prop where
  own : step.IsOn name
  narrow : step.IsNarrow
  avoids : step.Avoids start id
  drawn : ∀ target source count origin, step = .call (.copy target source count) →
    start.session.object? (start.streams source) = some (.source origin) →
    drawn (start.streams source)
  used : ∀ iterator, step.Exhausts iterator → used iterator

/-- A workspace that calls of both sinks lead to. -/
structure Reached (start : Workspace) (one two : Text) (first second : Region)
    (workspace : Workspace) : Prop where
  session : start.session.Reached one two first second workspace.session
  streams : workspace.streams = start.streams

/-- Two sinks of a workspace, with the sources and the iterators that each of them may use. -/
structure Pair (start : Workspace) (one two : Text) (first second : Region)
    (drawnOne drawnTwo usedOne usedTwo : Text → Prop) : Prop where
  session : start.session.Pair one two first second drawnOne drawnTwo
  disjoint : ∀ iterator, usedOne iterator → ¬usedTwo iterator

section Turns

variable {start alone other actual workspace : Workspace} {one two : Text} {first second : Region}
  {drawnOne drawnTwo usedOne usedTwo : Text → Prop} {step : Step}

theorem Beside.refl (window : Region) (foreign spent : Text → Prop) (workspace : Workspace) :
    workspace.Beside window foreign spent workspace :=
  ⟨.refl _ _ _, fun _ _ => rfl⟩

theorem Pair.symm (pair : start.Pair one two first second drawnOne drawnTwo usedOne usedTwo) :
    start.Pair two one second first drawnTwo drawnOne usedTwo usedOne :=
  ⟨pair.session.symm, fun iterator own used => pair.disjoint iterator used own⟩

theorem Reached.symm (reached : start.Reached one two first second workspace) :
    start.Reached two one second first workspace :=
  ⟨reached.session.symm, reached.streams⟩

theorem Step.IsCall.inside {id : BufferId} {name : Text} {drawn used : Text → Prop}
    (isCall : step.IsCall start id name drawn used) (streams : workspace.streams = start.streams) :
    (step.inside workspace).IsCall start.session id name drawn := by
  have avoids := isCall.avoids
  refine ⟨isCall.own.inside workspace, ?_, ?_⟩
  · cases step with
    | call step =>
        rw [Step.inside, streams]
        exact avoids
    | writeSet target iterator => trivial
    | writeItems target view offset length =>
        intro stored
        cases Option.some.inj stored
  · intro source count origin same given
    cases step with
    | writeSet target iterator => cases same
    | writeItems target view offset length => cases same
    | call step =>
        cases step with
        | copy target own amount =>
            simp only [Step.inside, Session.Step.over, Session.Step.copy.injEq] at same
            obtain ⟨rfl, rfl, rfl⟩ := same
            rw [streams] at given ⊢
            exact isCall.drawn target own amount origin rfl given
        | _ => cases same

theorem answer_of_reached (reached : start.Reached one two first second workspace)
    {id : BufferId} (isCall : step.IsCall start id one drawnOne usedOne) :
    workspace.answer step = workspace.session.step (step.inside workspace) :=
  answer_eq_step reached.session.fillsOne isCall.own isCall.narrow

theorem Reached.call (pair : start.Pair one two first second drawnOne drawnTwo usedOne usedTwo)
    (reached : start.Reached one two first second workspace)
    (isCall : step.IsCall start first.buffer one drawnOne usedOne) :
    start.Reached one two first second (workspace.next step) := by
  refine ⟨?_, reached.streams⟩
  rw [next, answer_of_reached reached isCall]
  exact reached.session.call pair.session (isCall.inside reached.streams)

/-- A call of one sink, in its own workspace, in that of the other sink, and in the one of both. -/
theorem Pair.turn (pair : start.Pair one two first second drawnOne drawnTwo usedOne usedTwo)
    (reachedAlone : start.Reached one two first second alone)
    (reached : start.Reached one two first second actual)
    (beside : alone.Beside second (fun name => name = two ∨ drawnTwo name) usedTwo actual)
    (besideOther : other.Beside first (fun name => name = one ∨ drawnOne name) usedOne actual)
    (isCall : step.IsCall start first.buffer one drawnOne usedOne) :
    (actual.answer step).outcome = (alone.answer step).outcome ∧
      (actual.answer step).notices = (alone.answer step).notices ∧
      (alone.next step).Beside second (fun name => name = two ∨ drawnTwo name) usedTwo
        (actual.next step) ∧
      other.Beside first (fun name => name = one ∨ drawnOne name) usedOne (actual.next step) := by
  have inside : step.inside actual = step.inside alone := by
    apply inside_congr (reached.streams.trans reachedAlone.streams.symm)
    intro iterator exhausts
    exact beside.iterators iterator (pair.disjoint iterator (isCall.used iterator exhausts))
  rcases pair.session.turn reachedAlone.session reached.session beside.session besideOther.session
    (isCall.inside reachedAlone.streams) with ⟨same, unfelt⟩
  rw [← inside] at unfelt
  simp only [next, answer_of_reached reachedAlone isCall, answer_of_reached reached isCall, inside]
    at same unfelt ⊢
  refine ⟨same.outcome, same.notices, ⟨same.session, ?_⟩, ⟨unfelt, ?_⟩⟩
  · intro iterator kept
    exact remaining_congr reachedAlone.session.fillsOne reached.session.fillsOne isCall.own
      (beside.iterators iterator kept)
  · intro iterator unused
    have kept := remaining_of_not_exhausts actual fun exhausts =>
      unused (isCall.used iterator exhausts)
    exact kept.trans (besideOther.iterators iterator unused)

/-- The calls of both sinks in any order, next to those of each of them alone. -/
theorem Pair.interleaving
    (pair : start.Pair one two first second drawnOne drawnTwo usedOne usedTwo)
    {calls others merged : List Step} (merge : Interleaves calls others merged)
    (reachedAlone : start.Reached one two first second alone)
    (reachedOther : start.Reached one two first second other)
    (reached : start.Reached one two first second actual)
    (beside : alone.Beside second (fun name => name = two ∨ drawnTwo name) usedTwo actual)
    (besideOther : other.Beside first (fun name => name = one ∨ drawnOne name) usedOne actual)
    (ownOne : ∀ step ∈ calls, step.IsCall start first.buffer one drawnOne usedOne)
    (ownTwo : ∀ step ∈ others, step.IsCall start second.buffer two drawnTwo usedTwo) :
    Interleaves (alone.transcript calls) (other.transcript others) (actual.transcript merged) ∧
      start.Reached one two first second (actual.after merged) ∧
      (alone.after calls).Beside second (fun name => name = two ∨ drawnTwo name) usedTwo
        (actual.after merged) ∧
      (other.after others).Beside first (fun name => name = one ∨ drawnOne name) usedOne
        (actual.after merged) := by
  induction merge generalizing alone other actual with
  | nil => exact ⟨.nil, reached, beside, besideOther⟩
  | @left step calls others merged merge ih =>
      rw [List.forall_mem_cons] at ownOne
      rcases pair.turn reachedAlone reached beside besideOther ownOne.1 with
          ⟨outcome, notices, same, unfelt⟩
      rcases ih (reachedAlone.call pair ownOne.1) reachedOther (reached.call pair ownOne.1)
        same unfelt ownOne.2 ownTwo with ⟨answers, later⟩
      refine ⟨?_, later⟩
      simp only [transcript, outcome, notices]
      exact .left _ answers
  | @right step calls others merged merge ih =>
      rw [List.forall_mem_cons] at ownTwo
      rcases pair.symm.turn reachedOther.symm reached.symm besideOther beside ownTwo.1 with
          ⟨outcome, notices, same, unfelt⟩
      rcases ih reachedAlone (reachedOther.symm.call pair.symm ownTwo.1).symm
        (reached.symm.call pair.symm ownTwo.1).symm unfelt same ownOne ownTwo.2 with
          ⟨answers, later⟩
      refine ⟨?_, later⟩
      simp only [transcript, outcome, notices]
      exact .right _ answers

/-- What is left of iterators is told by what each of both sinks would have left of them alone. -/
theorem Pair.iterators_eq_of_beside
    (pair : start.Pair one two first second drawnOne drawnTwo usedOne usedTwo)
    {foreignOne foreignTwo : Text → Prop} {later : Workspace}
    (beside : alone.Beside second foreignTwo usedTwo actual)
    (besideOther : other.Beside first foreignOne usedOne actual)
    (again : alone.Beside second foreignTwo usedTwo later)
    (againOther : other.Beside first foreignOne usedOne later) :
    actual.iterators = later.iterators := by
  funext iterator
  by_cases used : usedOne iterator
  · have kept := pair.disjoint iterator used
    rw [beside.iterators iterator kept, again.iterators iterator kept]
  · rw [besideOther.iterators iterator used, againOther.iterators iterator used]

end Turns

/--
Two sinks that write to windows of one buffer without a common byte, with calls whose data and
sources do not come from the buffer, whose items are bytes, and that use up nothing that a call of
the other sink uses: in whatever order the calls are interleaved, each ends and reports as when all
calls of one sink come before those of the other, and both orders leave the same buffers, the same
of every object, the two cursors among them, and the same of every iterator.
-/
theorem interleaved_calls (start : Workspace) {one two : Text}
    {policyOne policyTwo : SurrogatePolicy} {scratchOne scratchTwo : Option Bytes}
    {first second : Region} (different : one ≠ two)
    (foundOne : start.session.object? one = some (.sink ⟨policyOne, scratchOne, .region first⟩))
    (foundTwo : start.session.object? two = some (.sink ⟨policyTwo, scratchTwo, .region second⟩))
    (placedOne : first.IsPlaced start.session.store)
    (placedTwo : second.IsPlaced start.session.store) (shared : first.buffer = second.buffer)
    (apart : ∀ index, first.start ≤ index → index < first.stop →
      ¬(second.start ≤ index ∧ index < second.stop))
    {calls others merged : List Step} (merge : Interleaves calls others merged)
    (ownOne : ∀ step ∈ calls, step.IsOn one ∧ step.IsNarrow ∧ step.Avoids start first.buffer)
    (ownTwo : ∀ step ∈ others, step.IsOn two ∧ step.IsNarrow ∧ step.Avoids start first.buffer)
    (sources : ∀ name, start.Draws calls name → ¬start.Draws others name)
    (iterators : ∀ iterator, Empties calls iterator → ¬Empties others iterator) :
    Interleaves (start.transcript calls) ((start.after calls).transcript others)
        (start.transcript merged) ∧
      (start.after merged).session.store = ((start.after calls).after others).session.store ∧
      (∀ name, (start.after merged).session.object? name
        = ((start.after calls).after others).session.object? name) ∧
      (start.after merged).iterators = ((start.after calls).after others).iterators := by
  have fillsOne : start.session.Fills one first := ⟨_, foundOne, rfl, placedOne⟩
  have fillsTwo : start.session.Fills two second := ⟨_, foundTwo, rfl, placedTwo⟩
  have pair : start.Pair one two first second (start.Draws calls) (start.Draws others)
      (Empties calls) (Empties others) :=
    ⟨⟨different, shared, fillsOne, fillsTwo, fun name draws => draws.2, fun name draws => draws.2,
      sources⟩, iterators⟩
  have isOne : ∀ step ∈ calls,
      step.IsCall start first.buffer one (start.Draws calls) (Empties calls) := by
    intro step mem
    rcases ownOne step mem with ⟨own, narrow, avoids⟩
    refine ⟨own, narrow, avoids, ?_, fun iterator exhausts => ⟨step, mem, exhausts⟩⟩
    rintro target source count origin rfl given
    exact ⟨⟨target, source, count, mem, rfl⟩, origin, given⟩
  have isTwo : ∀ step ∈ others,
      step.IsCall start second.buffer two (start.Draws others) (Empties others) := by
    intro step mem
    rcases ownTwo step mem with ⟨own, narrow, avoids⟩
    refine ⟨own, narrow, shared ▸ avoids, ?_, fun iterator exhausts => ⟨step, mem, exhausts⟩⟩
    rintro target source count origin rfl given
    exact ⟨⟨target, source, count, mem, rfl⟩, origin, given⟩
  have here : start.Reached one two first second start := ⟨⟨fillsOne, fillsTwo, fun _ => rfl⟩, rfl⟩
  rcases pair.interleaving merge here here here (.refl _ _ _ _) (.refl _ _ _ _) isOne isTwo with
      ⟨answers, -, beside, besideOther⟩
  -- one sink after the other is an interleaving too, in two parts
  rcases pair.interleaving (.nil_right calls) here here here (.refl _ _ _ _) (.refl _ _ _ _) isOne
    (by simp) with ⟨-, middle, besideMiddle, besideStart⟩
  rcases pair.interleaving (.nil_left others) middle here middle besideMiddle besideStart (by simp)
    isTwo with ⟨answersTwo, -, again, againOther⟩
  rw [answersTwo.eq_of_nil_left]
  rcases pair.session.eq_of_beside apart beside.session besideOther.session again.session
    againOther.session with ⟨store, objects⟩
  exact ⟨answers, store, objects,
    pair.iterators_eq_of_beside beside besideOther again againOther⟩

/-- Two sinks with windows next to each other, and what their calls may draw on. -/
def twoWindows (first second : Nat) (sources : List (Text × Object)) : Workspace where
  session :=
    { store := { buffers := [{ bytes := List.replicate (first + second) 0 }] }
      objects :=
        [(Text.ofString "one", .sink ⟨.replace, none, .region ⟨0, 0, first, 0⟩⟩),
          (Text.ofString "two",
            .sink ⟨.replace, none, .region ⟨0, first, first + second, first⟩⟩)] ++ sources }

/--
One sink copies from two sources over one stream and writes bytes that stand apart, the other one
writes a set from an iterator, and then what is left of it.
-/
theorem interleaved_calls_of_stream :
    let one := Text.ofString "one"
    let two := Text.ofString "two"
    let stream := Text.ofString "stream"
    let texts := Text.ofString "texts"
    let start : Workspace :=
      { twoWindows 5 10 [(stream, .source (.stream (.reader { data := .own [1, 2] })))] with
        iterators := fun _ => [.text (Text.ofString "a")]
        streams := fun name =>
          if name = Text.ofString "head" ∨ name = Text.ofString "tail" then stream else name }
    let calls : List Step :=
      [.call (.copy one (Text.ofString "head") 1), .call (.copy one (Text.ofString "tail") 1),
        .writeItems one View.everyOtherByte 0 none]
    let others : List Step := [.writeSet two texts, .writeSet two texts]
    let merged : List Step :=
      [.call (.copy one (Text.ofString "head") 1), .writeSet two texts, .writeSet two texts,
        .call (.copy one (Text.ofString "tail") 1), .writeItems one View.everyOtherByte 0 none]
    Interleaves (start.transcript calls) ((start.after calls).transcript others)
        (start.transcript merged) ∧
      (start.after merged).session.store = ((start.after calls).after others).session.store ∧
      ((start.after merged).session.store.buffer 0).bytes
        = [1, 2, 97, 99, 101, 0, 0, 0, 1, 1, 97, 0, 0, 0, 0] := by
  intro one two stream texts start calls others merged
  have different : one ≠ two := by decide
  have placedOne : Region.IsPlaced start.session.store ⟨0, 0, 5, 0⟩ :=
    ⟨by decide, by decide, by decide, by decide⟩
  have placedTwo : Region.IsPlaced start.session.store ⟨0, 5, 15, 5⟩ :=
    ⟨by decide, by decide, by decide, by decide⟩
  have merge : Interleaves calls others merged :=
    .left _ (.right _ (.right _ (.left _ (.left _ .nil))))
  have reader : (Source.stream (.reader { data := .own [1, 2] })).origin.Avoids
      (some (.buffer 0)) := Origin.avoids_own _ _
  have ownOne : ∀ step ∈ calls, step.IsOn one ∧ step.IsNarrow ∧ step.Avoids start 0 := by
    simp only [calls, List.forall_mem_cons]
    exact ⟨⟨rfl, trivial, avoids_copy rfl reader 1⟩, ⟨rfl, trivial, avoids_copy rfl reader 1⟩,
      ⟨rfl, rfl, trivial⟩, by simp⟩
  have ownTwo : ∀ step ∈ others, step.IsOn two ∧ step.IsNarrow ∧ step.Avoids start 0 := by
    simp [others, Step.IsOn, Step.IsNarrow, Step.Avoids]
  have sources : ∀ name, start.Draws calls name → ¬start.Draws others name := by
    rintro name - ⟨⟨_, _, _, mem, -⟩, -⟩
    simp [others] at mem
  have iterators : ∀ iterator, Empties calls iterator → ¬Empties others iterator := by
    rintro iterator ⟨step, mem, exhausts⟩
    simp only [calls, List.mem_cons, List.not_mem_nil, or_false] at mem
    rcases mem with rfl | rfl | rfl <;> exact exhausts.elim
  have apart : ∀ index, 0 ≤ index → index < 5 → ¬(5 ≤ index ∧ index < 15) := by omega
  have result := interleaved_calls start different rfl rfl placedOne placedTwo rfl apart merge
    ownOne ownTwo sources iterators
  refine ⟨result.1, result.2.1, ?_⟩
  decide +kernel

/--
Whether two calls of sinks next to each other, which are given nothing from their buffer, leave
other bytes in it if they are made the other way round.
-/
def OrderMatters (start : Workspace) (call other : Step) : Prop :=
  (call.IsOn (Text.ofString "one") ∧ call.Avoids start 0) ∧
    (other.IsOn (Text.ofString "two") ∧ other.Avoids start 0) ∧
    ((start.after [call, other]).session.store.buffer 0).bytes
      ≠ ((start.after [other, call]).session.store.buffer 0).bytes

/--
The order of two calls matters where they copy from one source, from two sources over one stream,
where they write sets from one iterator, and where one of them writes items of several bytes.
-/
theorem interleaved_calls_differ :
    let one := Text.ofString "one"
    let two := Text.ofString "two"
    let stream := Text.ofString "stream"
    let texts := Text.ofString "texts"
    (twoWindows 1 1 [(stream, .source (.memory (.own [1, 2]) 0))]).OrderMatters
        (.call (.copy one stream 1)) (.call (.copy two stream 1)) ∧
      { twoWindows 1 1 [(stream, .source (.stream (.reader { data := .own [1, 2] })))] with
          streams := fun _ => stream }.OrderMatters
        (.call (.copy one (Text.ofString "head") 1)) (.call (.copy two (Text.ofString "tail") 1)) ∧
      { twoWindows 6 6 [] with
          iterators := fun _ => [.text (Text.ofString "a")] }.OrderMatters
        (.writeSet one texts) (.writeSet two texts) ∧
      (twoWindows 5 5 []).OrderMatters
        (.writeItems one View.threeWords 0 none) (.call (.write two (.byte 7))) := by
  intro one two stream texts
  have memory : (Source.memory (.own [1, 2]) 0).origin.Avoids (some (.buffer 0)) :=
    Origin.avoids_own _ _
  have reader : (Source.stream (.reader { data := .own [1, 2] })).origin.Avoids
      (some (.buffer 0)) := Origin.avoids_own _ _
  refine ⟨?_, ?_, ?_, ?_⟩
  · exact ⟨⟨rfl, avoids_copy rfl memory 1⟩, ⟨rfl, avoids_copy rfl memory 1⟩, by decide +kernel⟩
  · exact ⟨⟨rfl, avoids_copy rfl reader 1⟩, ⟨rfl, avoids_copy rfl reader 1⟩, by decide +kernel⟩
  · exact ⟨⟨rfl, trivial⟩, ⟨rfl, trivial⟩, by decide +kernel⟩
  · exact ⟨⟨rfl, trivial⟩, ⟨rfl, trivial⟩, by decide +kernel⟩

end Workspace

end IndexWire
