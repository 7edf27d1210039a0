import IndexWire.Session.Basic
import IndexWire.Sink.View

/-!
# Workspaces

What calls of a session may have in common beside named objects. An iterator gives each of its
elements once: the set of what it still has is empty once that has been written. A source over a
stream has no bytes and no position of its own, so that several sources over one stream each go on
where the last of them has stopped. Views may have items of any size.
-/

namespace IndexWire

/-- A session with iterators, and with sources that have their streams in common. -/
structure Workspace where
  session : Session
  /-- The elements that each iterator has still to give. -/
  iterators : Text → List Value := fun _ => []
  /-- The name of what each source reads: its own one, or that of the stream under it. -/
  streams : Text → Text := id

/-- Writes a range of the items of a view to the sink of a name. -/
def Session.writeItems (session : Session) (name : Text) (view : View) (offset : Int)
    (length : Option Int) : Answer :=
  match session.object? name with
  | some (.sink sink) =>
    let attempt := sink.writeItems session.store view offset length
    let (store, sink) := attempt.state
    ⟨{ session with store }.setObject name (.sink sink), outcomeOf attempt.fault, attempt.notices⟩
  | _ => session.lacking name "write_bytes"

/-- A step in which sources are called by what they read. -/
def Session.Step.over (streams : Text → Text) : Session.Step → Session.Step
  | .copy name source count => .copy name (streams source) count
  | .readByte name => .readByte (streams name)
  | .readBytes name buffer offset length => .readBytes (streams name) buffer offset length
  | step => step

namespace Workspace

inductive Step where
  | call (step : Session.Step)
  /-- Writes the set of all elements that an iterator still has. -/
  | writeSet (name iterator : Text)
  | writeItems (name : Text) (view : View) (offset : Int) (length : Option Int)

/-- What a step makes of the session, how it ends, and what it reports. -/
def answer (workspace : Workspace) : Step → Session.Answer
  | .call step => workspace.session.step (step.over workspace.streams)
  | .writeSet name iterator =>
    workspace.session.write name (.stringSet (.list (workspace.iterators iterator)))
  | .writeItems name view offset length => workspace.session.writeItems name view offset length

/--
What an iterator has still to give after a step. A sink takes all elements at once, even if it
refuses some of them then.
-/
def remaining (workspace : Workspace) (step : Step) (iterator : Text) : List Value :=
  match step with
  | .writeSet name own =>
    match workspace.session.object? name with
    | some (.sink _) => if iterator = own then [] else workspace.iterators iterator
    | _ => workspace.iterators iterator
  | _ => workspace.iterators iterator

/-- The workspace after a step. -/
def next (workspace : Workspace) (step : Step) : Workspace :=
  { workspace with
    session := (workspace.answer step).session, iterators := workspace.remaining step }

end Workspace

end IndexWire
