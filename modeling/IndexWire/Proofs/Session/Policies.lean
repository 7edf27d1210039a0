import IndexWire.Proofs.Session.Turns
import IndexWire.Proofs.Text.Strictness

/-!
# Policies of sinks

The policy of a sink is felt only by texts that hold surrogates. A change of policies may therefore
be made before the calls of a session or after them: every call ends alike, and leaves sessions that
are the same apart from the change, as long as the sinks whose policies are changed are given no
surrogates. What the strict policy refuses is told by the texts themselves.

A change gives each sink a policy by its name and by the policy that it has. Each call commutes with
a change that it `Suits`; the calls of a session follow by induction.
-/

namespace IndexWire

/-- Whether a value is no text with surrogates. -/
def Value.IsClean (value : Value) : Prop := ∀ content, value = .text content → content.IsClean

/-- Whether no text that is to be written holds a surrogate. -/
def Request.IsClean : Request → Prop
  | .string value => value.IsClean
  | .stringMap entries => ∀ entry ∈ entries, entry.1.IsClean ∧ entry.2.IsClean
  | .stringSet value => ∀ elements, value.elements? = some elements →
      ∀ element ∈ elements, element.IsClean
  | _ => True

namespace Plan

theorem string_of_isClean {value : Value} (clean : value.IsClean) (policy : SurrogatePolicy) :
    string policy value = string .replace value := by
  cases value with
  | text content => exact text_of_clean fun _ => clean content rfl
  | _ => rfl

theorem counted_of_isClean (count : Nat) {texts : List Value}
    (clean : ∀ value ∈ texts, value.IsClean) (policy : SurrogatePolicy) :
    counted policy count texts = counted .replace count texts := by
  have same : texts.map (string policy) = texts.map (string .replace) :=
    List.map_congr_left fun value mem => string_of_isClean (clean value mem) policy
  rw [counted, counted, same]

end Plan

/-- Without surrogates the policy has no part in what is written. -/
theorem Request.plan_of_isClean {request : Request} (clean : request.IsClean)
    (policy : SurrogatePolicy) : request.plan policy = request.plan .replace := by
  cases request with
  | string value => exact Plan.string_of_isClean clean policy
  | stringMap entries =>
      have parts : ∀ value ∈ entries.flatMap fun entry => [entry.1, entry.2], value.IsClean := by
        rw [List.forall_mem_flatMap]
        intro entry mem
        simpa using clean entry mem
      simp only [plan, Plan.stringMap, Plan.counted_of_isClean _ parts policy]
  | stringSet value =>
      simp only [plan, Plan.stringSet]
      split
      · rfl
      · rename_i elements listed
        simp only [Plan.counted_of_isClean _ (clean elements listed) policy]
  | _ => rfl

/-! ## A change of policies -/

/-- The sink with a policy that is made of its own. -/
def Sink.under (change : SurrogatePolicy → SurrogatePolicy) (sink : Sink) : Sink :=
  { sink with policy := change sink.policy }

def Transfer.under (change : SurrogatePolicy → SurrogatePolicy) (transfer : Transfer) : Transfer :=
  { transfer with sink := transfer.sink.under change }

def Object.under (change : SurrogatePolicy → SurrogatePolicy) : Object → Object
  | sink target => sink (target.under change)
  | other => other

section Sinks

variable (change : SurrogatePolicy → SurrogatePolicy)

theorem Sink.write_under {sink : Sink} {request : Request}
    (same : request.plan (change sink.policy) = request.plan sink.policy) (store : Store) :
    (sink.under change).write store request
      = (sink.write store request).map fun state => (state.1, state.2.under change) := by
  simp only [write, carryOut, under, same, Attempt.map]

namespace Transfer

theorem load_under (transfer : Transfer) (count : Nat) :
    (transfer.under change).load count = (transfer.load count).map (under change) := rfl

theorem unload_under (transfer : Transfer) (count : Nat) :
    (transfer.under change).unload count = (transfer.unload count).map (under change) := rfl

theorem moveBlocks_under (transfer : Transfer) (left : Nat) :
    (transfer.under change).moveBlocks left = (transfer.moveBlocks left).map (under change) := by
  fun_induction moveBlocks transfer left with
  | case1 transfer left unfinished count loaded fault failed =>
      have moved := load_under change transfer count
      exact (moveBlocks_of_load_fault unfinished (by rw [moved]; exact failed)).trans moved
  | case2 transfer left unfinished count loaded accepted unloaded fault failed =>
      have moved := load_under change transfer count
      have written := unload_under change loaded.state count
      rw [moveBlocks_of_unload_fault unfinished (by rw [moved]; exact accepted)
        (by rw [moved]; exact (congrArg Attempt.fault written).trans failed), moved]
      exact written
  | case3 transfer left unfinished count loaded accepted unloaded success ih =>
      have moved := load_under change transfer count
      have written := unload_under change loaded.state count
      rw [moveBlocks_of_unload unfinished (by rw [moved]; exact accepted)
        (by rw [moved]; exact (congrArg Attempt.fault written).trans success), moved]
      exact ih
  | case4 transfer left finished =>
      rw [moveBlocks, dif_neg finished]
      rfl

theorem copy_under (transfer : Transfer) (count : Int) :
    (transfer.under change).copy count = (transfer.copy count).map (under change) := by
  unfold copy
  split
  · rfl
  · have moved := moveBlocks_under change { transfer with sink := transfer.sink.withScratch }
      count.toNat
    change Transfer.moveBlocks { transfer.under change with
      sink := (transfer.under change).sink.withScratch } count.toNat = _ at moved
    simp only [moved, Attempt.map]
    split <;> rfl

end Transfer

end Sinks

theorem Object.kindName_under (change : SurrogatePolicy → SurrogatePolicy) (object : Object) :
    (object.under change).kindName = object.kindName := by
  cases object with
  | sink sink =>
      obtain ⟨policy, scratch, destination⟩ := sink
      cases destination <;> rfl
  | _ => rfl

theorem Object.methods_under (change : SurrogatePolicy → SurrogatePolicy) (object : Object) :
    (object.under change).methods = object.methods := by
  cases object with
  | sink sink =>
      obtain ⟨policy, scratch, destination⟩ := sink
      cases destination <;> rfl
  | _ => rfl

theorem Object.under_id (object : Object) : object.under id = object := by
  cases object <;> rfl

namespace Session

/-- The session with policies of its sinks that are made of the names and the policies before. -/
def under (change : Text → SurrogatePolicy → SurrogatePolicy) (session : Session) : Session :=
  { session with
    objects := session.objects.map fun entry => (entry.1, entry.2.under (change entry.1)) }

def Answer.under (change : Text → SurrogatePolicy → SurrogatePolicy) (answer : Answer) : Answer :=
  { answer with session := answer.session.under change }

section Under

variable (change : Text → SurrogatePolicy → SurrogatePolicy) (session : Session)

theorem store_under : (session.under change).store = session.store := by
  cases session
  rfl

theorem withStore_under (store : Store) :
    { session.under change with store } = under change { session with store } := rfl

theorem object?_under (name : Text) :
    (session.under change).object? name
      = (session.object? name).map (Object.under (change name)) := by
  simp only [object?, under, List.find?_map, Function.comp_def, Option.map_map]
  cases found : session.objects.find? fun entry => entry.1 = name with
  | none => rfl
  | some entry =>
      have named : entry.1 = name := by simpa using List.find?_some found
      simp only [Option.map_some, named]

theorem setObject_under (name : Text) (object : Object) :
    (session.under change).setObject name (object.under (change name))
      = (session.setObject name object).under change := by
  have held : ((session.objects.map fun entry => (entry.1, entry.2.under (change entry.1))).any
      fun entry => entry.1 = name) = session.objects.any fun entry => entry.1 = name := by
    rw [List.any_map]
    rfl
  simp only [setObject, under, putEntry, held]
  split
  · simp only [List.map_map]
    congr 1
    apply List.map_congr_left
    intro entry mem
    by_cases named : entry.1 = name
    · simp [named]
    · simp [named]
  · simp only [List.map_append, List.map_cons, List.map_nil]

theorem setSink_under (name : Text) (sink : Sink) :
    (session.under change).setObject name (.sink (sink.under (change name)))
      = (session.setObject name (.sink sink)).under change :=
  setObject_under change session name (.sink sink)

theorem setOther_under (name : Text) {object : Object}
    (other : object.under (change name) = object) :
    (session.under change).setObject name object
      = (session.setObject name object).under change := by
  have placed := setObject_under change session name object
  rwa [other] at placed

theorem drop_under (name : Text) :
    (session.under change).drop name = (session.drop name).under change := by
  have entries : (session.under change).objects.filter (fun entry => entry.1 ≠ name)
      = (session.objects.filter fun entry => entry.1 ≠ name).map
          fun entry => (entry.1, entry.2.under (change entry.1)) := by
    rw [under, List.filter_map]
    rfl
  simp only [drop, entries, object?_under]
  rcases session.object? name with _ | id | sink | source <;> rfl

theorem buffer?_under (name : Text) :
    (session.under change).buffer? name = session.buffer? name := by
  simp only [buffer?, object?_under]
  rcases session.object? name with _ | id | sink | source <;> rfl

theorem content?_under (data : Data) :
    (session.under change).content? data = session.content? data := by
  cases data <;> simp only [content?, buffer?_under]

theorem withoutBytes_under (data : Data) (fault : String → Fault) :
    (session.under change).withoutBytes data fault = session.withoutBytes data fault := by
  have named (name : Text) (fault : String → Fault) :
      (((session.under change).object? name).elim .noObject fun object =>
          Outcome.failed (fault object.kindName))
        = (session.object? name).elim .noObject fun object => .failed (fault object.kindName) := by
    rw [object?_under]
    cases session.object? name with
    | none => rfl
    | some object => simp only [Option.map_some, Option.elim_some, Object.kindName_under]
  cases data with
  | own bytes => rfl
  | shared name => exact named name fault
  | view name => exact named name .noBytes

theorem lacking_under (name : Text) (method : String) :
    (session.under change).lacking name method = (session.lacking name method).under change := by
  simp only [lacking, object?_under]
  cases session.object? name with
  | none => rfl
  | some object =>
      simp only [Option.map_some, Object.kindName_under]
      rfl

theorem refused_under (name : Text) (method : String) (outcome : Outcome) :
    (session.under change).refused name method outcome
      = (session.refused name method outcome).under change := by
  have same : ((session.under change).object? name).any
        (fun object => object.methods.contains method)
      = (session.object? name).any fun object => object.methods.contains method := by
    rw [object?_under]
    cases session.object? name with
    | none => rfl
    | some object => simp only [Option.map_some, Option.any_some, Object.methods_under]
  simp only [refused, same, lacking_under]
  split <;> rfl

/-! ### Calls -/

theorem write_under {name : Text} {request : Request}
    (suits : request.IsClean ∨ change name = id) :
    (session.under change).write name request = (session.write name request).under change := by
  have same : ∀ policy, request.plan (change name policy) = request.plan policy := by
    intro policy
    rcases suits with clean | kept
    · rw [request.plan_of_isClean clean, request.plan_of_isClean clean policy]
    · rw [kept, id]
  have lacking := lacking_under change session name request.method
  simp only [write, object?_under, store_under]
  rcases session.object? name with _ | id | sink | source
  · exact lacking
  · exact lacking
  · simp only [Option.map_some, Object.under, Sink.write_under _ (same sink.policy), Attempt.map,
      withStore_under, setSink_under]
    rfl
  · exact lacking

theorem writeBytes_under (name : Text) (data : Data) (offset : Int) (length : Option Int) :
    (session.under change).writeBytes name data offset length
      = (session.writeBytes name data offset length).under change := by
  simp only [writeBytes, content?_under, withoutBytes_under, refused_under, store_under,
    withStore_under]
  split
  · rfl
  · exact write_under change session (.inl trivial)
  · rename_i id given
    have written := fun bytes =>
      @write_under change { session with store := session.store.pin id } name
        (.bytes bytes offset length) (.inl trivial)
    simp only [written]
    rfl

theorem copyFrom_under (name : Text) (sink : Sink) (source : Text) (origin : Source)
    (count : Int) :
    (session.under change).copyFrom name (sink.under (change name)) source origin count
      = (session.copyFrom name sink source origin count).under change := by
  have copied := Transfer.copy_under (change name) ⟨session.store, sink, origin⟩ count
  simp only [Transfer.under] at copied
  simp only [copyFrom, store_under, copied, Attempt.map, Transfer.under, withStore_under,
    setSink_under]
  rw [setOther_under _ _ _ rfl]
  rfl

theorem copyFromOther_under (name : Text) (sink : Sink) {other also : Object}
    (kind : also.kindName = other.kindName) (count : Int) :
    (session.under change).copyFromOther name (sink.under (change name)) also count
      = (session.copyFromOther name sink other count).under change := by
  have copied := Transfer.copy_under (change name) ⟨session.store, sink, .memory (.own []) 0⟩
    (min count 0)
  simp only [Transfer.under] at copied
  simp only [copyFromOther, store_under, copied, Attempt.map, Transfer.under, kind, setSink_under]
  split <;> rfl

theorem copy_under (name source : Text) (count : Int) :
    (session.under change).copy name source count
      = (session.copy name source count).under change := by
  have lacking := lacking_under change session name "copy_bytes"
  have kind := Object.kindName_under (change source)
  simp only [copy, object?_under]
  rcases session.object? name with _ | id | sink | origin
  · exact lacking
  · exact lacking
  · rcases session.object? source with _ | id | other | origin
    · rfl
    · exact copyFromOther_under change session name sink (kind (.buffer id)) count
    · exact copyFromOther_under change session name sink (kind (.sink other)) count
    · exact copyFrom_under change session name sink source origin count
  · exact lacking

theorem reset_under (name : Text) (offset : Option (Option Int)) :
    (session.under change).reset name offset = (session.reset name offset).under change := by
  have lacking := lacking_under change session name "reset"
  simp only [reset, object?_under]
  rcases session.object? name with _ | id | sink | source
  · exact lacking
  · exact lacking
  · obtain ⟨policy, scratch, destination⟩ := sink
    have placed := fun destination => setSink_under change session name
      ⟨policy, scratch, destination⟩
    simp only [Sink.under] at placed
    simp only [Option.map_some, Object.under, Sink.under, placed]
    cases destination with
    | memory memory => cases offset <;> rfl
    | region region =>
        simp only
        split <;> rfl
    | _ => exact lacking
  · exact lacking

theorem onStream_under (name : Text) (method : String)
    (call : Stream → Store → Attempt (Store × Stream)) :
    (session.under change).onStream name method call
      = (session.onStream name method call).under change := by
  have lacking := lacking_under change session name method
  simp only [onStream, object?_under, store_under]
  rcases session.object? name with _ | id | sink | source
  · exact lacking
  · exact lacking
  · obtain ⟨policy, scratch, destination⟩ := sink
    cases destination with
    | stream stream =>
        have placed := fun store destination => setSink_under change { session with store } name
          ⟨policy, scratch, destination⟩
        simp only [Sink.under] at placed
        simp only [Option.map_some, Object.under, Sink.under, withStore_under, placed]
        rfl
    | _ => exact lacking
  · exact lacking

theorem readByte_under (name : Text) :
    (session.under change).readByte name = (session.readByte name).under change := by
  have lacking := lacking_under change session name "read_byte"
  simp only [readByte, object?_under, store_under]
  rcases session.object? name with _ | id | sink | source
  · exact lacking
  · exact lacking
  · exact lacking
  · cases source with
    | stream input => exact lacking
    | memory content position =>
        simp only [Option.map_some, Object.under]
        split
        · rw [setOther_under _ _ _ rfl]
          rfl
        · rfl

theorem readBytes_under (name buffer : Text) (offset length : Int) :
    (session.under change).readBytes name buffer offset length
      = (session.readBytes name buffer offset length).under change := by
  have lacking := lacking_under change session name "read_bytes"
  have kind := Object.kindName_under (change buffer)
  simp only [readBytes, object?_under, store_under]
  rcases session.object? name with _ | id | sink | source
  · exact lacking
  · exact lacking
  · exact lacking
  · rcases session.object? buffer with _ | id | sink | other
    · rfl
    · simp only [Option.map_some, Object.under, withStore_under]
      rw [setOther_under _ _ _ rfl]
      rfl
    · have same := kind (.sink sink)
      simp only [Object.under] at same
      cases source <;> simp only [Option.map_some, Object.under, readFault, same] <;> rfl
    · cases source <;> rfl

/-! ### New objects -/

theorem setSource_under (name : Text) (source : Source) :
    (session.under change).setSource name source
      = (session.setSource name source).under change := by
  simp only [setSource, store_under, withStore_under]
  exact setOther_under change _ name rfl

theorem destination?_under (target : Target) :
    (session.under change).destination? target = session.destination? target := by
  cases target with
  | region name offset length =>
      simp only [destination?, object?_under, store_under]
      rcases session.object? name with _ | id | sink | source
      · rfl
      · rfl
      · have kind := Object.kindName_under (change name) (.sink sink)
        simp only [Object.under] at kind
        cases offset <;> cases length <;> simp only [Option.map_some, Object.under, kind]
      · rfl
  | _ => rfl

theorem newBuffer_under (name : Text) (data : Data) :
    (session.under change).step (.newBuffer name data)
      = (session.step (.newBuffer name data)).under change := by
  simp only [step, drop_under, bytes?, content?_under, withoutBytes_under, store_under]
  split
  · rfl
  · rw [withStore_under, setOther_under _ _ _ rfl]
    rfl

/-- A new sink has a policy of its own, and so the change must leave it alone. -/
theorem newSink_under {name : Text} (kept : change name = id) (policy : Option Value)
    (target : Target) :
    (session.under change).newSink name policy target
      = (session.newSink name policy target).under change := by
  have chosen : ((session.drop name).under change).choosePolicy policy
      = (((session.drop name).choosePolicy policy).1.under change,
          ((session.drop name).choosePolicy policy).2) := by
    cases policy <;> rfl
  have own : ∀ object : Object, object.under (change name) = object := by
    intro object
    rw [kept, Object.under_id]
  simp only [newSink, drop_under, destination?_under, chosen, setOther_under _ _ _ (own _)]
  split
  · rfl
  · split <;> rfl

theorem newMemorySource_under (name : Text) (data : Data) (offset : Option Int) :
    (session.under change).newMemorySource name data offset
      = (session.newMemorySource name data offset).under change := by
  simp only [newMemorySource, drop_under, content?_under, withoutBytes_under, store_under,
    setSource_under]
  split
  · rfl
  · rfl
  · split <;> rfl

theorem newStreamSource_under (name : Text) (data : Data) (reader : Reader) :
    (session.under change).newStreamSource name data reader
      = (session.newStreamSource name data reader).under change := by
  simp only [newStreamSource, drop_under, content?_under, setSource_under]
  split <;> rfl

/-! ### Steps -/

/-- Whether a call does the same to sinks whose policies are changed. -/
def Step.Suits (change : Text → SurrogatePolicy → SurrogatePolicy) : Step → Prop
  | .write name request => request.IsClean ∨ change name = id
  | .newSink name _ _ => change name = id
  | _ => True

theorem step_under {step : Step} (suits : step.Suits change) :
    (session.under change).step step = (session.step step).under change := by
  have around : step.isAround = true →
      (session.under change).step step = (session.step step).under change := by
    intro around
    have objects : (session.step step).session.objects = session.objects :=
      congrArg (fun answer => answer.session.objects) (step_around around session session.objects)
    refine (step_around around session _).trans ?_
    simp only [Answer.under, under, objects]
  cases step with
  | newBuffer name data => exact newBuffer_under change session name data
  | newSink name policy target => exact newSink_under change session suits policy target
  | newMemorySource name data offset => exact newMemorySource_under change session name data offset
  | newStreamSource name data reader => exact newStreamSource_under change session name data reader
  | write name request => exact write_under change session suits
  | writeBytes name data offset length =>
      exact writeBytes_under change session name data offset length
  | copy name source count => exact copy_under change session name source count
  | reset name offset => exact reset_under change session name offset
  | flush name => exact onStream_under change session name "flush" Stream.flush
  | close name => exact onStream_under change session name "close" Stream.close
  | enter name =>
      simp only [Session.step, onStream_under]
      rcases session.onStream name "__enter__" _ with ⟨after, outcome, notices⟩
      cases outcome <;> rfl
  | leave name => exact onStream_under change session name "__exit__" Stream.close
  | readByte name => exact readByte_under change session name
  | readBytes name buffer offset length =>
      exact readBytes_under change session name buffer offset length
  | _ => exact around rfl

/-- So do the calls of a session: they end alike, and the change may be made after them. -/
theorem after_under {steps : List Step} (suit : ∀ step ∈ steps, step.Suits change) :
    (session.under change).after steps = (session.after steps).under change ∧
      (session.under change).transcript steps = session.transcript steps := by
  induction steps generalizing session with
  | nil => exact ⟨rfl, rfl⟩
  | cons step rest ih =>
      rw [List.forall_mem_cons] at suit
      have first := step_under change session suit.1
      have later := ih (session.step step).session suit.2
      simp only [after, List.foldl_cons, transcript, first]
      exact ⟨later.1, congrArg _ later.2⟩

end Under

/-- The session in which the sink of a name has another policy, and nothing else is changed. -/
def withPolicy (name : Text) (policy : SurrogatePolicy) (session : Session) : Session :=
  session.under fun other given => if other = name then policy else given

/-- Whether a call writes no surrogates to the sink of a name, and makes no other sink of it. -/
def Step.IsCleanFor (name : Text) : Step → Prop
  | .write other request => other = name → request.IsClean
  | .newSink other _ _ => other ≠ name
  | _ => True

theorem Step.IsCleanFor.suits {name : Text} {step : Step} (clean : step.IsCleanFor name)
    (policy : SurrogatePolicy) :
    step.Suits fun other given => if other = name then policy else given := by
  have others : ∀ other, other ≠ name →
      (fun given => if other = name then policy else given) = id := by
    intro other different
    funext given
    exact if_neg different
  cases step with
  | write other request =>
      by_cases own : other = name
      · exact .inl (clean own)
      · exact .inr (others other own)
  | newSink other given target => exact others other clean
  | _ => exact trivial

theorem withPolicy_drop (session : Session) (name : Text) (policy : SurrogatePolicy) :
    (session.drop name).withPolicy name policy = session.drop name := by
  have same : (session.drop name).objects.map (fun entry =>
        (entry.1, entry.2.under fun given => if entry.1 = name then policy else given))
      = (session.drop name).objects := by
    conv_rhs => rw [← List.map_id (session.drop name).objects]
    apply List.map_congr_left
    intro entry mem
    have other : entry.1 ≠ name := by simpa [drop] using (List.mem_filter.mp mem).2
    simp only [if_neg other]
    exact congrArg (Prod.mk entry.1) entry.2.under_id
  rw [withPolicy, under, same]

/-- A sink that is made with the strict policy is one that is made with the other, and changed. -/
theorem newSink_strict (start : Session) (name : Text) (target : Target) :
    let strict := start.step (.newSink name (some (.text SurrogatePolicy.strict.name)) target)
    let replaced := start.step (.newSink name (some (.text SurrogatePolicy.replace.name)) target)
    (strict.outcome = .policy .strict ∧ replaced.outcome = .policy .replace ∨
        strict.outcome = replaced.outcome) ∧
      strict.notices = replaced.notices ∧
      strict.session = replaced.session.withPolicy name .strict := by
  have dropped := withPolicy_drop start name .strict
  simp only [step, newSink, choosePolicy, ofValue_name]
  split
  · exact ⟨.inr rfl, rfl, dropped.symm⟩
  · rename_i built found
    cases built with
    | error fault => exact ⟨.inr rfl, rfl, dropped.symm⟩
    | ok destination =>
        refine ⟨.inl ⟨rfl, rfl⟩, rfl, ?_⟩
        have placed := setObject_under (fun other given => if other = name then .strict else given)
          (start.drop name) name (.sink { policy := .replace, destination })
        change ((start.drop name).withPolicy name .strict).setObject name _ = _ at placed
        rw [dropped] at placed
        simp only [Object.under, Sink.under, if_true] at placed
        exact placed

end Session

/-- Requests without surrogates are written alike by sinks that differ in their policies. -/
theorem Sink.writeAll_strict_of_isClean {requests : List Request}
    (clean : ∀ request ∈ requests, request.IsClean) (store : Store) (scratch : Option Bytes)
    (destination : Destination) :
    writeAll store ⟨.strict, scratch, destination⟩ requests
      = ((writeAll store ⟨.replace, scratch, destination⟩ requests).1,
          { (writeAll store ⟨.replace, scratch, destination⟩ requests).2.1 with policy := .strict },
          (writeAll store ⟨.replace, scratch, destination⟩ requests).2.2) := by
  induction requests generalizing store scratch destination with
  | nil => rfl
  | cons request rest ih =>
      rw [List.forall_mem_cons] at clean
      simp only [writeAll, write, carryOut, request.plan_of_isClean clean.1 .strict, ih clean.2]

namespace Session

/--
The strict policy is the other one, restricted to texts without surrogates. A text with surrogates
is refused, with a fault that tells where the first run of them begins and ends, or which surrogate
stands there if it is only one; every other text has the same bytes under both policies. Sinks that
are made alike but for the policy therefore have the same bytes and outcomes, as long as they are
asked to write no surrogates, and so do all other objects.
-/
theorem strict_restricts_replace :
    (∀ text : Text,
      ((∃ fault, encodeText .strict text = .error fault) ↔
        ∃ point ∈ text, point.isSurrogate = true) ∧
      ((∃ point ∈ text, point.isSurrogate = true) → ∃ start last, text.FirstRun start last) ∧
      (∀ start last, text.FirstRun start last →
        ∃ fault, encodeText .strict text = .error fault ∧
          fault = .unencodable ⟨start, (text.drop start).take (last + 1 - start)⟩ ∧
          (start < last → fault.message
            = Text.ofString "'utf-8' codec can't encode characters in position "
              ++ Text.ofNat start ++ Text.ofString "-" ++ Text.ofNat last
              ++ Text.ofString ": surrogates not allowed") ∧
          (start = last → ∃ point, text[start]? = some point ∧ fault.message
            = Text.ofString "'utf-8' codec can't encode character '\\u"
              ++ Text.ofHex 4 point.value ++ Text.ofString "' in position " ++ Text.ofNat start
              ++ Text.ofString ": surrogates not allowed")) ∧
      ((∀ point ∈ text, point.isSurrogate = false) →
        ∃ data, encodeText .strict text = .ok data ∧ encodeText .replace text = .ok data)) ∧
    (∀ (store : Store) (scratch : Option Bytes) (destination : Destination)
        (requests : List Request), (∀ request ∈ requests, request.IsClean) →
      let strict := Sink.writeAll store ⟨.strict, scratch, destination⟩ requests
      let replaced := Sink.writeAll store ⟨.replace, scratch, destination⟩ requests
      strict = (replaced.1, { replaced.2.1 with policy := .strict }, replaced.2.2)) ∧
    ∀ (start : Session) (name : Text) (target : Target) (steps : List Step),
      (∀ step ∈ steps, step.IsCleanFor name) →
      let strict := start.step (.newSink name (some (.text SurrogatePolicy.strict.name)) target)
      let replaced := start.step (.newSink name (some (.text SurrogatePolicy.replace.name)) target)
      (strict.outcome = .policy .strict ∧ replaced.outcome = .policy .replace ∨
          strict.outcome = replaced.outcome) ∧
        strict.session.transcript steps = replaced.session.transcript steps ∧
        strict.session.after steps = (replaced.session.after steps).withPolicy name .strict := by
  refine ⟨?_, ?_, ?_⟩
  · intro text
    refine ⟨text.exists_error_strict_iff, ?_, ?_, encodeText_strict_of_isClean⟩
    · intro some
      exact Text.exists_firstRun_of_not_isClean (text.not_isClean_iff.mpr some)
    · intro start last first
      exact ⟨_, first.encodeText_strict, rfl, first.message_of_lt, first.message_of_eq⟩
  · intro store scratch destination requests clean
    exact Sink.writeAll_strict_of_isClean clean store scratch destination
  · intro start name target steps clean strict replaced
    rcases newSink_strict start name target with ⟨outcome, -, made⟩
    have suit := fun step mem => (clean step mem).suits .strict
    rcases after_under _ replaced.session suit with ⟨after, same⟩
    refine ⟨outcome, ?_, ?_⟩
    · rw [show strict.session = _ from made]
      exact same
    · rw [show strict.session = _ from made]
      exact after

/-- A pair of surrogates at the start, one at the end, and a sink that is given none. -/
theorem strict_restricts_replace_pair :
    let pair : Text := [.ofNat 0xD83D, .ofNat 0xDE00, .ofNat 97]
    let last : Text := [.ofNat 97, .ofNat 0x1F600, .ofNat 0xDE00]
    let sink := Text.ofString "sink"
    let steps : List Step := [.write sink (.string (.text [.ofNat 0x1F600]))]
    let made (policy : SurrogatePolicy) : Session :=
      (({} : Session).step (.newSink sink (some (.text policy.name)) .memory)).session
    (∃ fault, encodeText .strict pair = .error fault ∧ fault.message = Text.ofString
        "'utf-8' codec can't encode characters in position 0-1: surrogates not allowed") ∧
      (∃ fault, encodeText .strict last = .error fault ∧ fault.message = Text.ofString
        "'utf-8' codec can't encode character '\\ude00' in position 2: surrogates not allowed") ∧
      ((made .strict).after steps).value? sink = some [4, 0xF0, 0x9F, 0x98, 0x80] := by
  intro pair last sink steps made
  have atStart : pair.FirstRun 0 1 := @Text.firstRun_append [] [.ofNat 0xD83D, .ofNat 0xDE00]
    [.ofNat 97] (by simp [Text.IsClean]) (by simp) (by unfold Text.IsRun; decide) rfl
  have atEnd : last.FirstRun 2 2 := @Text.firstRun_append [.ofNat 97, .ofNat 0x1F600]
    [.ofNat 0xDE00] [] (by unfold Text.IsClean; decide) (by simp) (by unfold Text.IsRun; decide)
    trivial
  have clean : ∀ step ∈ steps, step.IsCleanFor sink := by
    simp only [steps, List.forall_mem_singleton, Step.IsCleanFor]
    rintro - content same
    cases same
    unfold Text.IsClean
    decide
  rcases (strict_restricts_replace.1 pair).2.2.1 0 1 atStart with ⟨one, refused, -, message, -⟩
  rcases (strict_restricts_replace.1 last).2.2.1 2 2 atEnd with ⟨two, also, -, -, single⟩
  rcases single rfl with ⟨point, there, wording⟩
  cases there
  refine ⟨⟨one, refused, (message (by decide)).trans (by decide +kernel)⟩,
    ⟨two, also, wording.trans (by decide +kernel)⟩, ?_⟩
  have after := (strict_restricts_replace.2.2 {} sink .memory steps clean).2.2
  rw [show (made .strict).after steps = _ from after]
  decide +kernel

end Session

end IndexWire
