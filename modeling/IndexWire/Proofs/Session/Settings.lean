import IndexWire.Proofs.Session.Surroundings

/-!
# The settings of a session

What a session makes of its settings over any sequence of steps. Settings that are there stay until
they are reset or assigned; where there are none, the next step that asks for them loads them from
the environment and the files as they are then, and a load that fails leaves none. A sink that is
given its policy asks for nothing. The policy of a sink never changes, and so nothing that happens
to the settings changes what the sink writes.

What the calls of objects leave alone is said once, by `Leaves`, for the settings and the policies
together.
-/

namespace IndexWire

namespace Transfer

theorem policy_moveBlocks (transfer : Transfer) (left : Nat) :
    (transfer.moveBlocks left).state.sink.policy = transfer.sink.policy := by
  fun_induction Transfer.moveBlocks transfer left with
  | case1 transfer left unfinished count loaded => rfl
  | case2 transfer left unfinished count loaded accepted => rfl
  | case3 transfer left unfinished count loaded accepted =>
      rename_i unloaded success ih
      exact ih
  | case4 transfer left finished => rfl

/-- A copy leaves the policy of the sink as it is. -/
theorem policy_copy (transfer : Transfer) (count : Int) :
    (transfer.copy count).state.sink.policy = transfer.sink.policy := by
  by_cases negative : count < 0
  · rw [copy, if_pos negative]
    rfl
  · rw [(copy_of_nonneg transfer (Int.not_lt.mp negative)).1]
    exact policy_moveBlocks _ _

end Transfer

/-- The policy of a sink; other objects have none. -/
def Object.policy? : Object → Option SurrogatePolicy
  | sink target => some target.policy
  | _ => none

namespace Session

/-- The policy of the sink of a name. -/
def policyOf? (session : Session) (name : Text) : Option SurrogatePolicy :=
  (session.object? name).bind Object.policy?

/-- Whether a step makes a new object of a name. -/
def Step.Makes (name : Text) : Step → Prop
  | .newBuffer made _ | .newSink made _ _ | .newMemorySource made _ _
  | .newStreamSource made _ _ => made = name
  | _ => False

/-- Whether a step gives up the settings or changes one of them. -/
def Step.Unsettles : Step → Prop
  | .resetSettings | .assignSetting _ _ => True
  | _ => False

/-- The path of the document in a step that asks for the settings of the session. -/
def asks? (session : Session) : Step → Option (Option Path)
  | .getSettings path => some path
  | .assignSetting _ _ => some none
  | .newSink name none target => ((session.drop name).destination? target).map fun _ => none
  | _ => none

/-- A session in which the settings and the policies of the sinks are as before. -/
structure Leaves (changed : Text → Prop) (before after : Session) : Prop where
  settings : after.settings = before.settings
  policies : ∀ name, ¬changed name → after.policyOf? name = before.policyOf? name

theorem Leaves.refl (changed : Text → Prop) (session : Session) :
    Leaves changed session session :=
  ⟨rfl, fun _ _ => rfl⟩

theorem Leaves.trans {changed : Text → Prop} {before middle after : Session}
    (one : Leaves changed before middle) (two : Leaves changed middle after) :
    Leaves changed before after where
  settings := two.settings.trans one.settings
  policies name same := (two.policies name same).trans (one.policies name same)

variable {session : Session} {name : Text}

theorem policyOf?_setObject_self (session : Session) (name : Text) (object : Object) :
    (session.setObject name object).policyOf? name = object.policy? := by
  simp only [policyOf?, object?_setObject_self, Option.bind_some]

theorem policyOf?_setObject_of_ne {other : Text} (different : other ≠ name) (session : Session)
    (object : Object) : (session.setObject name object).policyOf? other
      = session.policyOf? other := by
  simp only [policyOf?, object?_setObject_of_ne different]

/-- An object that takes the place of one with the same policy. -/
theorem leaves_setObject (store : Store) {object : Object}
    (same : object.policy? = session.policyOf? name) :
    Leaves (fun _ => False) session ({ session with store }.setObject name object) where
  settings := rfl
  policies := by
    intro other _
    by_cases own : other = name
    · rw [own, policyOf?_setObject_self, same]
    · exact policyOf?_setObject_of_ne own _ object

theorem policyOf?_of_sink {sink : Sink} (found : session.object? name = some (.sink sink)) :
    session.policyOf? name = some sink.policy := by
  simp only [policyOf?, found, Option.bind_some, Object.policy?]

theorem policyOf?_of_source {source : Source}
    (found : session.object? name = some (.source source)) : session.policyOf? name = none := by
  simp only [policyOf?, found, Option.bind_some, Object.policy?]

/-! ## Calls of objects -/

theorem leaves_write (session : Session) (name : Text) (request : Request) :
    Leaves (fun _ => False) session (session.write name request).session := by
  unfold write
  split
  · rename_i sink found
    apply leaves_setObject
    rw [policyOf?_of_sink found]
    rfl
  · rw [session_lacking]
    exact Leaves.refl _ _

theorem leaves_writeBytes (session : Session) (name : Text) (data : Data) (offset : Int)
    (length : Option Int) :
    Leaves (fun _ => False) session (session.writeBytes name data offset length).session := by
  unfold writeBytes
  split
  · rw [session_refused]
    exact Leaves.refl _ _
  · exact leaves_write session name _
  · rename_i id given
    have written := @leaves_write { session with store := session.store.pin id } name
      (.bytes (session.store.buffer id).bytes offset length)
    exact ⟨written.settings, written.policies⟩

theorem leaves_copy (session : Session) (name source : Text) (count : Int) :
    Leaves (fun _ => False) session (session.copy name source count).session := by
  unfold copy
  split
  · rename_i sink origin found other
    have copied := Transfer.policy_copy (Transfer.mk session.store sink origin) count
    have first := @leaves_setObject session name
      ((Transfer.mk session.store sink origin).copy count).state.store
      (.sink ((Transfer.mk session.store sink origin).copy count).state.sink)
      (by rw [policyOf?_of_sink found, Object.policy?, copied])
    apply first.trans
    apply leaves_setObject
    have different : source ≠ name := by
      rintro rfl
      rw [found] at other
      cases other
    rw [policyOf?_setObject_of_ne different]
    exact (@policyOf?_of_source { session with store := _ } source origin other).symm
  · rename_i sink other noSource found existing
    have copied := Transfer.policy_copy
      (Transfer.mk session.store sink (.memory (.own []) 0)) (min count 0)
    simp only [copyFromOther]
    have same : Object.policy? (.sink ((Transfer.mk session.store sink
        (.memory (.own []) 0)).copy (min count 0)).state.sink) = session.policyOf? name := by
      rw [policyOf?_of_sink found, Object.policy?, copied]
    split <;> exact leaves_setObject session.store same
  · exact Leaves.refl _ _
  · rw [session_lacking]
    exact Leaves.refl _ _

theorem leaves_reset (session : Session) (name : Text) (offset : Option (Option Int)) :
    Leaves (fun _ => False) session (session.reset name offset).session := by
  unfold reset
  split
  · rename_i sink found
    have moved : ∀ destination, Leaves (fun _ => False) session
        (session.setObject name (.sink { sink with destination })) := by
      intro destination
      apply leaves_setObject session.store
      rw [policyOf?_of_sink found]
      rfl
    simp only
    split
    · exact moved _
    · exact Leaves.refl _ _
    · split
      · exact moved _
      · exact Leaves.refl _ _
    · rw [session_lacking]
      exact Leaves.refl _ _
  · rw [session_lacking]
    exact Leaves.refl _ _

theorem leaves_onStream (session : Session) (name : Text) (method : String)
    (call : Stream → Store → Attempt (Store × Stream)) :
    Leaves (fun _ => False) session (session.onStream name method call).session := by
  unfold onStream
  split
  · rename_i sink found
    split
    · apply leaves_setObject
      rw [policyOf?_of_sink found]
      rfl
    · rw [session_lacking]
      exact Leaves.refl _ _
  · rw [session_lacking]
    exact Leaves.refl _ _

theorem leaves_readByte (session : Session) (name : Text) :
    Leaves (fun _ => False) session (session.readByte name).session := by
  unfold readByte
  split
  · rename_i content position found
    split
    · apply leaves_setObject session.store
      rw [policyOf?_of_source found]
      rfl
    · exact Leaves.refl _ _
  · rw [session_lacking]
    exact Leaves.refl _ _

theorem leaves_readBytes (session : Session) (name buffer : Text) (offset length : Int) :
    Leaves (fun _ => False) session (session.readBytes name buffer offset length).session := by
  unfold readBytes
  split
  · rename_i source id found given
    apply leaves_setObject
    rw [policyOf?_of_source found]
    rfl
  · exact Leaves.refl _ _
  · exact Leaves.refl _ _
  · rw [session_lacking]
    exact Leaves.refl _ _

/-! ## New objects -/

theorem leaves_drop (session : Session) (name : Text) :
    Leaves (· = name) session (session.drop name) where
  settings := rfl
  policies := by
    intro other different
    simp only [policyOf?, object?_drop_of_ne different]

theorem leaves_made (session : Session) (store : Store) (name : Text) (object : Object) :
    Leaves (· = name) session ({ session with store }.setObject name object) where
  settings := rfl
  policies _ different := policyOf?_setObject_of_ne different _ object

theorem leaves_newBuffer (session : Session) (name : Text) (data : Data) :
    Leaves (· = name) session (session.step (.newBuffer name data)).session := by
  apply (leaves_drop session name).trans
  simp only [step]
  split
  · exact Leaves.refl _ _
  · exact leaves_made _ _ name _

theorem leaves_newMemorySource (session : Session) (name : Text) (data : Data)
    (offset : Option Int) :
    Leaves (· = name) session (session.newMemorySource name data offset).session := by
  apply (leaves_drop session name).trans
  unfold newMemorySource
  simp only
  split
  · exact Leaves.refl _ _
  · exact Leaves.refl _ _
  · split
    · exact Leaves.refl _ _
    · exact leaves_made _ _ name _

theorem leaves_newStreamSource (session : Session) (name : Text) (data : Data) (reader : Reader) :
    Leaves (· = name) session (session.newStreamSource name data reader).session := by
  apply (leaves_drop session name).trans
  unfold newStreamSource
  simp only
  split
  · exact Leaves.refl _ _
  · exact leaves_made _ _ name _

theorem policyOf?_newSink {other : Text} (different : other ≠ name) (session : Session)
    (policy : Option Value) (target : Target) :
    (session.newSink name policy target).session.policyOf? other = session.policyOf? other := by
  have dropped := (leaves_drop session name).policies other different
  have chosen : ((session.drop name).choosePolicy policy).1.policyOf? other
      = (session.drop name).policyOf? other := by
    cases policy <;> rfl
  unfold newSink
  simp only
  split
  · exact dropped
  · split
    · exact chosen.trans dropped
    · exact chosen.trans dropped
    · rw [policyOf?_setObject_of_ne different]
      exact chosen.trans dropped

/-- No step but one that makes a new object of a name changes the policy of the sink of the name. -/
theorem policyOf?_step {step : Step} (other : ¬step.Makes name) (session : Session) :
    (session.step step).session.policyOf? name = session.policyOf? name := by
  have never : ¬(fun _ => False) name := fun absurd => absurd
  cases step with
  | newBuffer made data => exact (leaves_newBuffer session made data).policies name (Ne.symm other)
  | newSink made policy target => exact policyOf?_newSink (Ne.symm other) session policy target
  | newMemorySource made data offset =>
      exact (leaves_newMemorySource session made data offset).policies name (Ne.symm other)
  | newStreamSource made data reader =>
      exact (leaves_newStreamSource session made data reader).policies name (Ne.symm other)
  | write sink request => exact (leaves_write session sink request).policies name never
  | writeBytes sink data offset length =>
      exact (leaves_writeBytes session sink data offset length).policies name never
  | copy sink source count => exact (leaves_copy session sink source count).policies name never
  | reset sink offset => exact (leaves_reset session sink offset).policies name never
  | flush sink => exact (leaves_onStream session sink "flush" Stream.flush).policies name never
  | close sink => exact (leaves_onStream session sink "close" Stream.close).policies name never
  | leave sink => exact (leaves_onStream session sink "__exit__" Stream.close).policies name never
  | enter sink =>
      have entered := (leaves_onStream session sink "__enter__" fun stream store =>
        { state := (store, stream) }).policies name never
      simp only [Session.step]
      split <;> exact entered
  | readByte source => exact (leaves_readByte session source).policies name never
  | readBytes source buffer offset length =>
      exact (leaves_readBytes session source buffer offset length).policies name never
  | setVariable key value =>
      simp only [Session.step]
      split <;> rfl
  | writeFile path content =>
      simp only [Session.step, writeFile]
      split
      · rfl
      · split <;> rfl
  | getSettings path =>
      simp only [Session.step, answerSettings]
      split <;> rfl
  | loadSettings path =>
      simp only [Session.step, answerSettings]
      split <;> rfl
  | makeSettings entries =>
      simp only [Session.step, answerSettings]
      split <;> rfl
  | assignSetting field value =>
      simp only [Session.step, assignSetting]
      split <;> rfl
  | resetSettings => rfl

theorem policyOf?_after {steps : List Step} (others : ∀ step ∈ steps, ¬step.Makes name)
    (session : Session) : (session.after steps).policyOf? name = session.policyOf? name := by
  induction steps generalizing session with
  | nil => rfl
  | cons step rest ih =>
      rw [List.forall_mem_cons] at others
      exact (ih others.2 _).trans (policyOf?_step others.1 session)

/-! ## Asking for the settings -/

/-- What a session has of settings once it has been asked for them. -/
def settingsAsked (session : Session) (path : Option Path) : Settings.Cache :=
  (session.settings.get session.store.directory session.environment path).1

theorem directory_drop (session : Session) (name : Text) :
    (session.drop name).store.directory = session.store.directory := by
  unfold drop
  simp only
  split
  · rename_i source found
    cases viewed? source <;> rfl
  · rfl

theorem settings_newSink (session : Session) (name : Text) (policy : Option Value)
    (target : Target) :
    (session.newSink name policy target).session.settings
      = (session.asks? (.newSink name policy target)).elim session.settings
          session.settingsAsked := by
  have chosen : ((session.drop name).choosePolicy policy).1.settings
      = policy.elim (session.settingsAsked none) fun _ => session.settings := by
    cases policy with
    | none => simp only [choosePolicy, askSettings, settingsAsked, directory_drop]; rfl
    | some given => rfl
  unfold newSink
  simp only
  split
  · rename_i missing
    cases policy with
    | none => simp only [asks?, missing]; rfl
    | some given => rfl
  · rename_i built found
    have result : ((session.drop name).choosePolicy policy).1.settings
        = (session.asks? (.newSink name policy target)).elim session.settings
          session.settingsAsked := by
      rw [chosen]
      cases policy with
      | none => simp only [asks?, found]; rfl
      | some given => rfl
    split <;> exact result

/-- What a step does to the settings, unless it gives them up or changes them. -/
theorem settings_step {step : Step} (settled : ¬step.Unsettles) (session : Session) :
    (session.step step).session.settings
      = (session.asks? step).elim session.settings session.settingsAsked := by
  cases step with
  | newBuffer made data => exact (leaves_newBuffer session made data).settings
  | newSink made policy target => exact settings_newSink session made policy target
  | newMemorySource made data offset =>
      exact (leaves_newMemorySource session made data offset).settings
  | newStreamSource made data reader =>
      exact (leaves_newStreamSource session made data reader).settings
  | write sink request => exact (leaves_write session sink request).settings
  | writeBytes sink data offset length =>
      exact (leaves_writeBytes session sink data offset length).settings
  | copy sink source count => exact (leaves_copy session sink source count).settings
  | reset sink offset => exact (leaves_reset session sink offset).settings
  | flush sink => exact (leaves_onStream session sink "flush" Stream.flush).settings
  | close sink => exact (leaves_onStream session sink "close" Stream.close).settings
  | leave sink => exact (leaves_onStream session sink "__exit__" Stream.close).settings
  | enter sink =>
      have entered := (leaves_onStream session sink "__enter__" fun stream store =>
        { state := (store, stream) }).settings
      simp only [Session.step]
      split <;> exact entered
  | readByte source => exact (leaves_readByte session source).settings
  | readBytes source buffer offset length =>
      exact (leaves_readBytes session source buffer offset length).settings
  | setVariable key value =>
      simp only [Session.step]
      split <;> rfl
  | writeFile path content =>
      simp only [Session.step, writeFile]
      split
      · rfl
      · split <;> rfl
  | getSettings path =>
      simp only [Session.step, answerSettings]
      split <;> rfl
  | loadSettings path =>
      simp only [Session.step, answerSettings]
      split <;> rfl
  | makeSettings entries =>
      simp only [Session.step, answerSettings]
      split <;> rfl
  | assignSetting field value => exact absurd trivial settled
  | resetSettings => exact absurd trivial settled

/-- Settings that are there are not loaded again. -/
theorem settingsAsked_of_some {settings : Settings} (there : session.settings = some settings)
    (path : Option Path) : session.settingsAsked path = some settings := by
  simp only [settingsAsked, Settings.Cache.get, there]

theorem settingsAsked_of_none (none : session.settings = none) (path : Option Path) :
    session.settingsAsked path
      = (Settings.load session.store.directory session.environment path).result.toOption := by
  simp only [settingsAsked, Settings.Cache.get, none]

/-- Settings that are there stay until they are given up or changed. -/
theorem settings_after {settings : Settings} (there : session.settings = some settings)
    {steps : List Step} (settled : ∀ step ∈ steps, ¬step.Unsettles) :
    (session.after steps).settings = some settings := by
  induction steps generalizing session with
  | nil => exact there
  | cons step rest ih =>
      rw [List.forall_mem_cons] at settled
      apply ih _ settled.2
      rw [settings_step settled.1]
      cases session.asks? step with
      | none => exact there
      | some path => exact settingsAsked_of_some there path

/-- A step that asks for settings fails with the fault of the load, and leaves none. -/
theorem step_of_load_error {step : Step} {path : Option Path} {fault : Fault}
    (none : session.settings = none) (asks : session.asks? step = some path)
    (failed : (Settings.load session.store.directory session.environment path).result
      = .error fault) :
    (session.step step).outcome = .failed fault ∧ (session.step step).session.settings = .none := by
  have asked : session.settingsAsked path = .none := by
    rw [settingsAsked_of_none none, failed]
    rfl
  cases step with
  | getSettings other =>
      cases asks
      simp only [Session.step, askSettings, Settings.Cache.get, none, answerSettings, failed]
      exact ⟨trivial, rfl⟩
  | assignSetting field value =>
      cases asks
      simp only [Session.step, assignSetting, askSettings, Settings.Cache.get, none, failed]
      exact ⟨trivial, rfl⟩
  | newSink name policy target =>
      refine ⟨?_, (settings_newSink session name policy target).trans (by rw [asks]; exact asked)⟩
      cases policy with
      | some given => cases asks
      | none =>
          rcases Option.map_eq_some_iff.mp asks with ⟨built, found, rfl⟩
          have empty : (session.drop name).settings = .none := none
          simp only [Session.step, newSink, found, choosePolicy, askSettings, Settings.Cache.get,
            empty, directory_drop]
          rw [show (session.drop name).environment = session.environment from rfl, failed]
          rfl
  | _ => cases asks

/-- A step that asks for settings leaves those that it loads. -/
theorem settings_step_of_load {step : Step} {path : Option Path} {settings : Settings}
    (settled : ¬step.Unsettles) (none : session.settings = none)
    (asks : session.asks? step = some path)
    (loaded : (Settings.load session.store.directory session.environment path).result
      = .ok settings) :
    (session.step step).session.settings = some settings := by
  rw [settings_step settled, asks]
  apply (settingsAsked_of_none none path).trans
  rw [loaded]
  rfl

/-- The settings of a session are given to those who ask for them, and are not loaded again. -/
theorem step_getSettings {settings : Settings} (there : session.settings = some settings)
    (path : Option Path) :
    session.step (.getSettings path) = ⟨session, .settings settings, []⟩ := by
  simp only [step, askSettings, there, Settings.Cache.get, answerSettings]
  rw [← there]

theorem outcome_getSettings_of_load {settings : Settings} {path : Option Path}
    (none : session.settings = none)
    (loaded : (Settings.load session.store.directory session.environment path).result
      = .ok settings) : (session.step (.getSettings path)).outcome = .settings settings := by
  simp only [step, askSettings, none, Settings.Cache.get, answerSettings, loaded]

/-! ## Sinks and their policies -/

theorem notices_newSink (session : Session) (name : Text) (policy : Value) (target : Target) :
    (session.newSink name (some policy) target).notices = [] := by
  unfold newSink
  simp only
  split
  · rfl
  · split <;> rfl

/-- A sink that is given its policy is made alike whatever surrounds the session. -/
theorem newSink_of_policy {one two : Session} (objects : two.objects = one.objects)
    (buffers : two.store.buffers = one.store.buffers) (name : Text) (policy : Value)
    (target : Target) :
    let built := one.newSink name (some policy) target
    let other := two.newSink name (some policy) target
    other.outcome = built.outcome ∧ other.session.objects = built.session.objects := by
  have dropped := drop_congr objects buffers name
  simp only [newSink, destination?_congr dropped.1 dropped.2, choosePolicy]
  split
  · exact ⟨rfl, dropped.1⟩
  · split
    · exact ⟨rfl, dropped.1⟩
    · exact ⟨rfl, dropped.1⟩
    · exact ⟨rfl, by simp only [setObject, dropped.1]⟩

theorem ofValue_eq_ok_iff {value : Value} {policy : SurrogatePolicy} :
    SurrogatePolicy.ofValue value = .ok policy ↔ value = .text policy.name := by
  constructor
  · intro valid
    unfold SurrogatePolicy.ofValue at valid
    cases value with
    | text content =>
        simp only [Value.text?, Option.bind_some, SurrogatePolicy.ofName?] at valid
        split at valid
        · rename_i found
          cases valid
          split at found
          · rename_i same
            cases found
            rw [same]
          · split at found
            · rename_i same
              cases found
              rw [same]
            · cases found
        · cases valid
    | _ => cases valid
  · rintro rfl
    exact ofValue_name policy

/-- The policy of a new sink has the name that is given, or the one in the settings. -/
theorem policy_choosePolicy {given : Option Value} {policy : SurrogatePolicy}
    (chosen : (session.choosePolicy given).2.result = .ok policy) :
    given = some (.text policy.name) ∨ given = none ∧ ∃ settings,
      (session.choosePolicy given).1.settings = some settings ∧
        settings.surrogatePolicy = .text policy.name := by
  cases given with
  | some value =>
      left
      rw [ofValue_eq_ok_iff.mp chosen]
  | none =>
      right
      refine ⟨rfl, ?_⟩
      simp only [choosePolicy, askSettings, Settings.Cache.get] at chosen ⊢
      cases there : session.settings with
      | some settings =>
          simp only [there] at chosen
          exact ⟨settings, rfl, ofValue_eq_ok_iff.mp chosen⟩
      | none =>
          simp only [there] at chosen
          cases loaded :
              (Settings.load session.store.directory session.environment none).result with
          | error fault =>
              rw [loaded] at chosen
              cases chosen
          | ok settings =>
              rw [loaded] at chosen
              exact ⟨settings, rfl, ofValue_eq_ok_iff.mp chosen⟩

/-- A sink of a name is there after its construction exactly if it has been made. -/
theorem policyOf?_newSink_self (session : Session) (name : Text) (given : Option Value)
    (target : Target) {policy : SurrogatePolicy} :
    (session.newSink name given target).session.policyOf? name = some policy ↔
      (session.newSink name given target).outcome = .policy policy := by
  have gone : (session.drop name).policyOf? name = none := by
    simp only [policyOf?, object?_drop_self, Option.bind_none]
  have chosen : ((session.drop name).choosePolicy given).1.policyOf? name = none := by
    cases given <;> exact gone
  unfold newSink
  simp only
  split
  · simp [noObject, gone]
  · split
    · simp [chosen]
    · simp [chosen]
    · simp [policyOf?_setObject_self, Object.policy?]

theorem name_of_outcome {given : Option Value} {target : Target} {policy : SurrogatePolicy}
    (made : (session.newSink name given target).outcome = .policy policy) :
    given = some (.text policy.name) ∨ given = none ∧ ∃ settings,
      (session.newSink name given target).session.settings = some settings ∧
        settings.surrogatePolicy = .text policy.name := by
  unfold newSink at made ⊢
  simp only at made ⊢
  split at made
  · cases made
  · split at made
    · cases made
    · cases made
    · rename_i built other destination chosen found
      cases made
      exact policy_choosePolicy chosen

/-- A step that makes a new object of a name leaves a sink there only if it has made it. -/
theorem policyOf?_of_makes {step : Step} (makes : step.Makes name) {policy : SurrogatePolicy}
    (found : (session.step step).session.policyOf? name = some policy) :
    ∃ given target, step = .newSink name given target ∧
      (session.step step).outcome = .policy policy := by
  have gone : (session.drop name).policyOf? name = none := by
    simp only [policyOf?, object?_drop_self, Option.bind_none]
  cases step with
  | newSink made given target =>
      obtain rfl : made = name := makes
      exact ⟨given, target, rfl, (policyOf?_newSink_self session made given target).mp found⟩
  | newBuffer made data =>
      obtain rfl : made = name := makes
      simp only [Session.step] at found
      split at found
      · rw [gone] at found
        cases found
      · rw [policyOf?_setObject_self] at found
        cases found
  | newMemorySource made data offset =>
      obtain rfl : made = name := makes
      simp only [Session.step, newMemorySource] at found
      split at found
      · rw [gone] at found
        cases found
      · exact absurd found (by rw [failed, gone]; simp)
      · split at found
        · exact absurd found (by rw [failed, gone]; simp)
        · rw [setSource, policyOf?_setObject_self] at found
          cases found
  | newStreamSource made data reader =>
      obtain rfl : made = name := makes
      simp only [Session.step, newStreamSource] at found
      split at found
      · exact absurd found (by rw [noObject, gone]; simp)
      · rw [setSource, policyOf?_setObject_self] at found
        cases found
  | _ => exact False.elim makes

/-- The policy of a sink is the one that it had before, or that it has been made with since. -/
theorem policyOf?_origin {steps : List Step} {policy : SurrogatePolicy}
    (found : (session.after steps).policyOf? name = some policy) :
    session.policyOf? name = some policy ∨ ∃ earlier given target later,
      steps = earlier ++ .newSink name given target :: later ∧
        ((session.after earlier).step (.newSink name given target)).outcome = .policy policy := by
  induction steps generalizing session with
  | nil => exact Or.inl found
  | cons step rest ih =>
      rcases ih found with before | ⟨earlier, given, target, later, rfl, made⟩
      · by_cases makes : step.Makes name
        · rcases policyOf?_of_makes makes before with ⟨given, target, rfl, made⟩
          exact Or.inr ⟨[], given, target, rest, rfl, made⟩
        · left
          rw [← before, policyOf?_step makes]
      · exact Or.inr ⟨step :: earlier, given, target, later, rfl, made⟩

theorem bareRun_apart (session : Session) (steps : List Step) :
    ∀ step ∈ session.bareRun steps, step.isAround = false ∧ ¬step.TakesPolicy := by
  induction steps generalizing session with
  | nil => simp [bareRun]
  | cons first rest ih =>
      intro step mem
      rcases List.mem_append.mp mem with own | later
      · cases first with
        | newSink name policy target =>
            cases policy <;>
              · cases List.mem_singleton.mp own
                exact ⟨rfl, fun absurd => absurd⟩
        | _ =>
            simp only [bare, Step.isAround] at own
            first
              | cases own; done
              | cases List.mem_singleton.mp own
                exact ⟨rfl, fun absurd => absurd⟩
      · exact ih _ step later

end Session

end IndexWire
