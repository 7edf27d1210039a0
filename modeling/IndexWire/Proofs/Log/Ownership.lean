import IndexWire.Log.Basic

/-!
# Who holds the handlers of a log

What a log does with handlers while it is set up and shut down, over and over, whether that succeeds
or fails. The handlers of others stay as they are. Of this library's own there is one at most, and
none is lost: whichever was put in place is still there, or has been closed.

`Owns` is what each step keeps. A level that is refused leaves a handler in place that is not the
recorded one, so the invariant does not say that the recorded handler is there; it says that it was
put in place at some time.
-/

namespace IndexWire

namespace Log

/-- A change of the handlers of a log. -/
inductive Step where
  /-- The log is set up; what is there of the files is told with it. -/
  | setup (directory : Directory) (settings : Settings)
  | shutdown

def step (log : Log) : Step → Log
  | .setup directory settings => (log.setup directory settings).log
  | .shutdown => log.shutdown

def after (log : Log) (steps : List Step) : Log := steps.foldl step log

/-- Whether a handler was in place after some of the steps. -/
def WasHeld (start : Log) (steps : List Step) (handler : Handler) : Prop :=
  ∃ earlier, earlier <+: steps ∧ handler ∈ (start.after earlier).handlers

/-- A log that keeps the handlers of others, and knows what became of its own ones. -/
structure Owns (others : List Handler) (held : Handler → Prop) (log : Log) : Prop where
  others : log.handlers.filter (!·.isManaged) = others
  atMostOne : (log.handlers.filter Handler.isManaged).length ≤ 1
  open_iff : ∀ handler, handler.isManaged = true →
    (handler ∈ log.handlers ↔ held handler ∧ handler ∉ log.closed)
  closed : ∀ handler ∈ log.closed, handler.isManaged = true ∧ held handler
  recorded : ∀ handler ∈ log.recorded, handler.isManaged = true ∧ held handler
  numbered : ∀ number destination format,
    held (.managed number destination format) → number < log.made

variable {log : Log} {others : List Handler} {held : Handler → Prop}

/-- All that setting up a log can do to it. -/
theorem setup_cases (log : Log) (directory : Directory) (settings : Settings) :
    let setup := log.setup directory settings
    ((∃ fault, setup.result = .error fault) ∧ setup.log = log) ∨
      ∃ destination format, Format.ofSettings settings = .ok format ∧
        (((∃ fault, setup.result = .error fault) ∧
            setup.log = log.replaceManaged destination format) ∨
          ∃ level, setup.result = .ok (.managed log.made destination format) ∧
            setup.log = { log.replaceManaged destination format with
              level, recorded := some (.managed log.made destination format)
              loggers := format.family }) := by
  unfold setup
  cases Format.ofSettings settings with
  | error fault => simp
  | ok format =>
      rcases Destination.ofSettings directory settings with ⟨opened, fault | destination⟩
      · simp
      · right
        refine ⟨destination, format, rfl, ?_⟩
        cases Level.ofSetting settings.logLevel with
        | error fault => simp
        | ok level => simp

theorem managed_replaceManaged (log : Log) (destination : Destination) (format : Format) :
    (log.replaceManaged destination format).handlers.filter Handler.isManaged
      = [.managed log.made destination format] := by
  have none : (log.handlers.filter (!·.isManaged)).filter Handler.isManaged = [] := by
    simp
  simp only [replaceManaged, List.filter_append, none, List.nil_append]
  rfl

theorem others_replaceManaged (log : Log) (destination : Destination) (format : Format) :
    (log.replaceManaged destination format).handlers.filter (!·.isManaged)
      = log.handlers.filter (!·.isManaged) := by
  simp only [replaceManaged, List.filter_append, List.filter_filter, Bool.and_self]
  exact List.append_nil _

theorem family_of_ofSettings {settings : Settings} {format : Format}
    (chosen : Format.ofSettings settings = .ok format) :
    format.family = .structured ↔ settings.logFormatter.isText "structlog" = true := by
  unfold Format.ofSettings Family.ofSetting at chosen
  split at chosen
  · cases chosen
  · split at chosen
    · rename_i named
      cases chosen
      simp [named]
    · rename_i other
      split at chosen
      · cases chosen
        simp [other]
      · cases chosen

namespace Owns

theorem mono {wider : Handler → Prop} (owns : log.Owns others held)
    (same : ∀ handler, handler.isManaged = true → (wider handler ↔ held handler)) :
    log.Owns others wider where
  others := owns.others
  atMostOne := owns.atMostOne
  open_iff := by
    intro handler managed
    rw [same handler managed]
    exact owns.open_iff handler managed
  closed := by
    intro handler mem
    rcases owns.closed handler mem with ⟨managed, before⟩
    exact ⟨managed, (same handler managed).mpr before⟩
  recorded := by
    intro handler mem
    rcases owns.recorded handler mem with ⟨managed, before⟩
    exact ⟨managed, (same handler managed).mpr before⟩
  numbered := by
    intro number destination format before
    apply owns.numbered number destination format
    exact (same _ rfl).mp before

/-- A log whose handlers stay has held no others. -/
theorem stay (owns : log.Owns others held) :
    log.Owns others fun handler => held handler ∨ handler ∈ log.handlers := by
  apply owns.mono
  intro handler managed
  constructor
  · rintro (before | now)
    · exact before
    · exact ((owns.open_iff handler managed).mp now).1
  · exact Or.inl

/-- The handlers that are replaced are closed, and the new one has not been there before. -/
theorem replace (owns : log.Owns others held) {destination : Destination} {format : Format}
    {later : Log}
    (handlers : later.handlers = (log.replaceManaged destination format).handlers)
    (made : later.made = log.made + 1)
    (closed : later.closed = (log.replaceManaged destination format).closed)
    (recorded : ∀ handler ∈ later.recorded,
      handler ∈ log.recorded ∨ handler = .managed log.made destination format) :
    later.Owns others fun handler => held handler ∨ handler ∈ later.handlers := by
  have fresh : ¬held (.managed log.made destination format) := by
    intro before
    exact Nat.lt_irrefl _ (owns.numbered _ _ _ before)
  have unclosed : Handler.managed log.made destination format ∉ later.closed := by
    rw [closed]
    simp only [replaceManaged, List.mem_append, List.mem_reverse, List.mem_filter, not_or]
    constructor
    · rintro ⟨now, managed⟩
      exact fresh ((owns.open_iff _ managed).mp now).1
    · intro before
      exact fresh (owns.closed _ before).2
  have present : ∀ handler, handler.isManaged = true →
      (handler ∈ later.handlers ↔ handler = .managed log.made destination format) := by
    intro handler managed
    rw [handlers]
    simp [replaceManaged, managed]
  constructor
  case others =>
    rw [handlers, others_replaceManaged, owns.others]
  case atMostOne =>
    simp [handlers, managed_replaceManaged]
  case open_iff =>
    intro handler managed
    simp only [present handler managed]
    constructor
    · rintro rfl
      exact ⟨Or.inr rfl, unclosed⟩
    · rintro ⟨before | now, notClosed⟩
      · exfalso
        apply notClosed
        rw [closed]
        simp only [replaceManaged, List.mem_append, List.mem_reverse, List.mem_filter]
        by_cases gone : handler ∈ log.closed
        · exact Or.inr gone
        · exact Or.inl ⟨(owns.open_iff handler managed).mpr ⟨before, gone⟩, managed⟩
      · exact now
  case closed =>
    intro handler mem
    rw [closed] at mem
    simp only [replaceManaged, List.mem_append, List.mem_reverse, List.mem_filter] at mem
    rcases mem with ⟨now, managed⟩ | before
    · exact ⟨managed, Or.inl ((owns.open_iff handler managed).mp now).1⟩
    · exact ⟨(owns.closed handler before).1, Or.inl (owns.closed handler before).2⟩
  case recorded =>
    intro handler mem
    rcases recorded handler mem with before | rfl
    · exact ⟨(owns.recorded handler before).1, Or.inl (owns.recorded handler before).2⟩
    · exact ⟨rfl, Or.inr ((present _ rfl).mpr rfl)⟩
  case numbered =>
    intro number place form known
    rw [made]
    rcases known with before | now
    · exact Nat.lt_succ_of_lt (owns.numbered _ _ _ before)
    · rcases (present _ rfl).mp now with ⟨⟩
      exact Nat.lt_succ_self _

theorem setup (owns : log.Owns others held) (directory : Directory) (settings : Settings) :
    let later := (log.setup directory settings).log
    later.Owns others fun handler => held handler ∨ handler ∈ later.handlers := by
  intro later
  rcases setup_cases log directory settings with
    ⟨-, same⟩ | ⟨destination, format, -, ⟨-, same⟩ | ⟨level, -, same⟩⟩
  · rw [show later = log from same]
    exact owns.stay
  · rw [show later = _ from same]
    refine @replace log others held owns destination format _ rfl rfl rfl ?_
    exact fun handler mem => Or.inl mem
  · rw [show later = _ from same]
    refine @replace log others held owns destination format _ rfl rfl rfl ?_
    intro handler mem
    exact Or.inr (Option.mem_some_iff.mp mem).symm

/-- What is taken away is closed, also if another handler has taken its place before. -/
theorem shutdown (owns : log.Owns others held) :
    log.shutdown.Owns others fun handler => held handler ∨ handler ∈ log.shutdown.handlers := by
  unfold Log.shutdown
  cases found : log.recorded with
  | none =>
      have stayed := owns.stay
      exact ⟨stayed.others, stayed.atMostOne, stayed.open_iff, stayed.closed, by simp,
        stayed.numbered⟩
  | some handler =>
      rcases owns.recorded handler found with ⟨managed, before⟩
      have kept : log.Owns others fun other =>
          held other ∨ other ∈ log.handlers.filter (· ≠ handler) := by
        apply owns.mono
        intro other own
        constructor
        · rintro (known | now)
          · exact known
          · exact ((owns.open_iff other own).mp (List.mem_filter.mp now).1).1
        · exact Or.inl
      constructor
      case others =>
        rw [← owns.others, List.filter_filter]
        apply List.filter_congr
        intro other mem
        by_cases same : other = handler
        · simp [same, managed]
        · simp [same]
      case atMostOne =>
        apply Nat.le_trans _ owns.atMostOne
        exact (List.filter_sublist.filter _).length_le
      case open_iff =>
        intro other own
        have opened := kept.open_iff other own
        simp only [List.mem_filter, List.mem_cons, not_or] at opened ⊢
        constructor
        · rintro ⟨now, different⟩
          exact ⟨(opened.mp now).1, of_decide_eq_true different, (opened.mp now).2⟩
        · rintro ⟨known, different, notClosed⟩
          exact ⟨opened.mpr ⟨known, notClosed⟩, decide_eq_true different⟩
      case closed =>
        intro other mem
        rcases List.mem_cons.mp mem with rfl | earlier
        · exact ⟨managed, Or.inl before⟩
        · exact kept.closed other earlier
      case recorded => simp
      case numbered => exact kept.numbered

theorem step (owns : log.Owns others held) (step : Step) :
    (log.step step).Owns others fun handler => held handler ∨ handler ∈ (log.step step).handlers :=
  match step with
  | .setup directory settings => owns.setup directory settings
  | .shutdown => owns.shutdown

end Owns

theorem wasHeld_nil (log : Log) (handler : Handler) :
    log.WasHeld [] handler ↔ handler ∈ log.handlers := by
  constructor
  · rintro ⟨earlier, reached, mem⟩
    obtain rfl := List.prefix_nil.mp reached
    exact mem
  · intro mem
    exact ⟨[], List.prefix_rfl, mem⟩

theorem wasHeld_cons (log : Log) (step : Step) (steps : List Step) (handler : Handler) :
    log.WasHeld (step :: steps) handler ↔
      handler ∈ log.handlers ∨ (log.step step).WasHeld steps handler := by
  constructor
  · rintro ⟨earlier, reached, mem⟩
    rcases List.prefix_cons_iff.mp reached with rfl | ⟨later, rfl, before⟩
    · exact Or.inl mem
    · exact Or.inr ⟨later, before, mem⟩
  · rintro (mem | ⟨later, before, mem⟩)
    · exact ⟨[], List.nil_prefix, mem⟩
    · exact ⟨step :: later, List.cons_prefix_cons.mpr ⟨rfl, before⟩, mem⟩

/-- What a step keeps, a run keeps; every handler of the run is known at its end. -/
theorem Owns.after (owns : log.Owns others held) (steps : List Step) :
    (log.after steps).Owns others fun handler => held handler ∨ log.WasHeld steps handler := by
  induction steps generalizing log held with
  | nil =>
      apply owns.stay.mono
      intro handler managed
      rw [wasHeld_nil]
  | cons step steps ih =>
      apply (ih (owns.step step)).mono
      intro handler managed
      have now : handler ∈ log.handlers → held handler :=
        fun mem => ((owns.open_iff handler managed).mp mem).1
      have next : handler ∈ (log.step step).handlers → (log.step step).WasHeld steps handler :=
        fun mem => ⟨[], List.nil_prefix, mem⟩
      rw [wasHeld_cons]
      constructor
      · rintro (known | mem | later)
        · exact Or.inl (Or.inl known)
        · exact Or.inl (Or.inl (now mem))
        · exact Or.inr later
      · rintro ((known | mem) | later)
        · exact Or.inl known
        · exact Or.inr (Or.inr (next mem))
        · exact Or.inr (Or.inr later)

/-- A log that has no handlers of its own has closed none, and has held none. -/
theorem owns_fresh (foreign : List Nat) (level : Level) :
    Owns (foreign.map .foreign) (fun _ => False)
      { handlers := foreign.map .foreign, level } where
  others := by simp [Handler.isManaged]
  atMostOne := by
    have none : (foreign.map Handler.foreign).filter Handler.isManaged = [] := by
      simp [Handler.isManaged]
    simp [none]
  open_iff := by
    intro handler managed
    simp only [false_and, iff_false, List.mem_map, not_exists, not_and]
    rintro number - rfl
    cases managed
  closed := by simp
  recorded := by simp
  numbered := by simp

/--
However often a log is set up and shut down, and whether that succeeds or fails: the handlers of
others are there in their order and are not closed, and of the log's own handlers there is one at
most. One that was put in place is there until it is closed, and not after that. Where a log has
been set up, the handler that it gives is the one that is there, its loggers are of the family that
the settings name, and shutting it down leaves the handlers of others only.
-/
theorem handlers_owned (foreign : List Nat) (level : Level) (steps : List Step) :
    let start : Log := { handlers := foreign.map .foreign, level }
    let log := start.after steps
    (log.handlers.filter Handler.isManaged).length ≤ 1 ∧
      (∀ handler, handler.isManaged = true →
        (handler ∈ log.handlers ↔ start.WasHeld steps handler ∧ handler ∉ log.closed)) ∧
      log.handlers.filter (!·.isManaged) = foreign.map .foreign ∧
      (∀ number, Handler.foreign number ∉ log.closed) ∧
      ∀ directory settings handler, (log.setup directory settings).result = .ok handler →
        let ready := (log.setup directory settings).log
        ready.handlers.filter Handler.isManaged = [handler] ∧ handler ∉ ready.closed ∧
          (ready.loggers = .structured ↔ settings.logFormatter.isText "structlog" = true) ∧
          ready.shutdown.handlers = foreign.map .foreign := by
  intro start log
  have owns : log.Owns (foreign.map .foreign) (start.WasHeld steps) := by
    apply ((owns_fresh foreign level).after steps).mono
    simp [start]
  refine ⟨owns.atMostOne, owns.open_iff, owns.others, ?_, ?_⟩
  · intro number mem
    have managed := (owns.closed _ mem).1
    simp [Handler.isManaged] at managed
  · intro directory settings handler success ready
    have later : ready.Owns (foreign.map .foreign)
        fun handler => start.WasHeld steps handler ∨ handler ∈ ready.handlers :=
      owns.setup directory settings
    rcases setup_cases log directory settings with
      ⟨⟨fault, failed⟩, -⟩ |
        ⟨destination, format, chosen, ⟨⟨fault, failed⟩, -⟩ | ⟨least, made, same⟩⟩
    · rw [failed] at success
      cases success
    · rw [failed] at success
      cases success
    · rw [made] at success
      cases success
      rw [show ready = _ from same] at later ⊢
      have present := managed_replaceManaged log destination format
      have there := (List.mem_filter.mp (present ▸ List.mem_singleton_self _)).1
      refine ⟨present, ((later.open_iff _ rfl).mp there).2, family_of_ofSettings chosen, ?_⟩
      rw [← later.others]
      simp only [Log.shutdown, replaceManaged]
      apply List.filter_congr
      intro other mem
      by_cases new : other = .managed log.made destination format
      · simp [new, Handler.isManaged]
      · have known : other ∈ log.handlers.filter (!·.isManaged) := by
          simpa [new] using mem
        have unmanaged := (List.mem_filter.mp known).2
        simpa [new] using unmanaged

/--
A level that is refused leaves its handler in place. Shutting the log down then closes the handler
before it once more, and only the next setup takes the one away that is there.
-/
theorem handlers_owned_refused_level :
    let refused : Settings := { logLevel := .text (Text.ofString "basic_format") }
    let start : Log := { handlers := [.foreign 1] }
    let log := start.after [.setup {} {}, .setup {} refused, .shutdown]
    let left : Handler := .managed 1 .stderr ⟨.structured, .json⟩
    log.handlers = [.foreign 1, left] ∧ left ∉ log.closed ∧
      (log.setup {} {}).log.shutdown.handlers = [.foreign 1] := by
  intro refused start log left
  have owned := handlers_owned [1] .warning [.setup {} {}, .setup {} refused, .shutdown]
  have there : log.handlers = [.foreign 1, left] := by rfl
  have held : left ∈ log.handlers := by
    simp [there]
  have success : (log.setup {} {}).result = .ok (.managed 2 .stderr ⟨.structured, .json⟩) := by rfl
  exact ⟨there, ((owned.2.1 left rfl).mp held).2, (owned.2.2.2.2 {} {} _ success).2.2.2⟩

end Log

end IndexWire
