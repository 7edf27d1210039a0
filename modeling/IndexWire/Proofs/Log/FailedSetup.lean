import IndexWire.Proofs.Log.Ownership

/-!
# Settings that a log refuses

What a log is after it could not be set up. The formatter and the destination are found before
anything is changed, and so is a file that cannot be opened. A level is looked up last; nearly every
text names one, since what is not known stands for ordinary work, but two do not, and these are
refused when the handler before has been closed already.
-/

namespace IndexWire

/-- The only texts that are refused as levels. -/
theorem Level.exists_error_iff (name : Text) :
    (∃ fault, ofName name = .error fault) ↔
      name.upper = Text.ofString "BASIC_FORMAT" ∨ name.upper = Text.ofString "_STYLES" := by
  constructor
  · rintro ⟨fault, refused⟩
    by_cases format : name.upper = Text.ofString "BASIC_FORMAT"
    · exact Or.inl format
    · by_cases styles : name.upper = Text.ofString "_STYLES"
      · exact Or.inr styles
      · -- every other name has a level
        simp only [ofName, Text.is, beq_iff_eq, format, styles, if_false] at refused
        repeat' split at refused
        all_goals cases refused
  · rintro (format | styles)
    · simp only [ofName, format]
      exact ⟨_, rfl⟩
    · simp only [ofName, styles]
      exact ⟨_, rfl⟩

namespace Log

variable {log : Log} {directory : Directory} {settings : Settings} {fault : Fault}

/-- A setup that fails leaves a log as it was, unless nothing but the level is refused. -/
theorem setup_of_error (failed : (log.setup directory settings).result = .error fault) :
    (log.setup directory settings).log = log ∨
      ∃ destination format, Format.ofSettings settings = .ok format ∧
        (Destination.ofSettings directory settings).2 = .ok destination ∧
          Level.ofSetting settings.logLevel = .error fault ∧
            (log.setup directory settings).log = log.replaceManaged destination format := by
  unfold setup at failed ⊢
  cases formatted : Format.ofSettings settings with
  | error cause => exact Or.inl rfl
  | ok format =>
      rcases opened : Destination.ofSettings directory settings with ⟨later, cause | destination⟩
      · exact Or.inl rfl
      · cases weighed : Level.ofSetting settings.logLevel with
        | error cause =>
            simp only [formatted, opened, weighed] at failed
            cases failed
            exact Or.inr ⟨destination, format, rfl, rfl, rfl, rfl⟩
        | ok level =>
            simp only [formatted, opened, weighed] at failed
            cases failed

/--
Where a formatter, a destination or a log file is refused, or a level of any name but two, the log
is as it was: its handlers and their order, its level, the handler that is recorded and the family
of the loggers, and no handler has been closed.
-/
theorem failed_setup_keeps_log {level : Text} (named : settings.logLevel = .text level)
    (failed : (log.setup directory settings).result = .error fault)
    (cause : (∃ fault, Format.ofSettings settings = .error fault) ∨
      (∃ fault, (Destination.ofSettings directory settings).2 = .error fault) ∨
      ¬(level.upper = Text.ofString "BASIC_FORMAT" ∨ level.upper = Text.ofString "_STYLES")) :
    (log.setup directory settings).log = log := by
  rcases setup_of_error failed with same | ⟨destination, format, formatted, opened, refused, -⟩
  · exact same
  · exfalso
    rcases cause with ⟨other, unformatted⟩ | ⟨other, unopened⟩ | free
    · rw [formatted] at unformatted
      cases unformatted
    · rw [opened] at unopened
      cases unopened
    · rw [named] at refused
      exact free ((Level.exists_error_iff level).mp ⟨fault, refused⟩)

/-- A formatter that is not known is refused before a level that is refused too. -/
theorem failed_setup_keeps_log_unknown_formatter :
    let settings : Settings :=
      { logFormatter := .text (Text.ofString "plain")
        logLevel := .text (Text.ofString "basic_format") }
    let log := ({} : Log).step (.setup {} {})
    (∃ fault, (log.setup {} settings).result = .error fault) ∧
      (log.setup {} settings).log = log := by
  intro settings log
  have unknown : Format.ofSettings settings
      = .error (.unknownFormatter settings.logFormatter.literal) := by
    rfl
  have failed : (log.setup {} settings).result
      = .error (.unknownFormatter settings.logFormatter.literal) := by
    rfl
  exact ⟨⟨_, failed⟩, failed_setup_keeps_log rfl failed (Or.inl ⟨_, unknown⟩)⟩

/--
A level that is refused leaves a handler in place that is not the recorded one; the recorded one has
been taken away and closed.
-/
theorem refused_level_changes_log :
    let settings : Settings := { logLevel := .text (Text.ofString "BASIC_FORMAT") }
    let log := ({} : Log).step (.setup {} {})
    let later := (log.setup {} settings).log
    (∃ fault, (log.setup {} settings).result = .error fault) ∧ later ≠ log ∧
      ∃ handler, log.handlers = [handler] ∧ later.recorded = some handler ∧
        handler ∉ later.handlers ∧ handler ∈ later.closed := by
  refine ⟨⟨_, rfl⟩, by decide +kernel, .managed 0 .stderr ⟨.structured, .json⟩, rfl, rfl, ?_, ?_⟩
  · decide +kernel
  · decide +kernel

end Log

end IndexWire
