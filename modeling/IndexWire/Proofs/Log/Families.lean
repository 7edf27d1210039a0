import IndexWire.Log.Template
import IndexWire.Proofs.Log.Lines

/-!
# Lines of both families

A log that writes JSON can be set up for loggers of either family. What is logged then is the same:
a line is written for one family if and only if it is for the other, and the two lines are objects
with the same members, up to their order and the value of the time stamp.

The two families put the same own members on different sides of the fields of a call. As no name of
a field falls together with one of theirs, this changes nothing but the order.
-/

namespace IndexWire

namespace Log

namespace Entries

variable {own others entries further : Entries}

theorem putEntry_append {name : Text} (apart : ∀ entry ∈ own, entry.1 ≠ name) (value : Value) :
    putEntry (fun left right => left = right) (own ++ entries) name value
      = own ++ putEntry (fun left right => left = right) entries name value := by
  have absent : (own.any fun entry => decide (entry.1 = name)) = false := by
    simpa using apart
  have kept : own.map (fun entry => if decide (entry.1 = name) then (entry.1, value) else entry)
      = own := by
    conv_rhs => rw [← List.map_id own]
    apply List.map_congr_left
    intro entry mem
    simp [apart entry mem]
  unfold putEntry
  rw [List.any_append, absent, Bool.false_or, List.map_append, kept]
  split <;> simp

/-- What is put in goes past entries with other names. -/
theorem putAll_append (apart : ∀ entry ∈ own, ∀ other ∈ further, entry.1 ≠ other.1)
    (entries : Entries) : putAll (own ++ entries) further = own ++ putAll entries further := by
  induction further generalizing entries with
  | nil => rfl
  | cons other further ih =>
      rw [putAll, List.foldl_cons,
        putEntry_append fun entry mem => apart entry mem other List.mem_cons_self]
      exact ih (fun entry mem later among => apart entry mem later (List.mem_cons_of_mem _ among)) _

theorem forall_putEntry (property : Text → Prop) (old : ∀ entry ∈ entries, property entry.1)
    {name : Text} (new : property name) (value : Value) :
    ∀ entry ∈ putEntry (fun left right => left = right) entries name value, property entry.1 := by
  intro entry mem
  unfold putEntry at mem
  split at mem
  · rcases List.mem_map.mp mem with ⟨before, among, rfl⟩
    split <;> exact old before among
  · rcases List.mem_append.mp mem with among | last
    · exact old entry among
    · rw [List.mem_singleton.mp last]
      exact new

/-- The names of entries are those that were put in. -/
theorem forall_putAll (property : Text → Prop) (old : ∀ entry ∈ entries, property entry.1)
    (new : ∀ entry ∈ further, property entry.1) :
    ∀ entry ∈ entries.putAll further, property entry.1 := by
  induction further generalizing entries with
  | nil => exact old
  | cons other further ih =>
      rw [List.forall_mem_cons] at new
      exact ih (forall_putEntry property old new.1 other.2) new.2

/-- Own entries stay on their side of others. -/
theorem entriesOf_beside (distinct : (own.map Prod.fst).Nodup)
    (apart : ∀ entry ∈ own, ∀ other ∈ further, entry.1 ≠ other.1) :
    entriesOf (fun left right => left = right) (own ++ further)
        = own ++ entriesOf (fun left right => left = right) further ∧
      entriesOf (fun left right => left = right) (further ++ own)
        = entriesOf (fun left right => left = right) further ++ own := by
  have split : ∀ first second : Entries,
      entriesOf (fun left right => left = right) (first ++ second)
        = putAll (putAll [] first) second := fun first second => List.foldl_append
  constructor
  · have alone : putAll [] own = own ++ [] := by
      rw [putAll_of_new distinct (by simp), List.append_nil]
      rfl
    rw [split, alone]
    exact putAll_append apart []
  · rw [split]
    apply putAll_of_new distinct
    intro entry mem
    apply forall_putAll (fun name => ∀ other ∈ own, name ≠ other.1) (by simp) _ entry mem
    exact fun entry among other last same => apart other last entry among same.symm

end Entries

/-- The name of the member that tells when a line was written. -/
def stampName : Text := Text.ofString "timestamp"

/--
Whether two lines of printable ASCII are objects that have a time stamp each, and apart from its
value the same members, in whatever order.
-/
structure AreAlike (one two : Text) : Prop where
  ascii : Json.IsAscii one ∧ Json.IsAscii two
  objects : ∃ entries others : Entries,
    Json.read? one = some (.dict (Value.ofNamed entries), []) ∧
      Json.read? two = some (.dict (Value.ofNamed others), []) ∧
      (∃ entry ∈ entries, entry.1 = stampName) ∧ (∃ entry ∈ others, entry.1 = stampName) ∧
      (entries.filter fun entry => entry.1 ≠ stampName).Perm
        (others.filter fun entry => entry.1 ≠ stampName)

namespace Entries

/-- What is left of entries in an object, before those with the same name fall together. -/
def images (entries : Entries) : Entries :=
  entries.map fun entry => (entry.1.joined, Json.image entry.2)

theorem images_append (one two : Entries) : images (one ++ two) = images one ++ images two :=
  List.map_append

variable {own others fields : Entries}

theorem read?_ofMembers {entries : Entries}
    (readable : ∀ entry ∈ entries, Json.isReadable entry.2 = true) :
    Json.read? (Json.ofMembers entries)
      = some (.dict (Value.ofNamed
          (entriesOf (fun left right => left = right) entries.images)), []) := by
  have whole : Json.isReadable (.dict (Value.ofNamed entries)) = true :=
    Json.membersAreReadable_ofNamed readable
  rw [Json.ofMembers_eq, Json.read?_ofValue whole, Json.image, Json.memberImages_ofNamed,
    Value.dictOf, Value.entriesOf_ofNamed]
  rfl

theorem isAscii_ofMembers {entries : Entries}
    (readable : ∀ entry ∈ entries, Json.isReadable entry.2 = true) :
    Json.IsAscii (Json.ofMembers entries) := by
  rw [Json.ofMembers_eq]
  exact Json.isAscii_ofValue _ (Json.membersAreReadable_ofNamed readable)

/--
Whether two lists of entries can be the own ones of two lines: both have a time stamp, and apart
from it the same members; and no name falls together with another one, or with that of a field.
-/
structure AreOwn (fields own others : Entries) : Prop where
  distinct : (own.images.map Prod.fst).Nodup ∧ (others.images.map Prod.fst).Nodup
  stamped : (∃ entry ∈ own.images, entry.1 = stampName) ∧
    (∃ entry ∈ others.images, entry.1 = stampName)
  same : (own.images.filter fun entry => entry.1 ≠ stampName).Perm
    (others.images.filter fun entry => entry.1 ≠ stampName)
  apart : ∀ field ∈ fields.images, (∀ entry ∈ own.images, entry.1 ≠ field.1) ∧
    ∀ entry ∈ others.images, entry.1 ≠ field.1

/-- It does not matter on which side of the fields the own members are. -/
theorem AreOwn.areAlike (are : AreOwn fields own others)
    (readable : ∀ entry ∈ own ++ fields ++ others, Json.isReadable entry.2 = true) :
    AreAlike (Json.ofMembers (own ++ fields)) (Json.ofMembers (fields ++ others)) := by
  have first : ∀ entry ∈ own ++ fields, Json.isReadable entry.2 = true :=
    fun entry mem => readable entry (List.mem_append_left _ mem)
  have second : ∀ entry ∈ fields ++ others, Json.isReadable entry.2 = true := by
    intro entry mem
    apply readable entry
    rw [List.append_assoc]
    exact List.mem_append_right _ mem
  have before := (entriesOf_beside are.distinct.1
    fun entry mem field among => (are.apart field among).1 entry mem).1
  have behind := (entriesOf_beside are.distinct.2
    fun entry mem field among => (are.apart field among).2 entry mem).2
  refine ⟨⟨isAscii_ofMembers first, isAscii_ofMembers second⟩, _, _, read?_ofMembers first,
    read?_ofMembers second, ?_⟩
  rw [images_append, images_append, before, behind]
  refine ⟨?_, ?_, ?_⟩
  · rcases are.stamped.1 with ⟨entry, mem, named⟩
    exact ⟨entry, List.mem_append_left _ mem, named⟩
  · rcases are.stamped.2 with ⟨entry, mem, named⟩
    exact ⟨entry, List.mem_append_right _ mem, named⟩
  · rw [List.filter_append, List.filter_append]
    exact (List.Perm.append_right _ are.same).trans List.perm_append_comm

end Entries

/-- The members that a formatter of a family makes of what it knows of a record without fields. -/
def Family.own (family : Family) (stamp : Stamp) (level : Level) (logger event : Text)
    (exception : Option Text) : Entries :=
  let level : Text × Value := (Text.ofString "level", .text level.word)
  let logger : Text × Value := (Text.ofString "logger", .text logger)
  let event : Text × Value := (Text.ofString "event", .text event)
  let failure : Entries :=
    (exception.map fun told => (Text.ofString "exception", .text told)).toList
  match family with
  | .plain => [(stampName, .text stamp.seconds), level, logger, event] ++ failure
  | .structured => [event, level, logger, (stampName, .text stamp.precise)] ++ failure

section Own

variable {level : Level} {logger event : Text} {exception : Option Text}

theorem readable_own (family : Family) (stamp : Stamp) :
    ∀ entry ∈ family.own stamp level logger event exception, Json.isReadable entry.2 = true := by
  cases family <;> cases exception <;> simp [Family.own, Json.isReadable]

theorem distinct_own (family : Family) (stamp : Stamp) :
    ((family.own stamp level logger event exception).images.map Prod.fst).Nodup := by
  cases family <;> cases exception <;>
    simp only [Family.own, Entries.images, Option.map_none, Option.map_some, Option.toList_none,
      Option.toList_some, List.cons_append, List.nil_append, List.map_cons, List.map_nil] <;>
    decide

/-- The own members of both families are the same but for the time stamps. -/
theorem perm_own (stamp later : Stamp) :
    ((Family.plain.own stamp level logger event exception).images.filter fun entry =>
        entry.1 ≠ stampName).Perm
      ((Family.structured.own later level logger event exception).images.filter fun entry =>
        entry.1 ≠ stampName) := by
  have stamps : stampName.joined = stampName := by decide
  have others : (Text.ofString "level").joined ≠ stampName ∧
      (Text.ofString "logger").joined ≠ stampName ∧ (Text.ofString "event").joined ≠ stampName ∧
      (Text.ofString "exception").joined ≠ stampName := by decide
  have swap : ∀ (one two three : Text × Value) (rest : Entries),
      ([one, two] ++ [three] ++ rest).Perm ([three] ++ [one, two] ++ rest) :=
    fun one two three rest => List.perm_append_comm.append_right rest
  cases exception with
  | none => simpa [Family.own, Entries.images, stamps, others] using swap _ _ _ []
  | some told => simpa [Family.own, Entries.images, stamps, others] using swap _ _ _ [_]

/-- The names of the own members. -/
def ownNames (exception : Option Text) : List String :=
  ["timestamp", "level", "logger", "event"] ++ (exception.map fun _ => "exception").toList

theorem name_own (family : Family) (stamp : Stamp) :
    ∀ entry ∈ (family.own stamp level logger event exception).images,
      ∃ name ∈ ownNames exception, entry.1 = Text.ofString name := by
  have same : ∀ name ∈ ["timestamp", "level", "logger", "event", "exception"],
      (Text.ofString name).joined = Text.ofString name := by decide
  simp only [List.forall_mem_cons] at same
  cases family <;> cases exception <;>
    simp [Family.own, Entries.images, ownNames, stampName, same]

theorem exists_stamp_own (family : Family) (stamp : Stamp) :
    ∃ entry ∈ (family.own stamp level logger event exception).images, entry.1 = stampName := by
  have same : stampName.joined = stampName := by decide
  cases family <;> simp [Family.own, Entries.images, same]

theorem areOwn_own (stamp later : Stamp) {fields : Entries}
    (apart : ∀ field ∈ fields, ∀ name ∈ ownNames exception, field.1.joined ≠ Text.ofString name) :
    Entries.AreOwn fields (Family.plain.own stamp level logger event exception)
      (Family.structured.own later level logger event exception) where
  distinct := ⟨distinct_own _ _, distinct_own _ _⟩
  stamped := ⟨exists_stamp_own _ _, exists_stamp_own _ _⟩
  same := perm_own stamp later
  apart := by
    have other : ∀ family stamp, ∀ field ∈ fields.images,
        ∀ entry ∈ (Family.own family stamp level logger event exception).images,
          entry.1 ≠ field.1 := by
      intro family stamp field mem entry own same
      rcases name_own family stamp entry own with ⟨name, among, named⟩
      rcases List.mem_map.mp mem with ⟨given, there, rfl⟩
      exact apart given there name among (same.symm.trans named)
    exact fun field mem => ⟨other .plain stamp field mem, other .structured later field mem⟩

/-- The lines of both families are alike, whatever fields stand beside the own members. -/
theorem areAlike_own (stamp later : Stamp) {fields : Entries}
    (readable : ∀ field ∈ fields, Json.isReadable field.2 = true)
    (apart : ∀ field ∈ fields, ∀ name ∈ ownNames exception, field.1.joined ≠ Text.ofString name) :
    AreAlike
      (Json.ofMembers (Family.plain.own stamp level logger event exception ++ fields))
      (Json.ofMembers (fields ++ Family.structured.own later level logger event exception)) := by
  apply (areOwn_own stamp later apart).areAlike
  intro entry mem
  rcases List.mem_append.mp mem with before | behind
  · rcases List.mem_append.mp before with own | field
    · exact readable_own _ _ entry own
    · exact readable entry field
  · exact readable_own _ _ entry behind

end Own

/-! ## Calls -/

/-- The call at another moment. -/
def Call.at (call : Call) (stamp : Stamp) : Call := { call with stamp }

variable {call : Call}

theorem Call.IsFree.plain (free : call.IsFree .structured) : call.IsFree .plain where
  shared := free.shared
  distinct := free.distinct
  free := by
    intro field mem name reserved
    apply free.free field mem name
    revert reserved name
    decide
  readable := free.readable

theorem Call.members_eq_own (call : Call) :
    call.members .plain
        = Family.plain.own call.stamp call.method.level call.loggerName call.event none
          ++ call.fields ∧
      call.members .structured
        = call.fields
          ++ Family.structured.own call.stamp call.method.level call.loggerName call.event none :=
  ⟨rfl, rfl⟩

theorem Call.IsFree.at {family : Family} (free : call.IsFree family) (stamp : Stamp) :
    (call.at stamp).IsFree family :=
  ⟨free.shared, free.distinct, free.free, free.readable⟩

/-- The lines of a call are alike. -/
theorem Call.IsFree.areAlike (free : call.IsFree .structured) (stamp later : Stamp) :
    AreAlike (Json.ofMembers ((call.at stamp).members .plain))
      (Json.ofMembers ((call.at later).members .structured)) := by
  rw [(call.at stamp).members_eq_own.1, (call.at later).members_eq_own.2]
  apply areAlike_own stamp later free.readable
  intro field mem name own same
  have all : ∀ name ∈ ownNames none, name ∈ Family.structured.reserved := by decide
  have reserved := all name own
  rw [← Call.joined_reserved name reserved] at same
  exact free.ne reserved mem (Call.eq_reserved_of_joined reserved same)

/-! ## Records of others -/

/-- A record that is made without a logger of this library. -/
def Record.foreign (level : Level) (logger message : Text) (exception : Option Text) : Record where
  level
  logger
  event := .text message
  exception

/-- The record of a template and its values; there is none where they do not suit each other. -/
def Record.filled? (level : Level) (logger template : Text) (values : List Value)
    (exception : Option Text) : Option Record :=
  (Template.fill template values).map fun message => foreign level logger message exception

theorem Record.members_foreign (level : Level) (logger message : Text) (exception : Option Text)
    (stamp : Stamp) :
    (Record.foreign level logger message exception).plainMembers stamp
        = Family.plain.own stamp level logger message exception ∧
      (Record.foreign level logger message exception).structuredMembers stamp
        = Family.structured.own stamp level logger message exception := by
  cases exception with
  | none => exact ⟨rfl, rfl⟩
  | some told => exact ⟨rfl, rfl⟩

/-! ## Logs of both families -/

/--
Whether two logs make lines of two records that are alike, or none of either. Each writes its line
to the destination and changes nothing else.
-/
def ReportAlike (destination : Destination) (one two : Log) (first second : Record) : Prop :=
  ∀ (stamp later : Stamp) (output other : Output),
    (one.isEnabledFor first.level = false ∧
      one.emit stamp output first = output ∧ two.emit later other second = other) ∨
    one.isEnabledFor first.level = true ∧ ∃ line another, AreAlike line another ∧
      one.emit stamp output first = output.write destination line ∧
      two.emit later other second = other.write destination another

variable {log : Log} {destination : Destination} {format : Format} {number : Nat} {record : Record}

/-- A record is written by the handler of this library alone. -/
theorem emit_of_managed
    (managed : log.handlers.filter Handler.isManaged = [.managed number destination format])
    (enabled : log.isEnabledFor record.level = true) {stamp : Stamp} {line : Text}
    (rendered : format.render? stamp record = some line) (output : Output) :
    log.emit stamp output record = output.write destination line := by
  rw [emit, if_pos enabled]
  split
  · rename_i none
    simp [none] at managed
  · rw [foldl_handle_managed, managed]
    simp only [List.foldl_cons, List.foldl_nil, Handler.handle, rendered, Option.elim_some]

theorem emit_of_disabled (disabled : log.isEnabledFor record.level = false) (stamp : Stamp)
    (output : Output) : log.emit stamp output record = output := by
  rw [emit, if_neg (by simp [disabled])]

/-- A log whose one handler of this library writes JSON for the loggers of a family. -/
structure WritesJson (log : Log) (family : Family) (destination : Destination) : Prop where
  managed : ∃ number,
    log.handlers.filter Handler.isManaged = [.managed number destination ⟨family, .json⟩]
  loggers : log.loggers = family

/-- Records whose lines are alike are reported alike by logs of the same level. -/
theorem WritesJson.reportAlike {one two : Log} {first second : Record}
    (plain : one.WritesJson .plain destination)
    (structured : two.WritesJson .structured destination)
    (level : one.level = two.level) (severity : first.level = second.level)
    (alike : ∀ stamp later, ∃ line another, AreAlike line another ∧
      Format.render? ⟨.plain, .json⟩ stamp first = some line ∧
      Format.render? ⟨.structured, .json⟩ later second = some another) :
    ReportAlike destination one two first second := by
  intro stamp later output other
  have same : two.isEnabledFor second.level = one.isEnabledFor first.level := by
    simp only [isEnabledFor, level, severity]
  cases enabled : one.isEnabledFor first.level with
  | false =>
      left
      rw [enabled] at same
      exact ⟨rfl, emit_of_disabled enabled stamp output, emit_of_disabled same later other⟩
  | true =>
      right
      rw [enabled] at same
      rcases plain.managed with ⟨number, plainHandler⟩
      rcases structured.managed with ⟨next, structuredHandler⟩
      rcases alike stamp later with ⟨line, another, areAlike, rendered, alsoRendered⟩
      exact ⟨rfl, line, another, areAlike, emit_of_managed plainHandler enabled rendered output,
        emit_of_managed structuredHandler same alsoRendered other⟩

namespace WritesJson

variable {one two : Log}

theorem reportAlike_call (plain : one.WritesJson .plain destination)
    (structured : two.WritesJson .structured destination) (level : one.level = two.level)
    {call : Call} (free : call.IsFree .structured) :
    ∃ first second, call.request one = .ok first ∧ call.request two = .ok second ∧
      ReportAlike destination one two first second := by
  have first : call.request one = .ok (call.record .plain) := by
    rw [← plain.loggers]
    apply Call.request_of_isFree
    rw [plain.loggers]
    exact free.plain
  have second : call.request two = .ok (call.record .structured) := by
    rw [← structured.loggers]
    apply Call.request_of_isFree
    rw [structured.loggers]
    exact free
  refine ⟨_, _, first, second, plain.reportAlike structured level rfl ?_⟩
  intro stamp later
  refine ⟨_, _, free.areAlike stamp later, ?_, ?_⟩
  · exact Call.render?_of_isFree (free.plain.at stamp)
  · exact Call.render?_of_isFree (free.at later)

theorem reportAlike_foreign (plain : one.WritesJson .plain destination)
    (structured : two.WritesJson .structured destination) (level : one.level = two.level)
    (severity : Level) (logger message : Text) (exception : Option Text) :
    let record := Record.foreign severity logger message exception
    ReportAlike destination one two record record := by
  intro record
  apply plain.reportAlike structured level rfl
  intro stamp later
  have members := fun stamp => Record.members_foreign severity logger message exception stamp
  have alike := @areAlike_own severity logger message exception stamp later [] (by simp) (by simp)
  rw [List.append_nil, List.nil_append] at alike
  refine ⟨_, _, alike, ?_, ?_⟩
  · rw [← Json.ofMembers?_of_readable (readable_own _ _), ← (members stamp).1]
    rfl
  · rw [← Json.ofMembers?_of_readable (readable_own _ _), ← (members later).2]
    rfl

end WritesJson

/-- The name of a family in settings. -/
def Family.settingName : Family → Text
  | .plain => Text.ofString "stdlib"
  | .structured => Text.ofString "structlog"

/-- What a log becomes that is set up for a family, the other settings being as given. -/
def setupFor (log : Log) (directory : Directory) (settings : Settings) (family : Family) : Setup :=
  log.setup directory (settings.set .logFormatter (.text family.settingName))

theorem format_of_family {settings : Settings} (json : Layout.ofSetting settings.logFormat = .json)
    (family : Family) :
    Format.ofSettings (settings.set .logFormatter (.text family.settingName))
      = .ok ⟨family, .json⟩ := by
  have named : Family.ofSetting (.text family.settingName) = .ok family := by
    cases family <;> rfl
  simp only [Format.ofSettings, Settings.set, named, json, Except.map]

/-- A log can be set up for one family if and only if it can be for the other. -/
theorem setupFor_cases {settings : Settings} (json : Layout.ofSetting settings.logFormat = .json)
    (log : Log) (directory : Directory) :
    (∃ fault, ∀ family, (log.setupFor directory settings family).result = .error fault) ∨
      ∃ destination level, ∀ family,
        (log.setupFor directory settings family).result
            = .ok (.managed log.made destination ⟨family, .json⟩) ∧
          (log.setupFor directory settings family).log.WritesJson family destination ∧
          (log.setupFor directory settings family).log.level = level := by
  cases opened : Destination.ofSettings directory settings with
  | mk after outcome =>
      have same : ∀ family, Destination.ofSettings directory
          (settings.set .logFormatter (.text (Family.settingName family))) = (after, outcome) :=
        fun family => opened
      cases outcome with
      | error fault =>
          left
          exists fault
          intro family
          simp only [setupFor, setup, format_of_family json, same]
      | ok destination =>
          have levels : ∀ family, Level.ofSetting
              (settings.set .logFormatter (.text (Family.settingName family))).logLevel
                = Level.ofSetting settings.logLevel := fun family => rfl
          cases named : Level.ofSetting settings.logLevel with
          | error fault =>
              left
              exists fault
              intro family
              simp only [setupFor, setup, format_of_family json, same, levels, named]
          | ok level =>
              right
              refine ⟨destination, level, fun family => ?_⟩
              simp only [setupFor, setup, format_of_family json, same, levels, named, true_and,
                and_true]
              exact ⟨⟨_, managed_replaceManaged log destination _⟩, rfl⟩

/--
A log is set up to write JSON for loggers of both families with the same success. Then, whatever its
level is made, a call that is free for both families asks for a record of each, and the two are
reported alike; and so is a record of others whose message takes its values, with a failure or
without.
-/
theorem families_report_alike {settings : Settings}
    (json : Layout.ofSetting settings.logFormat = .json) (log : Log) (directory : Directory) :
    let setup := log.setupFor directory settings
    (∃ fault, ∀ family, (setup family).result = .error fault) ∨
      ∃ destination,
        (∀ family, ∃ number,
          (setup family).result = .ok (.managed number destination ⟨family, .json⟩)) ∧
        (setup .plain).log.level = (setup .structured).log.level ∧
        ∀ level : Level,
          let one : Log := { (setup .plain).log with level }
          let two : Log := { (setup .structured).log with level }
          (∀ call : Call, call.IsFree .structured →
            ∃ first second, call.request one = .ok first ∧ call.request two = .ok second ∧
              ReportAlike destination one two first second) ∧
          ∀ (severity : Level) (logger template : Text) (values : List Value)
            (exception : Option Text) (record : Record),
            Record.filled? severity logger template values exception = some record →
              ReportAlike destination one two record record := by
  intro setup
  rcases setupFor_cases json log directory with refused | ⟨destination, least, made⟩
  · exact .inl refused
  · right
    refine ⟨destination, fun family => ⟨_, (made family).1⟩, ?_, ?_⟩
    · rw [(made .plain).2.2, (made .structured).2.2]
    · intro level one two
      have plain : one.WritesJson .plain destination :=
        ⟨(made .plain).2.1.managed, (made .plain).2.1.loggers⟩
      have structured : two.WritesJson .structured destination :=
        ⟨(made .structured).2.1.managed, (made .structured).2.1.loggers⟩
      constructor
      · exact fun call free => plain.reportAlike_call structured rfl free
      · intro severity logger template values exception record filled
        rcases Option.map_eq_some_iff.mp filled with ⟨message, -, rfl⟩
        exact plain.reportAlike_foreign structured rfl severity logger message exception

/--
A call with bytes in a list, and a record with a number in its message, under default settings.
-/
theorem families_report_alike_on_stderr :
    let one := (({} : Log).setupFor {} {} .plain).log
    let two := (({} : Log).setupFor {} {} .structured).log
    let call := note .warning (.list [.none, .bytes .constant [0]])
    let record := Record.foreign .error (Text.ofString "root") (Text.ofString "7%")
      (some (Text.ofString "ValueError: bad"))
    ReportAlike .stderr one two (call.record .plain) (call.record .structured) ∧
      Record.filled? .error (Text.ofString "root") (Text.ofString "%d%%") [.int 7]
        (some (Text.ofString "ValueError: bad")) = some record ∧
      ReportAlike .stderr one two record record := by
  intro one two call record
  rcases @families_report_alike {} rfl {} {} with ⟨fault, refused⟩ | ⟨destination, made, -, all⟩
  · cases refused .plain
  · rcases made .plain with ⟨number, same⟩
    cases same
    rcases all .info with ⟨calls, records⟩
    have free : call.IsFree .structured := isFree_note (by decide) rfl .structured
    rcases calls call free with ⟨first, second, firstAsked, secondAsked, alike⟩
    rw [Call.request_of_isFree free.plain] at firstAsked
    rw [Call.request_of_isFree free] at secondAsked
    cases firstAsked
    cases secondAsked
    have filled : Record.filled? .error (Text.ofString "root") (Text.ofString "%d%%") [.int 7]
        (some (Text.ofString "ValueError: bad")) = some record := by rfl
    exact ⟨alike, filled, records _ _ _ _ _ record filled⟩

end Log

end IndexWire
