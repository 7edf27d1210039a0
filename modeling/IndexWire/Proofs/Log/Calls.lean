import IndexWire.Proofs.Log.Members
import IndexWire.Proofs.Text.Decoding

/-!
# What a log line carries

A call asks a logger for a record. Its JSON line has the event, the level, the name of the logger
and the fields as the members of one object, and a time stamp beside them. A plain formatter puts
the fields last, a structured one puts them first. Names that a logger needs for itself are
reserved; any other field is found again under its name.
-/

namespace IndexWire

namespace Json

theorem IsAscii.isClean {text : Text} (ascii : IsAscii text) : text.IsClean := by
  intro point mem
  have bounds := ascii point mem
  simp only [CodePoint.isSurrogate, Bool.and_eq_false_iff, decide_eq_false_iff_not]
  omega

/-- Printable ASCII is its own encoding. -/
theorem IsAscii.encodePoints {text : Text} (ascii : IsAscii text) :
    ∀ byte ∈ Utf8.encodePoints text, 0x20 ≤ byte.toNat ∧ byte.toNat < 0x7F := by
  intro byte mem
  rcases List.mem_flatMap.mp mem with ⟨point, among, single⟩
  have bounds := ascii point among
  rw [Utf8.encodePoint, if_pos (by omega), List.mem_singleton] at single
  rw [single, Utf8.toNat_ofNat_of_lt (by omega)]
  exact bounds

end Json

namespace Log

namespace Entries

/-- Entries with new names of their own come after those that are there. -/
theorem putAll_of_new {entries further : Entries} (distinct : (further.map Prod.fst).Nodup)
    (new : ∀ entry ∈ entries, ∀ other ∈ further, entry.1 ≠ other.1) :
    entries.putAll further = entries ++ further := by
  induction further generalizing entries with
  | nil => exact (List.append_nil entries).symm
  | cons entry further ih =>
      rw [List.map_cons, List.nodup_cons] at distinct
      have next : entries.putAll (entry :: further) = (entries ++ [entry]).putAll further := by
        rw [putAll, List.foldl_cons,
          putEntry_of_new fun other mem => new other mem entry List.mem_cons_self]
        rfl
      rw [next, ih distinct.2, List.append_assoc]
      · rfl
      · intro other mem later among
        rcases List.mem_append.mp mem with old | added
        · exact new other old later (List.mem_cons_of_mem _ among)
        · rw [List.mem_singleton.mp added]
          intro same
          apply distinct.1
          rw [same]
          exact List.mem_map_of_mem among

theorem putAll_of_nodup {entries further : Entries}
    (distinct : ((entries ++ further).map Prod.fst).Nodup) :
    entries.putAll further = entries ++ further := by
  rw [List.map_append, List.nodup_append] at distinct
  apply putAll_of_new distinct.2.1
  intro entry mem other among
  exact distinct.2.2 _ (List.mem_map_of_mem mem) _ (List.mem_map_of_mem among)

theorem without_eq_self {entries : Entries} {names : List String}
    (apart : ∀ entry ∈ entries, ∀ name ∈ names, entry.1 ≠ Text.ofString name) :
    entries.without names = entries := by
  rw [without, List.filter_eq_self]
  intro entry mem
  simp only [Bool.not_eq_true', List.any_eq_false, Text.is, beq_iff_eq]
  exact fun name among => apart entry mem name among

end Entries

/-- A call of a logger with an event and fields. -/
structure Call where
  /-- The moment of the call. -/
  stamp : Stamp
  method : Method
  /-- The name by which the logger is asked for. -/
  logger : Text
  event : Text
  fields : List (Text × Value)

/-- The names that the loggers of a family and the lines of their records need for themselves. -/
def Family.reserved : Family → List String
  | .plain => ["self", "event", "timestamp", "level", "logger"]
  | .structured =>
    ["self", "event", "timestamp", "level", "logger", "method_name", "exc_info", "_record",
      "_from_structlog"]

namespace Call

/-- The name that the logger of a call bears. -/
def loggerName (call : Call) : Text :=
  if call.logger.isEmpty then Text.ofString "root" else call.logger

/-- The record that a call asks for. -/
def request (call : Call) (log : Log) : Except Fault Record := do
  let logger ← Record.loggerName (.text call.logger)
  let method ← log.request (Text.ofString call.method.name) logger
  method (.text call.event) call.fields

/-- The record of a call of a logger of a family. -/
def record (family : Family) (call : Call) : Record where
  level := call.method.level
  logger := call.loggerName
  event := .text call.event
  fields := call.fields
  family := family

/--
Whether a call is one of those that loggers of both families have, with fields of its own that have
distinct names and readable values.
-/
structure IsFree (family : Family) (call : Call) : Prop where
  shared : (call.method.name, call.method) ∈ Family.sharedMethods
  distinct : (call.fields.map Prod.fst).Nodup
  free : ∀ field ∈ call.fields, ∀ name ∈ family.reserved, field.1 ≠ Text.ofString name
  readable : ∀ field ∈ call.fields, Json.isReadable field.2 = true

variable {call : Call} {family : Family} {log : Log}

theorem IsFree.ne {name : String} (free : call.IsFree family) (reserved : name ∈ family.reserved)
    {field : Text × Value} (mem : field ∈ call.fields) : field.1 ≠ Text.ofString name :=
  free.free field mem name reserved

theorem IsFree.takenField? (free : call.IsFree family) :
    family.takenField? call.method call.fields = none := by
  have unnamed : ∀ names : List String, (∀ name ∈ names, name ∈ family.reserved) →
      (call.fields.find? fun field => names.any field.1.is) = none := by
    intro names all
    rw [List.find?_eq_none]
    intro field mem
    simp only [Bool.not_eq_true, List.any_eq_false, Text.is, beq_iff_eq]
    exact fun name among => free.ne (all name among) mem
  have both := unnamed ["self", "event"] (by cases family <;> decide)
  cases family with
  | plain => simp only [Family.takenField?, both, Option.map_none]
  | structured =>
      have method := unnamed ["method_name"] (by decide)
      simp only [Family.takenField?, both, method, Option.map_none]

theorem IsFree.get?_eq_none (free : call.IsFree family) {name : String}
    (reserved : name ∈ family.reserved) : Entries.get? call.fields name = none := by
  simp only [Entries.get?, Option.map_eq_none_iff, List.find?_eq_none, Text.is, beq_iff_eq]
  exact fun field mem => free.ne reserved mem

theorem IsFree.misplaced? (free : call.IsFree family) :
    family.misplaced? call.fields = none := by
  cases family with
  | plain => rfl
  | structured =>
      have absent := free.get?_eq_none (by decide : "_record" ∈ _)
      simp only [Family.misplaced?, absent]

theorem request_of_isFree (free : call.IsFree log.loggers) :
    call.request log = .ok (call.record log.loggers) := by
  have named : Record.loggerName (.text call.logger) = .ok call.loggerName := by
    cases empty : call.logger.isEmpty <;>
      simp [Record.loggerName, Value.isTruthy, loggerName, empty, Value.text?]
  have ordinary : call.method ≠ .exception := by
    have shared := free.shared
    rintro same
    rw [same] at shared
    revert shared
    decide
  have found : log.request (Text.ofString call.method.name) call.loggerName
      = .ok (log.recordOf call.method call.loggerName) := by
    have known : log.loggers.method? (Text.ofString call.method.name) = some call.method := by
      have shared := free.shared
      simp only [Family.sharedMethods, List.mem_cons, Prod.mk.injEq, List.not_mem_nil,
        or_false] at shared
      rcases shared with ⟨-, same⟩ | ⟨-, same⟩ | ⟨-, same⟩ | ⟨-, same⟩ <;>
        rw [same] <;> cases log.loggers <;> rfl
    rw [Log.request, known]
  have complete : call.method.complete call.fields = call.fields :=
    if_neg fun both => ordinary both.1
  simp only [request, named, found, bind, Except.bind, recordOf, free.takenField?,
    free.misplaced?, complete, if_neg ordinary]
  rfl

/-- The members of the JSON object of a call. -/
def members (family : Family) (call : Call) : List (Text × Value) :=
  let level : Text × Value := (Text.ofString "level", .text call.method.level.word)
  let logger : Text × Value := (Text.ofString "logger", .text call.loggerName)
  let event : Text × Value := (Text.ofString "event", .text call.event)
  match family with
  | .plain =>
    [(Text.ofString "timestamp", .text call.stamp.seconds), level, logger, event] ++ call.fields
  | .structured =>
    call.fields ++
      [event, level, logger, (Text.ofString "timestamp", .text call.stamp.precise)]

theorem mem_members {family : Family} {entry : Text × Value} (mem : entry ∈ call.members family) :
    entry ∈ call.fields ∨ ∃ content, entry.2 = .text content := by
  cases family with
  | plain =>
      rcases List.mem_append.mp mem with own | field
      · right
        simp only [List.mem_cons, List.not_mem_nil, or_false] at own
        rcases own with rfl | rfl | rfl | rfl <;> exact ⟨_, rfl⟩
      · exact Or.inl field
  | structured =>
      rcases List.mem_append.mp mem with field | own
      · exact Or.inl field
      · right
        simp only [List.mem_cons, List.not_mem_nil, or_false] at own
        rcases own with rfl | rfl | rfl | rfl <;> exact ⟨_, rfl⟩

theorem IsFree.readable_members (free : call.IsFree family) :
    ∀ entry ∈ call.members family, Json.isReadable entry.2 = true := by
  intro entry mem
  rcases mem_members mem with field | ⟨content, text⟩
  · exact free.readable entry field
  · rw [text]
    rfl

theorem IsFree.distinct_members (free : call.IsFree family) :
    ((call.members family).map Prod.fst).Nodup := by
  have apart : ∀ name ∈ family.reserved, Text.ofString name ∉ call.fields.map Prod.fst := by
    intro name reserved mem
    rcases List.mem_map.mp mem with ⟨field, among, same⟩
    exact free.ne reserved among same
  cases family with
  | plain =>
      simp only [members, List.map_append, List.map_cons, List.map_nil]
      rw [List.nodup_append]
      refine ⟨by decide, free.distinct, ?_⟩
      rintro name own other mem rfl
      simp only [List.mem_cons, List.not_mem_nil, or_false] at own
      rcases own with rfl | rfl | rfl | rfl <;> exact apart _ (by decide) mem
  | structured =>
      simp only [members, List.map_append, List.map_cons, List.map_nil]
      rw [List.nodup_append]
      refine ⟨free.distinct, by decide, ?_⟩
      rintro name mem other own rfl
      simp only [List.mem_cons, List.not_mem_nil, or_false] at own
      rcases own with rfl | rfl | rfl | rfl <;> exact apart _ (by decide) mem

/-- A JSON formatter of the family of the loggers writes the members of a call. -/
theorem render?_of_isFree (free : call.IsFree family) :
    Format.render? ⟨family, .json⟩ call.stamp (call.record family)
      = some (Json.ofMembers (call.members family)) := by
  rw [← Json.ofMembers?_of_readable free.readable_members]
  have distinct := free.distinct_members
  cases family with
  | plain => exact congrArg Json.ofMembers? (Entries.putAll_of_nodup distinct)
  | structured =>
      have kept : Entries.without call.fields ["exc_info"] = call.fields := by
        apply Entries.without_eq_self
        intro field mem name among
        rw [List.mem_singleton.mp among]
        exact free.ne (by decide) mem
      have own : Entries.without (call.members .structured) ["_record", "_from_structlog"]
          = call.members .structured := by
        apply Entries.without_eq_self
        intro entry mem name among
        rcases List.mem_append.mp mem with field | mem
        · exact free.ne (by revert name; decide) field
        · have apart : ∀ taken ∈ ["event", "level", "logger", "timestamp"],
              ∀ name ∈ ["_record", "_from_structlog"],
                Text.ofString taken ≠ Text.ofString name := by decide
          simp only [List.mem_cons, List.not_mem_nil, or_false] at mem
          rcases mem with rfl | rfl | rfl | rfl <;> exact apart _ (by decide) name among
      have unset : (Entries.get? call.fields "exc_info").any Value.isTruthy = false := by
        rw [free.get?_eq_none (by decide)]
        rfl
      simp only [Format.render?, Record.structuredMembers, Record.entries, record, kept,
        Record.structuredException, unset, Bool.false_eq_true, if_false, Entries.putException]
      refine congrArg Json.ofMembers? (Eq.trans ?_ own)
      exact congrArg (Entries.without · _) (Entries.putAll_of_nodup distinct)

/--
Whether an object has what a call tells. Texts are there as they are once each pair of surrogates in
them is one code point, and of fields whose names are the same then, the last one is there.
-/
structure IsCarried (call : Call) (object : Value) : Prop where
  event : object.member? (Text.ofString "event") = some (.text call.event.joined)
  level : object.member? (Text.ofString "level") = some (.text call.method.level.word)
  logger : object.member? (Text.ofString "logger") = some (.text call.loggerName.joined)
  fields : ∀ earlier name value later, call.fields = earlier ++ (name, value) :: later →
    (∀ other ∈ later, other.1.joined ≠ name.joined) →
    object.member? name.joined = some (Json.image value)

theorem joined_reserved : ∀ name ∈ family.reserved,
    (Text.ofString name).joined = Text.ofString name := by
  cases family <;> decide

/-- No other name falls together with a reserved one when it is joined. -/
theorem eq_reserved_of_joined {name : String} (reserved : name ∈ family.reserved) {other : Text}
    (same : other.joined = (Text.ofString name).joined) : other = Text.ofString name := by
  have basic : ∀ name ∈ family.reserved, ∀ point ∈ Text.ofString name, point.value < 0x10000 := by
    cases family <;> decide
  rw [joined_reserved name reserved] at same
  exact Text.eq_of_joined (basic name reserved) same

theorem IsFree.member?_reserved (free : call.IsFree family) {name : String} {content : Text}
    (reserved : name ∈ family.reserved)
    (mem : (Text.ofString name, .text content) ∈ call.members family) :
    (Json.image (.dict (Value.ofNamed (call.members family)))).member? (Text.ofString name)
      = some (.text content.joined) := by
  have distinct := free.distinct_members
  rcases List.append_of_mem mem with ⟨earlier, later, split⟩
  rw [split, List.map_append, List.map_cons, List.nodup_append, List.nodup_cons] at distinct
  have others : ∀ other ∈ later, other.1.joined ≠ (Text.ofString name).joined := by
    intro other among same
    apply distinct.2.1.1
    show Text.ofString name ∈ later.map Prod.fst
    rw [← eq_reserved_of_joined reserved same]
    exact List.mem_map_of_mem among
  have found := Json.member?_image split others
  rwa [joined_reserved name reserved] at found

theorem IsFree.isCarried (free : call.IsFree family) :
    call.IsCarried (Json.image (.dict (Value.ofNamed (call.members family)))) := by
  constructor
  case event =>
    apply free.member?_reserved
    · cases family <;> decide
    · cases family <;> simp [members]
  case level =>
    have basic : call.method.level.word.joined = call.method.level.word := by
      cases call.method <;> rfl
    rw [← basic]
    apply free.member?_reserved
    · cases family <;> decide
    · cases family <;> simp [members]
  case logger =>
    apply free.member?_reserved
    · cases family <;> decide
    · cases family <;> simp [members]
  case fields =>
    intro earlier name value later split others
    cases family with
    | plain =>
        have all : call.members .plain
            = ((call.members .plain).take 4 ++ earlier) ++ (name, value) :: later := by
          simp [members, split]
        exact Json.member?_image all others
    | structured =>
        have all : call.members .structured
            = earlier ++ (name, value) :: (later ++ (call.members .structured).drop
              call.fields.length) := by
          simp [members, split]
        apply Json.member?_image all
        intro other mem
        rcases List.mem_append.mp mem with field | own
        · exact others other field
        · have mem : (name, value) ∈ call.fields := by simp [split]
          have apart : ∀ taken ∈ Family.structured.reserved,
              (Text.ofString taken).joined ≠ name.joined :=
            fun taken among same => free.ne among mem (eq_reserved_of_joined among same.symm)
          simp only [members, List.drop_left, List.mem_cons, List.not_mem_nil, or_false] at own
          rcases own with rfl | rfl | rfl | rfl <;> exact apart _ (by decide)

/-- Whether a line is in printable ASCII, and reads as an object that has what a call tells. -/
structure IsIn (call : Call) (line : Bytes) : Prop where
  ascii : ∀ byte ∈ line, 0x20 ≤ byte.toNat ∧ byte.toNat < 0x7F
  object : ∃ text entries, Utf8.decode line = .ok text ∧
    Json.read? text = some (.dict entries, []) ∧ call.IsCarried (.dict entries)

/-- The line of a call is written as printable ASCII with a line feed after it. -/
theorem exists_line (free : call.IsFree family) :
    ∃ line, encodeText .strict (Json.ofMembers (call.members family) ++ Text.ofString "\n")
      = .ok (line ++ [0x0A]) ∧ call.IsIn line := by
  let object : Value := .dict (Value.ofNamed (call.members family))
  let text := Json.ofMembers (call.members family)
  have spelled : text = Json.ofValue object := Json.ofMembers_eq _
  have readable : Json.isReadable object = true :=
    Json.membersAreReadable_ofNamed free.readable_members
  have ascii : Json.IsAscii text := spelled ▸ Json.isAscii_ofValue object readable
  have clean : text.IsClean := ascii.isClean
  have bytes : ∀ ended : Text, ended.IsClean →
      encodeText .strict ended = .ok (Utf8.encodePoints ended) := by
    intro ended isClean
    rw [encodeText, Utf8.encode_strict_of_isClean isClean, Utf8.replaced,
      Text.withoutSurrogates_eq_repair, Text.repair_of_isClean isClean]
    rfl
  refine ⟨Utf8.encodePoints text, ?_, ?_⟩
  · rw [bytes _ (clean.append (Text.isClean_ofString "\n")), Utf8.encodePoints, List.flatMap_append]
    rfl
  · constructor
    case ascii => exact ascii.encodePoints
    case object =>
      refine ⟨text, _, Utf8.decodeFrom_encodePoints 0 clean, ?_, free.isCarried⟩
      rw [spelled, Json.read?_ofValue readable]
      rfl

end Call

end Log

end IndexWire
