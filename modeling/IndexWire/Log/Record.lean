import IndexWire.Log.Stamp
import IndexWire.Notice
import IndexWire.Text.Letter
import IndexWire.Value.Json

/-!
# Log records

What a logger is asked to log. There are two families of loggers: a plain one keeps the fields of an
event beside its message, and a structured one puts everything that is known of the event into one
dictionary, `Record.entries`, before it is formatted.
-/

namespace IndexWire

namespace Level

def word (level : Level) : Text := level.name.lower

/--
The level of a name in settings, in letters of either case. A name that is not known stands for
ordinary work. Two names are no levels, but are not free either, and are refused.
-/
def ofName (name : Text) : Except Fault Level :=
  let name := name.upper
  if name.is "DEBUG" then .ok debug
  else if name.is "INFO" then .ok info
  else if name.is "WARN" || name.is "WARNING" then .ok warning
  else if name.is "ERROR" then .ok error
  else if name.is "CRITICAL" || name.is "FATAL" then .ok critical
  else if name.is "NOTSET" then .ok 0
  else if name.is "BASIC_FORMAT" then
    .error (.unknownLevel (Text.ofString "%(levelname)s:%(name)s:%(message)s"))
  else if name.is "_STYLES" then .error .levelNotNumber
  else .ok info

/-- The level that a setting names, which has to be a text. -/
def ofSetting (setting : Value) : Except Fault Level :=
  match setting.text? with
  | some name => ofName name
  | none => .error (.noAttribute setting.kind.name (Text.ofString "upper"))

end Level

namespace Log

inductive Family where
  /-- Events are dictionaries. -/
  | structured
  /-- Events are messages with fields beside them. -/
  | plain
deriving DecidableEq

structure Record where
  level : Level
  logger : Text
  /-- What happened; most often a text. -/
  event : Value
  /-- What is known of it, each under a name of its own. -/
  fields : List (Text × Value) := []
  /-- The failure that is reported with it. -/
  exception : Option Text := none
  family : Family := .plain

/-- Named values in order. -/
abbrev Entries := List (Text × Value)

namespace Entries

/-- The entries with a value under a name; a name that is there keeps its place. -/
def put (entries : Entries) (name : String) (value : Value) : Entries :=
  putEntry (fun left right => left = right) entries (Text.ofString name) value

def putAll (entries further : Entries) : Entries :=
  further.foldl
    (fun entries entry => putEntry (fun left right => left = right) entries entry.1 entry.2) entries

/-- The entries with a failure, if there is one. -/
def putException (entries : Entries) (exception : Option Text) : Entries :=
  match exception with
  | some exception => entries.put "exception" (.text exception)
  | none => entries

def get? (entries : Entries) (name : String) : Option Value :=
  (entries.find? fun entry => entry.1.is name).map Prod.snd

/-- The entries without those under the given names. -/
def without (entries : Entries) (names : List String) : Entries :=
  entries.filter fun entry => !names.any fun name => entry.1.is name

end Entries

namespace Record

/-- The kinds of failure that tell where a text is malformed, and never go without a message. -/
def malformedNames : List String := ["SyntaxError", "IndentationError", "TabError"]

/-- The text of a failure of a kind, with its own message if it has one. -/
def exceptionText (name message : Text) : Text :=
  let wording :=
    if message.isEmpty && malformedNames.any name.is then Text.ofString "<no detail available>"
    else Fault.deviceMessage name message
  if wording.isEmpty then name else name ++ Text.ofString ": " ++ wording

/--
The name that the logger of a name bears. Whatever is empty or nothing names the root of all; else a
name has to be a text.
-/
def loggerName (name : Value) : Except Fault Text :=
  if !name.isTruthy then .ok (Text.ofString "root")
  else name.text?.elim (.error .loggerNameNotText) .ok

/-- The text of the failure at hand where there is none. -/
def noFailure : Text := Text.ofString "NoneType: None"

def ofNotice (notice : Notice) : Record where
  level := notice.level
  logger := notice.logger
  event := .text notice.message

/--
The failure that a structured formatter reports. Of a structured event it is asked for by a field
`exc_info` that is something; there is none at hand then.
-/
def structuredException (record : Record) : Option Text :=
  match record.family with
  | .structured =>
    if (Entries.get? record.fields "exc_info").any Value.isTruthy then
      some (Text.ofString "MISSING")
    else none
  | .plain => record.exception

/--
Everything that is known of an event, as a structured formatter takes it. The fields of a plain
record are not among it.
-/
def entries (stamp : Stamp) (record : Record) : Entries :=
  let start : Entries :=
    match record.family, record.event with
    | .structured, .none => Entries.without record.fields ["exc_info"]
    | .structured, event => (Entries.without record.fields ["exc_info"]).put "event" event
    | .plain, event => Entries.put [] "event" (.text event.shown)
  let named :=
    ((start.put "level" (.text record.level.word)).put "logger" (.text record.logger)).put
      "timestamp" (.text stamp.precise)
  named.putException record.structuredException

/-- The message of a record: a structured event is shown as the dictionary that it is. -/
def message (stamp : Stamp) (record : Record) : Text :=
  match record.family with
  | .plain => record.event.shown
  | .structured =>
    Value.literal (.dict ((record.entries stamp).map fun entry => (.text entry.1, entry.2)))

/-- A line with the failure of a record below it. -/
def below (record : Record) (line : Text) : Text :=
  match record.exception with
  | some exception =>
    if line.getLast?.any (·.is '\n') then line ++ exception
    else line ++ Text.ofString "\n" ++ exception
  | none => line

end Record

end Log

end IndexWire
