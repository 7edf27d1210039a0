import IndexWire.Log.Record
import IndexWire.Settings.Basic
import IndexWire.Value.Key

/-!
# Log formats

How a record becomes text. A format is of one of the two families and of one of two layouts: a JSON
object on one line, or a line for people to read.
-/

namespace IndexWire

namespace Log

namespace Family

/-- The family that a setting names. -/
def ofSetting (setting : Value) : Except Fault Family :=
  match setting.keyFault? with
  | some fault => .error fault
  | none =>
    if setting.isText "structlog" then .ok .structured
    else if setting.isText "stdlib" then .ok .plain
    else .error (.unknownFormatter setting.literal)

end Family

inductive Layout where
  | json
  | console
deriving DecidableEq

/-- The layout that a setting names; whatever is not known stands for JSON. -/
def Layout.ofSetting (setting : Value) : Layout :=
  if setting.isText "console" then .console else .json

structure Format where
  family : Family
  layout : Layout
deriving DecidableEq

namespace Console

def bracketed (text : Text) : Text := Text.ofString "[" ++ text ++ Text.ofString "]"

/-- The value of a field: a text goes without quotes. -/
def fieldText : Value → Text
  | .text content => content
  | other => other.literal

/-- The names of the entries that have columns of their own, or stand below the line. -/
def ownNames : List String :=
  ["timestamp", "level", "event", "logger", "logger_name", "stack", "exception", "exc_info"]

/-- The columns of the entries that every event has, and of those with a fixed place. -/
def columns (entries : Entries) : List Text :=
  let column (name : String) (spelling : Value → Text) : List Text :=
    ((entries.get? name).map spelling).toList
  column "timestamp" Value.shown
    ++ column "level" (fun value => bracketed (value.shown.padRight 9))
    ++ column "event" (fun value => value.shown.padRight 30)
    ++ column "logger" (fun value => bracketed value.shown)
    ++ column "logger_name" (fun value => bracketed value.shown)

/-- The other entries in the order of their names. -/
def fields (entries : Entries) : List Text :=
  ((entries.without ownNames).mergeSort fun left right => left.1.comesFirst right.1).map
    fun entry => entry.1 ++ Text.ofString "=" ++ fieldText entry.2

/-- What an entry puts below the line; none is put there by what is neither nothing nor a text. -/
def belowText? (entries : Entries) (name : String) : Option (Option Text) :=
  match (entries.get? name).getD .none with
  | .none => some none
  | .text content => some (some content)
  | _ => none

/-- What stands below the line: a stack, a failure, or both with a rule between them. -/
def trailer (stack exception : Option Text) : Text :=
  let lineFeed := Text.ofString "\n"
  match stack, exception with
  | none, none => []
  | some stack, none => lineFeed ++ stack
  | none, some exception => lineFeed ++ exception
  | some stack, some exception =>
    lineFeed ++ stack ++ lineFeed ++ lineFeed ++ List.replicate 79 (CodePoint.ofChar '=')
      ++ lineFeed ++ lineFeed ++ exception

/-- The line of an event, if what stands below it is made of texts. -/
def line? (entries : Entries) : Option Text := do
  let stack ← belowText? entries "stack"
  let exception ← belowText? entries "exception"
  return Text.joinWith (Text.ofString " ") (columns entries ++ fields entries)
    ++ trailer stack exception

end Console

namespace Record

/-- The members of the JSON object of a plain formatter. Fields of a plain record come last. -/
def plainMembers (stamp : Stamp) (record : Record) : Entries :=
  let start : Entries :=
    [(Text.ofString "timestamp", .text stamp.seconds),
      (Text.ofString "level", .text record.level.word),
      (Text.ofString "logger", .text record.logger),
      (Text.ofString "event", .text (record.message stamp))]
  let fields :=
    match record.family with
    | .structured => []
    | .plain => record.fields
  (start.putAll fields).putException record.exception

/-- The members of the JSON object of a structured formatter. -/
def structuredMembers (stamp : Stamp) (record : Record) : Entries :=
  (record.entries stamp).without ["_record", "_from_structlog"]

/-- The line of a plain formatter for people. -/
def plainLine (stamp : Stamp) (record : Record) : Text :=
  record.below
    (stamp.seconds ++ Text.ofString " " ++ record.level.name.padRight 8 ++ Text.ofString " "
      ++ record.logger ++ Text.ofString ": " ++ record.message stamp)

end Record

namespace Format

def ofSettings (settings : Settings) : Except Fault Format :=
  (Family.ofSetting settings.logFormatter).map fun family =>
    ⟨family, Layout.ofSetting settings.logFormat⟩

/-- The text of a record; there is none where a value in it cannot stand in the layout. -/
def render? (format : Format) (stamp : Stamp) (record : Record) : Option Text :=
  match format.family, format.layout with
  | .plain, .json => Json.ofMembers? (record.plainMembers stamp)
  | .plain, .console => some (record.plainLine stamp)
  | .structured, .json => Json.ofMembers? (record.structuredMembers stamp)
  | .structured, .console => Console.line? (record.structuredMembers stamp)

end Format

end Log

end IndexWire
