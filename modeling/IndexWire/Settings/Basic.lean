import IndexWire.Encoding

/-!
# Settings

The six settings of the library. Each has a name in settings documents, a variable of the
environment that overrides it, and a default. Documents and variables give texts, but a setting may
be assigned any value. Settings are valid when their surrogate policy has a name that is known;
nothing else is checked before it is used.
-/

namespace IndexWire

structure Settings where
  logFormatter : Value := .text (Text.ofString "structlog")
  logDestination : Value := .text (Text.ofString "stderr")
  /-- The name of the least level that is logged. -/
  logLevel : Value := .text (Text.ofString "INFO")
  logFormat : Value := .text (Text.ofString "json")
  /-- The path of the log file, if it is not the usual one. -/
  jsonlPath : Value := .none
  surrogatePolicy : Value := .text (Text.ofString "replace")

namespace Settings

inductive Field where
  | logFormatter | logDestination | logLevel | logFormat | jsonlPath | surrogatePolicy
deriving DecidableEq

namespace Field

def all : List Field :=
  [logFormatter, logDestination, logLevel, logFormat, jsonlPath, surrogatePolicy]

def name : Field → Text
  | logFormatter => Text.ofString "log_formatter"
  | logDestination => Text.ofString "log_destination"
  | logLevel => Text.ofString "log_level"
  | logFormat => Text.ofString "log_format"
  | jsonlPath => Text.ofString "jsonl_path"
  | surrogatePolicy => Text.ofString "surrogate_policy"

/-- The variable of the environment that overrides a setting. -/
def environmentName : Field → Text
  | logFormatter => Text.ofString "BYTESINK_LOG_FORMATTER"
  | logDestination => Text.ofString "BYTESINK_LOG_DESTINATION"
  | logLevel => Text.ofString "BYTESINK_LOG_LEVEL"
  | logFormat => Text.ofString "BYTESINK_LOG_FORMAT"
  | jsonlPath => Text.ofString "BYTESINK_JSONL_PATH"
  | surrogatePolicy => Text.ofString "BYTESINK_SURROGATE_POLICY"

def ofName? (name : Text) : Option Field := all.find? fun field => field.name = name

end Field

def get (settings : Settings) : Field → Value
  | .logFormatter => settings.logFormatter
  | .logDestination => settings.logDestination
  | .logLevel => settings.logLevel
  | .logFormat => settings.logFormat
  | .jsonlPath => settings.jsonlPath
  | .surrogatePolicy => settings.surrogatePolicy

def set (settings : Settings) (field : Field) (value : Value) : Settings :=
  match field with
  | .logFormatter => { settings with logFormatter := value }
  | .logDestination => { settings with logDestination := value }
  | .logLevel => { settings with logLevel := value }
  | .logFormat => { settings with logFormat := value }
  | .jsonlPath => { settings with jsonlPath := value }
  | .surrogatePolicy => { settings with surrogatePolicy := value }

def default (field : Field) : Value := get {} field

/-- The settings that take a text where a layer has one, and the default elsewhere. -/
def ofLayer (layer : Field → Option Text) : Settings :=
  let value (field : Field) : Value := (layer field).elim (default field) .text
  { logFormatter := value .logFormatter
    logDestination := value .logDestination
    logLevel := value .logLevel
    logFormat := value .logFormat
    jsonlPath := value .jsonlPath
    surrogatePolicy := value .surrogatePolicy }

/-- The settings, if their surrogate policy is known. -/
def checked (settings : Settings) : Except Fault Settings :=
  (SurrogatePolicy.ofValue settings.surrogatePolicy).map fun _ => settings

/-- The settings with those changed that entries name. -/
def assign (settings : Settings) : List (Text × Value) → Except Fault Settings
  | [] => .ok settings
  | (name, value) :: rest =>
    match Field.ofName? name with
    | some field => (settings.set field value).assign rest
    | none =>
      if name.is "self" then .error (.argumentTwice "BytesinkConfig.__init__()" name)
      else .error (.unknownSetting name)

/-- The settings that entries name, the others at their defaults, if they are valid. -/
def ofEntries (entries : List (Text × Value)) : Except Fault Settings :=
  (assign {} entries).bind checked

end Settings

end IndexWire
