import IndexWire.Directory.Basic
import IndexWire.Document.Meaning
import IndexWire.Notice
import IndexWire.Settings.Basic
import IndexWire.Settings.Environment

/-!
# Loading settings

Settings come in layers: a variable of the environment goes before the settings document, and the
document before the default. `ofDocument` combines the layers of a document that has been parsed;
`loadWith` finds the document first and has it parsed, and `load` does so with the parser of this
library. A key of the document that names no setting is reported and has no effect.
-/

namespace IndexWire

/-- A result together with what was reported on the way to it. -/
structure Report (α : Type) where
  result : Except Fault α
  /-- What was reported, oldest first. -/
  notices : List Notice := []

namespace Settings

/-- The logger of this part of the library. -/
def logger : Text := Text.ofString "bytesink.config"

/-- The layer of the environment. -/
def environmentLayer (environment : Environment) (field : Field) : Option Text :=
  environment.get? field.environmentName

/-- A key of a mapping: a text, or something else, which is shown as a literal. -/
inductive Key where
  | text (content : Text)
  | other (literal : Text)
deriving DecidableEq

namespace Key

def ofValue : Value → Key
  | .text content => text content
  | value => other value.literal

def literal : Key → Text
  | text content => Text.quoted content
  | other literal => literal

/-- The setting that a key names. -/
def field? : Key → Option Field
  | text content => Field.ofName? content
  | other _ => none

end Key

/-- What settings see of a document that has been parsed. -/
inductive Contents where
  /-- The keys of a mapping in order, each with the text of its value unless that is nothing. -/
  | mapping (entries : List (Key × Option Text))
  /-- Nothing, zero, false, or something empty. -/
  | nothing
  /-- Something else, of a kind that has a name. -/
  | other (kind : String)
deriving DecidableEq

/-- The text that a value gives a setting; nothing gives none. -/
def shownValue? : Value → Option Text
  | .none => none
  | value => some value.shown

def Contents.ofValue : Value → Contents
  | .dict entries => mapping (entries.map fun (key, value) => (Key.ofValue key, shownValue? value))
  | value => if value.isTruthy then other value.kind.name else nothing

/-- What makes contents of the text of a document, or says why it has none. -/
abbrev Parser := Text → Except Fault Contents

/-- The parser of this library. -/
def parseDocument : Parser := fun text => (Document.read text).map Contents.ofValue

/-- The keys that name a setting, with the texts of those values that are something. -/
def documentValues (entries : List (Key × Option Text)) : List (Field × Text) :=
  entries.filterMap fun (key, value) =>
    match key.field?, value with
    | some field, some content => some (field, content)
    | _, _ => none

/-- The layer of a document. -/
def documentLayer (entries : List (Key × Option Text)) (field : Field) : Option Text :=
  ((documentValues entries).find? fun entry => entry.1 = field).map Prod.snd

/-- What is reported of the keys of a document that name no setting. -/
def unknownKeyNotices (place : Text) (entries : List (Key × Option Text)) : List Notice :=
  entries.filterMap fun (key, _) =>
    if key.field?.isSome then none
    else
      some
        { level := .warning
          logger
          message :=
            Text.ofString "ignoring unknown config key " ++ key.literal ++ Text.ofString " in "
              ++ place }

/-- What is reported when settings have been loaded. -/
def loadedNotice (place : Text) (documentKeys overrides : Nat) : Notice where
  level := .debug
  logger
  message :=
    Text.ofString "loaded config from " ++ place
      ++ Text.ofString s!" ({documentKeys} file keys, {overrides} env overrides)"

/-- The entries of a document; a document that is nothing, zero, false or empty has none. -/
def entriesOfDocument (place : Text) : Contents → Except Fault (List (Key × Option Text))
  | .mapping entries => .ok entries
  | .nothing => .ok []
  | .other kind => .error (.notMapping place kind)

/--
The settings of an environment and a document. The document stands at `place` in reports; where
there is no document, `origin` says what the settings come from.
-/
def ofDocument (environment : Environment) (place origin : Text) (document : Contents) :
    Report Settings :=
  match entriesOfDocument place document with
  | .error fault => { result := .error fault }
  | .ok entries =>
    let warnings := unknownKeyNotices place entries
    let layer (field : Field) : Option Text :=
      (environmentLayer environment field).or (documentLayer entries field)
    match (ofLayer layer).checked with
    | .error fault => { result := .error fault, notices := warnings }
    | .ok settings =>
      let overrides := Field.all.filter fun field => (environmentLayer environment field).isSome
      { result := .ok settings
        notices :=
          warnings ++ [loadedNotice origin (documentValues entries).length overrides.length] }

/-- The path of the settings document when none is given. -/
def defaultPath (environment : Environment) : Except Fault Path :=
  match environment.get? (Text.ofString "BYTESINK_CONFIG"), environment.startHome with
  | some (first :: rest), _ => environment.expandHome (Path.ofText (first :: rest))
  | _, some home =>
    .ok ((home.child (Text.ofString ".bytesink")).child (Text.ofString "config.yaml"))
  | _, none => .error .noHome

/-- The document at a path as a parser sees it, if there is one. -/
def readDocument (parser : Parser) (directory : Directory) (path : Path) :
    Except Fault (Option Contents) := do
  match ← directory.look path with
  | none => return none
  | some (_, .folder) => throw (.path .isFolder path.text)
  | some (_, .file content) =>
    let text ← (Utf8.decode content).mapError .undecodable
    return some (← parser (Document.withLineFeeds text))

/--
Loads settings from the environment and the document at a path, or at the default path, which a
parser reads.
-/
def loadWith (parser : Parser) (directory : Directory) (environment : Environment)
    (path : Option Path) : Report Settings :=
  match path.elim (defaultPath environment) .ok with
  | .error fault => { result := .error fault }
  | .ok path =>
    match readDocument parser directory path with
    | .error fault => { result := .error fault }
    | .ok none => ofDocument environment path.text (Text.ofString "defaults") .nothing
    | .ok (some document) => ofDocument environment path.text path.text document

/-- Loads settings with the parser of this library. -/
def load (directory : Directory) (environment : Environment) (path : Option Path) :
    Report Settings := loadWith parseDocument directory environment path

/-- The settings of a whole program: none until they are first asked for. -/
abbrev Cache := Option Settings

/-- Gives the settings in the cache; an empty cache is filled by loading, if that succeeds. -/
def Cache.get (directory : Directory) (environment : Environment) (cache : Cache)
    (path : Option Path) : Cache × Report Settings :=
  match cache with
  | some settings => (cache, { result := .ok settings })
  | none =>
    let report := load directory environment path
    (report.result.toOption, report)

end Settings

end IndexWire
