import IndexWire.CommandLine.Arguments
import IndexWire.Directory.Path
import IndexWire.Sink.Request
import IndexWire.Text.Number

/-!
# Commands

What the arguments of the program ask for. `Invocation.read` reads the options of the whole program
and the name of the command; `Command.read` reads the rest, once the program is set up.
-/

namespace IndexWire

namespace CommandLine

/-- Why arguments are not carried out. -/
inductive Refusal where
  | help
  /-- They do not make a command. -/
  | usage
  /-- A path among them cannot be looked at. -/
  | fault (fault : Fault)
deriving DecidableEq

/-- The forms in which a number is encoded. -/
inductive NumberForm where
  | int16 | int32 | int64 | vint | vlong | zint | zlong
deriving DecidableEq

namespace NumberForm

def all : List NumberForm := [int16, int32, int64, vint, vlong, zint, zlong]

def name : NumberForm → String
  | int16 => "int16"
  | int32 => "int32"
  | int64 => "int64"
  | vint => "vint"
  | vlong => "vlong"
  | zint => "zint"
  | zlong => "zlong"

def request (form : NumberForm) (value : Int) : Request :=
  match form with
  | int16 => .int16 value
  | int32 => .int32 value
  | int64 => .int64 value
  | vint => .vint value
  | vlong => .vlong value
  | zint => .zint32 value
  | zlong => .zint64 value

end NumberForm

inductive Payload where
  | number (form : NumberForm) (value : Int)
  | string (content : Text)
  /-- A map, its entries written with an equals sign between key and value. -/
  | map (entries : List Text)
  | set (elements : List Text)

namespace Payload

/-- The key and the value of an entry. -/
def splitEntry (entry : Text) : Except Fault (Text × Text) :=
  match Arguments.splitEquals entry with
  | (_, none) => .error (.malformedEntry entry)
  | (key, some value) => .ok (key, value)

/-- The map of entries: a later value of a key takes the place of the earlier one. -/
def mapOf (entries : List Text) : Except Fault (List (Text × Text)) :=
  (entries.mapM splitEntry).map (entriesOf fun left right => left = right)

/-- The elements without those that are there already. -/
def distinct (elements : List Text) : List Text :=
  elements.foldl (fun kept element => if kept.contains element then kept else kept ++ [element]) []

def request : Payload → Except Fault Request
  | number form value => .ok (form.request value)
  | string content => .ok (.string (.text content))
  | map entries =>
    (mapOf entries).map fun pairs =>
      .stringMap (pairs.map fun pair => (.text pair.1, .text pair.2))
  | set elements => .ok (.stringSet (.list ((distinct elements).map .text)))

end Payload

/-- An order to encode a payload. -/
structure EncodeOrder where
  payload : Payload
  /-- The file that takes the bytes at its end; without one they are shown. -/
  out : Option Path
  /-- What stands between the bytes that are shown. -/
  separator : Text

/-- An order to copy a range of a file. -/
structure CopyOrder where
  source : Path
  destination : Path
  /-- How many bytes of the source are left out at its start. -/
  skip : Int
  /-- How many bytes are copied; without a count all that are left. -/
  count : Option Int
  /-- Whether the bytes go to the end of the destination, and do not replace what it holds. -/
  appends : Bool

inductive Command where
  | encode (order : EncodeOrder)
  | copy (order : CopyOrder)

/-- The commands by name. -/
inductive Topic where
  | encode | copy
deriving DecidableEq

namespace Topic

def ofName? (name : Text) : Option Topic :=
  if name.is "encode" then some encode else if name.is "copy" then some copy else none

end Topic

def helpName : String := "--help"

/--
Why arguments are refused that begin with the name of no command. After two dashes an option can
stand in the place of the name; it is then read as one after all, and may ask for help.
-/
def unknownName {κ : Type} [DecidableEq κ] (declarations : List (Declaration κ)) (help : κ)
    (arguments : List Text) : Refusal :=
  match Arguments.read declarations false arguments with
  | some given => if given.keys.contains help then .help else .usage
  | none => .usage

/-- The options of the whole program, the command, and the arguments of the command. -/
structure Invocation where
  /-- The name of the least level that is logged, before that of the settings. -/
  logLevel : Option Text
  topic : Topic
  arguments : List Text

namespace Invocation

/-- What the options of the whole program stand for. -/
inductive Key where
  | help | logLevel
  /-- Something about the shell that calls the program; it is known, but not offered. -/
  | completion
deriving DecidableEq

/-- The options of the whole program. -/
def declarations : List (Declaration Key) :=
  [{ key := .help, name := helpName, takesValue := false },
    { key := .logLevel, name := "--log-level", takesValue := true },
    { key := .completion, name := "--install-completion", takesValue := false },
    { key := .completion, name := "--show-completion", takesValue := false }]

/-- Reads the arguments of the program up to the name of the command. -/
def read (arguments : List Text) : Except Refusal Invocation :=
  match Arguments.read declarations false arguments with
  | none => .error .usage
  | some given =>
    if given.keys.contains .help then .error .help
    else if given.keys.contains .completion then .error .usage
    else
      match given.positionals with
      | [] => .error .usage
      | name :: rest =>
        match Topic.ofName? name with
        | none => .error (unknownName declarations .help (name :: rest))
        | some topic => .ok ⟨given.value? .logLevel, topic, rest⟩

end Invocation

/-- A path among the arguments, if it can be looked at. -/
def readPath (text : Text) : Except Refusal Path :=
  match Path.check text with
  | .ok () => .ok (Path.ofText text)
  | .error fault => .error (.fault fault)

def readInt (text : Text) : Except Refusal Int :=
  match text.toInt? with
  | some number => .ok number
  | none => .error .usage

namespace CopyOrder

/-- What the options of a copy stand for. -/
inductive Key where
  | help | skip | count | append | truncate
deriving DecidableEq

/-- The options of a copy. -/
def declarations : List (Declaration Key) :=
  [{ key := .help, name := helpName, takesValue := false },
    { key := .skip, name := "--skip", takesValue := true },
    { key := .count, name := "--count", letter := some 'n', takesValue := true },
    { key := .append, name := "--append", takesValue := false },
    { key := .truncate, name := "--truncate", takesValue := false }]

/-- Whether an option decides that bytes are appended. -/
def Key.appends? : Key → Option Bool
  | append => some true
  | truncate => some false
  | _ => none

/-- Checks the value of an option. -/
def check (given : Arguments Key) (key : Key) : Except Refusal Unit :=
  match key, given.value? key with
  | .skip, some text => (readInt text).map fun _ => ()
  | .count, some text => (readInt text).map fun _ => ()
  | _, _ => .ok ()

/-- Reads the arguments of a copy. The first that is wrong decides why they are refused. -/
def read (arguments : List Text) : Except Refusal CopyOrder := do
  let some given := Arguments.read declarations true arguments | throw .usage
  if given.keys.contains .help then throw .help
  given.keys.forM (check given)
  match given.positionals with
  | [] => throw .usage
  | [source] => do
    let _ ← readPath source
    throw .usage
  | source :: destination :: rest => do
    let source ← readPath source
    let destination ← readPath destination
    if !rest.isEmpty then throw .usage
    return {
      source, destination
      skip := ← ((given.value? .skip).map readInt).getD (.ok 0)
      count := ← (given.value? .count).mapM readInt
      appends := (given.options.reverse.findSome? fun option => option.1.appends?).getD false }

end CopyOrder

namespace EncodeOrder

/-- What an encode command makes of its arguments. -/
inductive Form where
  | number (form : NumberForm)
  | string
  | map
  | set
deriving DecidableEq

namespace Form

def all : List Form := NumberForm.all.map number ++ [string, map, set]

def name : Form → String
  | number form => form.name
  | string => "string"
  | map => "map"
  | set => "set"

def ofName? (name : Text) : Option Form := all.find? fun form => name.is form.name

def payload (form : Form) (positionals : List Text) : Except Refusal Payload :=
  match form, positionals with
  | map, entries => .ok (.map entries)
  | set, elements => .ok (.set elements)
  | string, [content] => .ok (.string content)
  | number form, [value] => (readInt value).map (.number form)
  | _, _ => .error .usage

end Form

/-- What the options of an encode command stand for. -/
inductive Key where
  | help | out | separator
deriving DecidableEq

/-- The option for help, which is all that the group of encode commands knows. -/
def groupDeclarations : List (Declaration Key) :=
  [{ key := .help, name := helpName, takesValue := false }]

/-- The options of an encode command. -/
def declarations : List (Declaration Key) :=
  groupDeclarations ++
    [{ key := .out, name := "--out", letter := some 'o', takesValue := true },
      { key := .separator, name := "--sep", takesValue := true }]

/-- Reads the arguments of an encode command of a form. -/
def readForm (form : Form) (arguments : List Text) : Except Refusal EncodeOrder := do
  let some given := Arguments.read declarations true arguments | throw .usage
  if given.keys.contains .help then throw .help
  let out ← (given.value? .out).mapM readPath
  let payload ← form.payload given.positionals
  return { payload, out, separator := (given.value? .separator).getD (Text.ofString " ") }

/-- Reads the arguments of an encode command, which start with the name of a form. -/
def read (arguments : List Text) : Except Refusal EncodeOrder := do
  let some given := Arguments.read groupDeclarations false arguments | throw .usage
  if given.keys.contains .help then throw .help
  match given.positionals with
  | [] => throw .usage
  | name :: rest =>
    match Form.ofName? name with
    | none => throw (unknownName groupDeclarations .help (name :: rest))
    | some form => readForm form rest

end EncodeOrder

def Command.read (topic : Topic) (arguments : List Text) : Except Refusal Command :=
  match topic with
  | .encode => (EncodeOrder.read arguments).map .encode
  | .copy => (CopyOrder.read arguments).map .copy

def Command.paths : Command → List Path
  | .encode order => order.out.toList
  | .copy order => [order.source, order.destination]

end CommandLine

end IndexWire
