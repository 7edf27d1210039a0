import IndexWire.CommandLine.Command
import IndexWire.Log.Basic
import IndexWire.Settings.Load
import IndexWire.Sink.Basic
import IndexWire.Text.Escape

/-!
# Runs

What a run of the program does to files and to the log, and what it prints. `encode` shows the bytes
of a payload or adds them to a file, `copy` copies a range of a file; `run` reads the arguments,
loads the settings, sets up the log, and carries the command out. Faults inside a command become a
message on the error stream; those before it end the run as they are.
-/

namespace IndexWire

namespace CommandLine

structure Run where
  /-- The moment that log records bear. -/
  stamp : Log.Stamp
  store : Store
  log : Log
  stdout : Text := []
  stderr : Text := []

namespace Run

def directory (run : Run) : Directory := run.store.directory

def withDirectory (run : Run) (directory : Directory) : Run :=
  { run with store := { run.store with directory } }

def emit (run : Run) (records : List Log.Record) : Run :=
  let output := run.log.emitAll run.stamp { directory := run.directory } records
  { run.withDirectory output.directory with stderr := run.stderr ++ output.stderr }

def notify (run : Run) (notices : List Notice) : Run := run.emit (notices.map .ofNotice)

/-- Logs an event of ordinary work. -/
def inform (run : Run) (logger event : String) (fields : List (String × Value)) : Run :=
  run.emit
    [run.log.event .info (Text.ofString logger) (.text (Text.ofString event))
      (fields.map fun field => (Text.ofString field.1, field.2))]

/-- Prints a line without its escape sequences, unless it holds surrogates. -/
def print (run : Run) (line : Text) : Attempt Run :=
  let ended := line.withoutEscapes ++ Text.ofString "\n"
  match encodeText .strict ended with
  | .ok _ => { state := { run with stdout := run.stdout ++ ended } }
  | .error fault => .failed run fault

def complain (run : Run) (line : Text) : Run :=
  { run with stderr := run.stderr ++ line.withoutEscapes ++ Text.ofString "\n" }

/-- A sink that writes to the file of a path. -/
def fileSink (policy : SurrogatePolicy) (path : Path) (file : FileWriter) : Sink where
  policy
  destination := .stream { name := path.text, device := .file file }

/-- Closes the sink of a file, and reports that afterwards. -/
def closeSink (run : Run) (sink : Sink) : Run :=
  let closed := sink.destination.close run.store
  { run with store := closed.state.1 }.notify closed.notices

def showBytes (separator : Text) (bytes : Bytes) : Text :=
  Text.joinWith separator (bytes.map fun byte => Text.ofHex 2 byte.toNat)

def encodeShown (run : Run) (policy : SurrogatePolicy) (request : Request) (separator : Text) :
    Attempt Run :=
  let sink : Sink := { policy, destination := .memory {} }
  let written := sink.write run.store request
  match written.fault, written.state.2.destination with
  | some fault, _ => .failed run fault
  | none, .memory memory => run.print (showBytes separator memory.value)
  | none, _ => run.print []

/-- Adds the bytes of a request to a file. What was written before a fault stays in the file. -/
def encodeToFile (run : Run) (policy : SurrogatePolicy) (request : Request) (path : Path) :
    Attempt Run :=
  match run.directory.openAppend path with
  | .error fault => .failed run fault
  | .ok (location, opened) =>
    let run := run.withDirectory opened
    let written := (fileSink policy path { location }).write run.store request
    let (store, sink) := written.state
    let run := ({ run with store }.notify written.notices).closeSink sink
    match written.fault with
    | some fault => .failed run fault
    | none =>
      let count := sink.destination.count
      let run :=
        run.inform "bytesink.cli.encode" "encode.written"
          [("path", .text path.text), ("bytes", .int count)]
      run.print
        (Text.ofString s!"Wrote {count} bytes to " ++ path.text)

def encode (run : Run) (policy : SurrogatePolicy) (order : EncodeOrder) : Attempt Run :=
  match order.payload.request, order.out with
  | .error fault, _ => .failed run fault
  | .ok request, none => run.encodeShown policy request order.separator
  | .ok request, some path => run.encodeToFile policy request path

/-- The location and the size of the source of a copy, if it is a file. -/
def copySource (run : Run) (order : CopyOrder) : Except Fault (Location × Nat) := do
  match ← run.directory.look order.source with
  | some (location, .file content) => pure (location, content.length)
  | _ => throw (.notFile order.source.text)

/-- Refuses to truncate the source of a copy. -/
def checkDestination (run : Run) (order : CopyOrder) (source : Location) : Except Fault Unit := do
  if !order.appends then
    if (← run.directory.look order.destination).any fun found => found.1 = source then
      throw (.sameFile order.destination.text)

/-- Refuses to start a copy outside its source. -/
def checkSkip (order : CopyOrder) (size : Nat) : Except Fault Nat :=
  if 0 ≤ order.skip ∧ order.skip ≤ size then .ok order.skip.toNat
  else .error (.skipOutside order.skip order.source.text size)

def openDestination (run : Run) (order : CopyOrder) : Except Fault (FileWriter × Directory) :=
  if order.appends then
    (run.directory.openAppend order.destination).map fun (location, directory) =>
      ({ location }, directory)
  else
    (run.directory.openTruncate order.destination).map fun (location, directory) =>
      ({ location, position := some 0 }, directory)

/-- What a copy needs, once everything about it is known to be good. -/
structure CopyPlan where
  source : Location
  skip : Nat
  count : Int
  destination : FileWriter
  /-- The files, the destination among them. -/
  directory : Directory

/-- Checks an order to copy and opens its files. -/
def planCopy (run : Run) (order : CopyOrder) : Except Fault CopyPlan := do
  let (source, size) ← run.copySource order
  run.checkDestination order source
  let skip ← checkSkip order size
  let (destination, directory) ← run.openDestination order
  return { source, skip, count := order.count.getD (size - skip), destination, directory }

/-- Carries out an order to copy. What was copied before a fault stays in the destination. -/
def copy (run : Run) (policy : SurrogatePolicy) (order : CopyOrder) : Attempt Run :=
  match run.planCopy order with
  | .error fault => .failed run fault
  | .ok plan =>
    let run := run.withDirectory plan.directory
    let transfer : Transfer :=
      { store := run.store
        sink := fileSink policy order.destination plan.destination
        source := .stream (.file plan.source plan.skip) }
    let copied := transfer.copy plan.count
    let sink := copied.state.sink
    let run := ({ run with store := copied.state.store }.notify copied.notices).closeSink sink
    match copied.fault with
    | some fault => .failed run fault
    | none =>
      let count := sink.destination.count
      let run :=
        run.inform "bytesink.cli.copy_cmd" "copy.completed"
          [("src", .text order.source.text), ("dst", .text order.destination.text),
            ("skip", .int order.skip), ("bytes", .int count)]
      run.print
        (Text.ofString s!"Copied {count} bytes from " ++ order.source.text ++ Text.ofString " to "
          ++ order.destination.text)

def carryOut (run : Run) (policy : SurrogatePolicy) : Command → Attempt Run
  | .encode order => run.encode policy order
  | .copy order => run.copy policy order

end Run

inductive Ending where
  | help
  | usage
  /-- The command has been carried out, or has failed with a message. -/
  | exit (code : Nat)
  /-- A fault ends the run as it is. -/
  | fault (fault : Fault)
deriving DecidableEq

def Ending.code : Ending → Nat
  | .help => 0
  | .usage => 2
  | .exit code => code
  | .fault _ => 1

structure Outcome where
  ending : Ending
  stdout : Text := []
  /-- What it wrote to the error stream, surrogates by their numbers. -/
  stderr : Text := []
  directory : Directory
  /-- The least level that is logged from now on. -/
  level : Level

structure Surroundings where
  directory : Directory := {}
  /-- The variables of the environment, and the home folders. -/
  environment : Environment := {}
  /-- The least level that is logged until the log is set up. -/
  level : Level := .warning

namespace Run

/-- A run at its start. -/
def start (surroundings : Surroundings) (stamp : Log.Stamp) : Run where
  stamp
  store := { directory := surroundings.directory }
  log := { level := surroundings.level }

def outcome (run : Run) (ending : Ending) : Outcome where
  ending
  stdout := run.stdout
  stderr := run.stderr.withSurrogatesSpelled
  directory := run.directory
  level := run.log.level

/-- The end of a run whose arguments are refused. -/
def refuse (run : Run) : Refusal → Outcome
  | .help => run.outcome .help
  | .usage => run.outcome .usage
  | .fault fault => run.outcome (.fault fault)

/-- What is told of a fault inside a command, if the fault is one that commands expect. -/
def complaint? (fault : Fault) : Option Text :=
  match fault.category with
  | .value | .kind => some fault.message
  | .system | .ended => some (Text.ofString "I/O failure: " ++ fault.message)
  | _ => none

/-- The end of a run that has tried to carry out its command. -/
def finish (attempt : Attempt Run) : Outcome :=
  match attempt.fault with
  | none => attempt.state.outcome (.exit 0)
  | some fault =>
    match complaint? fault with
    | some text =>
      (attempt.state.complain (Text.ofString "Error: " ++ text)).outcome (.exit 1)
    | none => attempt.state.outcome (.fault fault)

/-- The settings with the level that the arguments ask for, if they ask for one. -/
def overrideLevel (settings : Settings) : Option Text → Settings
  | some (first :: rest) => { settings with logLevel := .text (first :: rest) }
  | _ => settings

/-- Loads the settings and sets up the log. -/
def prepare (run : Run) (environment : Environment) (logLevel : Option Text) :
    Run × Except Fault Settings :=
  let report := Settings.load run.directory environment none
  let run := run.notify report.notices
  match report.result with
  | .error fault => (run, .error fault)
  | .ok settings =>
    let settings := overrideLevel settings logLevel
    let setup := run.log.setup run.directory settings
    ({ run.withDirectory setup.directory with log := setup.log },
      setup.result.map fun _ => settings)

/-- Reads the arguments of a command and carries it out. -/
def perform (run : Run) (settings : Settings) (topic : Topic) (arguments : List Text) : Outcome :=
  match Command.read topic arguments with
  | .error refusal => run.refuse refusal
  | .ok command =>
    match SurrogatePolicy.ofValue settings.surrogatePolicy with
    | .error fault => run.outcome (.fault fault)
    | .ok policy => finish (run.carryOut policy command)

end Run

def run (surroundings : Surroundings) (stamp : Log.Stamp) (arguments : List Text) : Outcome :=
  let run := Run.start surroundings stamp
  match Invocation.read arguments with
  | .error refusal => run.refuse refusal
  | .ok invocation =>
    match run.prepare surroundings.environment invocation.logLevel with
    | (run, .error fault) => run.outcome (.fault fault)
    | (run, .ok settings) => run.perform settings invocation.topic invocation.arguments

end CommandLine

end IndexWire
