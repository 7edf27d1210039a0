import IndexWire.CommandLine.Run

/-!
# Main program

The program on real files. The files that a run can touch are read first; the run itself is the
function `CommandLine.run`; what it changed is written back.
-/

namespace IndexWire

namespace Main

def string (text : Text) : String := String.ofList (text.map fun point => Char.ofNat point.value)

def place (location : Location) : String :=
  "/" ++ string (Text.joinWith (Text.ofString "/") location)

/-- What stands at a location in the file system. -/
def probe (location : Location) : IO (Option Entry) := do
  try
    let content ← IO.FS.readBinFile (place location)
    return some (.file content.toList)
  catch _ =>
    try
      let path ← IO.FS.realPath (place location)
      return if ← path.isDir then some .folder else none
    catch _ => return none

/-- The directory with what stands at a path in the file system, and the folders above it. -/
def learn (directory : Directory) (path : Path) : IO Directory := do
  let location := (directory.absolute path).names
  let locations := (List.range (location.length + 1)).map location.take
  locations.foldlM (fun known location => do
    match ← probe location with
    | some entry =>
      return if (known.entry? location).isSome then known else known.put location entry
    | none => return known) directory

/-- The directory with the files that a run can touch. -/
def learnAll (directory : Directory) (environment : Environment) (arguments : List Text) :
    IO Directory := do
  let commandPaths :=
    match CommandLine.Invocation.read arguments with
    | .error _ => []
    | .ok invocation =>
      match CommandLine.Command.read invocation.topic invocation.arguments with
      | .error _ => []
      | .ok command => command.paths
  let settingsPath := (Settings.defaultPath environment).toOption.toList
  let directory ← (settingsPath ++ commandPaths).foldlM learn directory
  match (Settings.load directory environment none).result with
  | .error _ => return directory
  | .ok settings =>
    (Log.Destination.pathOf settings.jsonlPath).toOption.toList.foldlM learn directory

/-- Writes an entry to the file system, at the end of a file where that is enough. -/
def store (before : Directory) (location : Location) (entry : Entry) : IO Unit := do
  match entry with
  | .folder => IO.FS.createDirAll (place location)
  | .file content =>
    match before.entry? location with
    | some (.file old) =>
      if old.isPrefixOf content then
        let file ← IO.FS.Handle.mk (place location) .append
        file.write ⟨(content.drop old.length).toArray⟩
      else IO.FS.writeBinFile (place location) ⟨content.toArray⟩
    | _ => IO.FS.writeBinFile (place location) ⟨content.toArray⟩

def storeAll (before after : Directory) : IO Unit :=
  after.entries.forM fun (location, entry) =>
    if before.entry? location = some entry then pure () else store before location entry

/-- The names of the variables that the program looks at. -/
def variableNames : List String :=
  ["HOME", "BYTESINK_CONFIG"] ++ Settings.Field.all.map fun field => string field.environmentName

/-- The variables that the program looks at, and the home folder. -/
def environment : IO Environment := do
  let found ← variableNames.foldlM (fun environment name => do
    match ← IO.getEnv name with
    | some value => return environment.set (Text.ofString name) (some (Text.ofString value))
    | none => return environment) ({} : Environment)
  return { found with startHome := found.home? [] }

/-- The present moment, by the clock that stamps files. -/
def now : IO Log.Stamp := do
  let (_, path) ← IO.FS.createTempFile
  let metadata ← path.metadata
  IO.FS.removeFile path
  let time := metadata.modified
  return .ofClock time.sec.toNat (time.nsec.toNat / 1000)

def usage : String :=
  "Usage: bytesink [--log-level TEXT] COMMAND\n\n"
    ++ "  encode FORM [--out PATH] [--sep TEXT] VALUE...\n"
    ++ "  copy [--skip INT] [--count INT] [--append | --truncate] SRC DST\n\n"
    ++ "Forms: int16 int32 int64 vint vlong zint zlong string map set\n"

end Main

end IndexWire

open IndexWire in
def main (arguments : List String) : IO UInt32 := do
  let arguments := arguments.map Text.ofString
  let environment ← Main.environment
  let here ← IO.currentDir
  let current := (Path.ofText (Text.ofString here.toString)).names
  let directory ← Main.learnAll { current } environment arguments
  let outcome := CommandLine.run { directory, environment } (← Main.now) arguments
  Main.storeAll directory outcome.directory
  IO.print (Main.string outcome.stdout)
  IO.eprint (Main.string outcome.stderr)
  match outcome.ending with
  | .help => IO.print Main.usage
  | .usage => IO.eprint Main.usage
  | .exit _ => pure ()
  | .fault fault => IO.eprintln (Main.string fault.message)
  return outcome.ending.code.toUInt32
