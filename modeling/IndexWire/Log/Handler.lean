import IndexWire.Directory.Basic
import IndexWire.Log.Format

/-!
# Log handlers

A handler takes records and writes each as a line, to the error stream or at the end of a file.
Opening a handler's file makes the file and the folders above it where they are missing.
-/

namespace IndexWire

namespace Log

inductive Destination where
  | stderr
  | file (location : Location)
deriving DecidableEq

namespace Destination

def defaultPath : Text := Text.ofString "bytesink.jsonl"

/-- The path of the log file that a setting tells. -/
def pathOf (setting : Value) : Except Fault Path :=
  if !setting.isTruthy then .ok (Path.ofText defaultPath)
  else
    match setting.text? with
    | some text => .ok (Path.ofText text)
    | none => .error (.notPath setting.kind)

/-- Opens the log file of a path. On failure the folders made on the way stay. -/
def openFile (directory : Directory) (path : Path) : Directory × Except Fault Destination :=
  match directory.makeFolders path.parent with
  | (made, some fault) => (made, .error fault)
  | (made, none) =>
    match made.openAppend (made.settle path) with
    | .ok (location, opened) => (opened, .ok (.file location))
    | .error fault => (made, .error fault)

/-- Opens the destination that settings name. -/
def ofSettings (directory : Directory) (settings : Settings) :
    Directory × Except Fault Destination :=
  let name := settings.logDestination
  match name.keyFault? with
  | some fault => (directory, .error fault)
  | none =>
    if name.isText "stderr" then (directory, .ok .stderr)
    else if name.isText "jsonl" then
      match pathOf settings.jsonlPath with
      | .ok path => openFile directory path
      | .error fault => (directory, .error fault)
    else (directory, .error (.unknownDestination name.literal))

end Destination

inductive Handler where
  /-- A handler of someone else. -/
  | foreign (number : Nat)
  | managed (number : Nat) (destination : Destination) (format : Format)
deriving DecidableEq

/-- What handlers write to. -/
structure Output where
  directory : Directory
  stderr : Text := []

namespace Output

/-- Writes a line at the end of a file; a line that has no encoding is lost. -/
def appendLine (output : Output) (location : Location) (line : Text) : Output :=
  match encodeText .strict line with
  | .ok bytes => { output with directory := output.directory.append location bytes }
  | .error _ => output

def write (output : Output) (destination : Destination) (line : Text) : Output :=
  let ended := line ++ Text.ofString "\n"
  match destination with
  | .stderr => { output with stderr := output.stderr ++ ended }
  | .file location => output.appendLine location ended

end Output

namespace Handler

def isManaged : Handler → Bool
  | foreign _ => false
  | managed _ _ _ => true

/--
Takes a record; one that has no text is lost. What the handlers of others do with it is not known
here.
-/
def handle (stamp : Stamp) (record : Record) (output : Output) : Handler → Output
  | foreign _ => output
  | managed _ destination format =>
    (format.render? stamp record).elim output (output.write destination)

end Handler

end Log

end IndexWire
