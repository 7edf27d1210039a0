import IndexWire.Log.Handler

/-!
# The log

The handlers that records go to, the least level of a record, and which of the handlers is the one
that was set up. `setup` puts one handler of this library in the place of those before; the handlers
of others stay. `emit` hands a record to all handlers, or, where there are none, writes a grave one
to the error stream.
-/

namespace IndexWire

/-- The handlers of all loggers and what is known of their use. -/
structure Log where
  /-- The handlers in the order in which they were added. -/
  handlers : List Log.Handler := []
  /-- The least level of a record that is handed on. -/
  level : Level := .warning
  /-- The handler that is to be taken away by `shutdown`. -/
  recorded : Option Log.Handler := none
  /-- The family of the loggers that are given out. -/
  loggers : Log.Family := .plain
  /-- How many handlers of this library have been made. -/
  made : Nat := 0
  /-- The handlers that have been closed, latest first. -/
  closed : List Log.Handler := []
deriving DecidableEq

namespace Log

structure Setup where
  /-- The files, among them the log file that was opened. -/
  directory : Directory
  log : Log
  result : Except Fault Handler

/-- The log with a handler of this library in the place of those before, which are closed. -/
def replaceManaged (log : Log) (destination : Destination) (format : Format) : Log :=
  { log with
    handlers :=
      log.handlers.filter (!·.isManaged) ++ [.managed log.made destination format]
    made := log.made + 1
    closed := (log.handlers.filter Handler.isManaged).reverse ++ log.closed }

/--
Sets up a log as settings tell. A formatter, a destination or a file that is refused changes nothing
in the log; a level that is refused leaves the new handler in place.
-/
def setup (log : Log) (directory : Directory) (settings : Settings) : Setup :=
  match Format.ofSettings settings with
  | .error fault => ⟨directory, log, .error fault⟩
  | .ok format =>
    match Destination.ofSettings directory settings with
    | (opened, .error fault) => ⟨opened, log, .error fault⟩
    | (opened, .ok destination) =>
      let replaced := log.replaceManaged destination format
      match Level.ofSetting settings.logLevel with
      | .error fault => ⟨opened, replaced, .error fault⟩
      | .ok level =>
        let handler : Handler := .managed log.made destination format
        ⟨opened, { replaced with level, recorded := some handler, loggers := format.family },
          .ok handler⟩

/-- Takes the handler that was set up away and closes it. -/
def shutdown (log : Log) : Log :=
  match log.recorded with
  | none => { log with loggers := .plain }
  | some handler =>
    { log with
      handlers := log.handlers.filter (· ≠ handler)
      recorded := none
      loggers := .plain
      closed := handler :: log.closed }

def isEnabledFor (log : Log) (level : Level) : Bool := 0 < level && log.level ≤ level

/-- What is done with a record for which there is no handler. -/
def lastResort (stamp : Stamp) (record : Record) (output : Output) : Output :=
  if Level.warning ≤ record.level then
    output.write .stderr (record.below (record.message stamp))
  else output

/-- Hands a record to all handlers, if its level is high enough. -/
def emit (log : Log) (stamp : Stamp) (output : Output) (record : Record) : Output :=
  if log.isEnabledFor record.level then
    match log.handlers with
    | [] => lastResort stamp record output
    | handlers => handlers.foldl (fun output handler => handler.handle stamp record output) output
  else output

/-- Hands records to all handlers, one after another. -/
def emitAll (log : Log) (stamp : Stamp) (output : Output) (records : List Record) : Output :=
  records.foldl (log.emit stamp) output

/-- An event of a logger that has been asked for by name. -/
def event (log : Log) (level : Level) (logger : Text) (event : Value)
    (fields : List (Text × Value)) : Record where
  level
  logger
  event
  fields
  family := log.loggers

end Log

end IndexWire
