import IndexWire.Log.Basic

/-!
# Calls of loggers

How a logger is asked for a record: by the name of a method, with an event and fields. A plain
logger has a method for each level but the gravest, a structured one has some more. A few names of
fields belong to the logger itself; a call that uses them fails, and nothing is logged.
-/

namespace IndexWire

namespace Log

inductive Method where
  | debug | info | warning | error | critical
  /-- A failure with the exception that is at hand. -/
  | exception
deriving DecidableEq

namespace Method

def level : Method → Level
  | debug => .debug
  | info => .info
  | warning => .warning
  | error | exception => .error
  | critical => .critical

def name : Method → String
  | debug => "debug"
  | info => "info"
  | warning => "warning"
  | error => "error"
  | critical => "critical"
  | exception => "exception"

/-- The fields of a record that a method makes of given ones. -/
def complete (method : Method) (fields : List (Text × Value)) : List (Text × Value) :=
  if method = exception ∧ (Entries.get? fields "exc_info").isNone then
    fields ++ [(Text.ofString "exc_info", .bool true)]
  else fields

end Method

namespace Family

/-- The name of the loggers of a family in messages. -/
def ownerName : Family → String
  | .plain => "KeyValueLogger"
  | .structured => "BoundLogger"

/-- The methods that the loggers of both families have, by name. -/
def sharedMethods : List (String × Method) :=
  [("debug", .debug), ("info", .info), ("warning", .warning), ("error", .error)]

/-- The methods of the loggers of a family; two of them have a second name. -/
def methods : Family → List (String × Method)
  | .plain => sharedMethods
  | .structured =>
    sharedMethods ++ [("critical", .critical), ("exception", .exception), ("warn", .warning),
      ("fatal", .critical)]

def method? (family : Family) (name : Text) : Option Method :=
  (family.methods.find? fun method => name.is method.1).map Prod.snd

/-- The field by which a call gives one of its arguments twice, and what is called. -/
def takenField? (family : Family) (method : Method) (fields : List (Text × Value)) :
    Option (String × Text) :=
  let named (names : List String) : Option Text :=
    (fields.find? fun field => names.any field.1.is).map Prod.fst
  match named ["self", "event"], family with
  | some name, _ => some (s!"{family.ownerName}.{method.name}()", name)
  | none, .structured =>
    (named ["method_name"]).map fun name => (s!"{family.ownerName}._proxy_to_logger()", name)
  | none, .plain => none

/-- The kind of a field in the place where a structured logger looks for the record itself. -/
def misplaced? (family : Family) (fields : List (Text × Value)) : Option Kind :=
  match family, Entries.get? fields "_record" with
  | .plain, _ | .structured, none | .structured, some .none => none
  | .structured, some value => some value.kind

end Family

/--
The record that a call of a method asks for. Only a record that is handed on is looked into for one
that a field puts in its own place.
-/
def recordOf (log : Log) (method : Method) (logger : Text) (event : Value)
    (fields : List (Text × Value)) : Except Fault Record :=
  match log.loggers.takenField? method fields with
  | some (call, name) => .error (.argumentTwice call name)
  | none =>
    match log.loggers.misplaced? fields, log.isEnabledFor method.level with
    | some kind, true => .error (.noAttribute kind.name (Text.ofString "name"))
    | _, _ =>
      .ok { log.event method.level logger event (method.complete fields) with
        exception := if method = .exception then some Record.noFailure else none }

/-- The method that makes records of the level of a number. -/
def Method.ofLevel? (level : Value) : Option Method :=
  [debug, info, warning, error, critical].find? fun method => level.sameKey (.int method.level)

/--
The record of a method that takes the level where others take the event, and the event as a field.
-/
def recordOfLevel (log : Log) (logger : Text) (level : Value) (fields : List (Text × Value)) :
    Except Fault Record :=
  match (fields.find? fun field => ["self", "level"].any field.1.is), level.keyFault? with
  | some taken, _ => .error (.argumentTwice s!"{log.loggers.ownerName}.log()" taken.1)
  | none, some fault => .error fault
  | none, none =>
    match Method.ofLevel? level with
    | none => .error (.notListed level.literal)
    | some method =>
      log.recordOf method logger ((Entries.get? fields "event").getD .none)
        (Entries.without fields ["event"])

/-- What a logger that is asked for a method by name makes of an event and fields. -/
def request (log : Log) (method logger : Text) :
    Except Fault (Value → List (Text × Value) → Except Fault Record) :=
  match log.loggers, log.loggers.method? method with
  | _, some found => .ok (log.recordOf found logger)
  | .structured, none =>
    if method.is "log" then .ok (log.recordOfLevel logger)
    else .error (.noAttribute log.loggers.ownerName method)
  | .plain, none => .error (.noAttribute log.loggers.ownerName method)

end Log

end IndexWire
