import IndexWire.Fault

/-!
# Notices

What a call reports beside its result: records for the log, in the order in which they arose.
`Attempt` is the outcome of a call on a state: the state after it, the fault if it failed, and its
notices.
-/

namespace IndexWire

/-- The weight of a log record; higher is graver. -/
abbrev Level := Nat

namespace Level

/-- The weight of a record for those who look for errors. -/
def debug : Level := 10

def info : Level := 20

/-- The weight of a record of something doubtful. -/
def warning : Level := 30

def error : Level := 40

/-- The weight of a record of a failure that ends the work. -/
def critical : Level := 50

def name (level : Level) : Text :=
  if level = debug then Text.ofString "DEBUG"
  else if level = info then Text.ofString "INFO"
  else if level = warning then Text.ofString "WARNING"
  else if level = error then Text.ofString "ERROR"
  else if level = critical then Text.ofString "CRITICAL"
  else if level = 0 then Text.ofString "NOTSET"
  else Text.ofString "Level " ++ Text.ofNat level

end Level

structure Notice where
  level : Level
  logger : Text
  message : Text
deriving DecidableEq

/-- The outcome of a call on a state. -/
structure Attempt (σ : Type) where
  /-- The state after the call, also when it failed. -/
  state : σ
  /-- Why the call failed, if it did. -/
  fault : Option Fault := none
  /-- What the call reported, oldest first. -/
  notices : List Notice := []

namespace Attempt

/-- The outcome of a call that failed and changed the state as given. -/
def failed {σ : Type} (state : σ) (fault : Fault) : Attempt σ := { state, fault := some fault }

/-- The outcome seen as one on a larger state. -/
def map {σ τ : Type} (change : σ → τ) (attempt : Attempt σ) : Attempt τ :=
  { state := change attempt.state, fault := attempt.fault, notices := attempt.notices }

end Attempt

end IndexWire
