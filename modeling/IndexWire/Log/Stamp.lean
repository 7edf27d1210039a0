import IndexWire.Value.Calendar

/-!
# Stamps

The moment of a log record as text, in the two forms that log lines use.
-/

namespace IndexWire

namespace Log

/-- A moment as text. -/
structure Stamp where
  /-- The moment to the second. -/
  seconds : Text
  /-- The moment as exactly as it is known. -/
  precise : Text

namespace Stamp

/-- The moment that comes a number of seconds and millionths after the start of 1970. -/
def ofClock (seconds microseconds : Nat) : Stamp :=
  let time :=
    Text.joinWith (Text.ofString ":")
      ([seconds / 3600 % 24, seconds / 60 % 60, seconds % 60].map (Text.ofPadded 2))
  let text := (Date.ofDayNumber (seconds / 86400)).shown ++ Text.ofString "T" ++ time
  let fraction :=
    if microseconds = 0 then [] else Text.ofString "." ++ Text.ofPadded 6 microseconds
  { seconds := text, precise := text ++ fraction ++ Text.ofString "Z" }

end Stamp

end Log

end IndexWire
