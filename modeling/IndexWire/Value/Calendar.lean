import IndexWire.Text.CodePoint

/-!
# Dates

Days of the calendar and moments of a day, as a settings document may hold them. `shown` is the
plain form; `literal` is the form inside a list or a dictionary.
-/

namespace IndexWire

/-- A day of the calendar. -/
structure Date where
  /-- The year, from 1. -/
  year : Nat
  /-- The month, from 1. -/
  month : Nat
  /-- The day of the month, from 1. -/
  day : Nat
deriving DecidableEq

/-- A moment of a day, with its distance from universal time where that is known. -/
structure Moment where
  date : Date
  /-- The hour, from 0. -/
  hour : Nat
  /-- The minute, from 0. -/
  minute : Nat
  /-- The second, from 0. -/
  second : Nat
  /-- The millionths of a second. -/
  microsecond : Nat
  /-- The seconds by which local time is ahead of universal time. -/
  offset : Option Int
deriving DecidableEq

namespace Text

/-- Texts with a comma and a space between each two. -/
def listed (texts : List Text) : Text := joinWith (ofString ", ") texts

end Text

namespace Date

def isLeap (year : Nat) : Bool := year % 4 = 0 && (year % 100 != 0 || year % 400 = 0)

def daysIn (year month : Nat) : Nat :=
  if month = 2 then (if isLeap year then 29 else 28)
  else if month = 4 || month = 6 || month = 9 || month = 11 then 30
  else 31

/--
The day that comes a number of days after the first of January 1970. Years are counted from the
first of March here, so that a leap day is the last day of its year, and eras have four hundred of
them.
-/
def ofDayNumber (number : Nat) : Date :=
  let days := number + 719468
  let dayOfEra := days % 146097
  let yearOfEra := (dayOfEra - dayOfEra / 1460 + dayOfEra / 36524 - dayOfEra / 146096) / 365
  let dayOfYear := dayOfEra - (365 * yearOfEra + yearOfEra / 4 - yearOfEra / 100)
  let monthFromMarch := (5 * dayOfYear + 2) / 153
  let month := if monthFromMarch < 10 then monthFromMarch + 3 else monthFromMarch - 9
  { year := yearOfEra + days / 146097 * 400 + (if month ≤ 2 then 1 else 0)
    month
    day := dayOfYear - (153 * monthFromMarch + 2) / 5 + 1 }

/-- How many days have begun from the first day of the year 1 to a date. -/
def dayNumber (date : Date) : Nat :=
  let before := date.year - 1
  let months := (List.range (date.month - 1)).map fun month => daysIn date.year (month + 1)
  365 * before + before / 4 - before / 100 + before / 400 + months.foldl (· + ·) 0 + date.day

/-- A date as year, month and day. -/
def shown (date : Date) : Text :=
  Text.joinWith (Text.ofString "-")
    [Text.ofPadded 4 date.year, Text.ofPadded 2 date.month, Text.ofPadded 2 date.day]

/-- A date as the expression that makes it. -/
def literal (date : Date) : Text :=
  Text.ofString "datetime.date("
    ++ Text.listed ([date.year, date.month, date.day].map Text.ofNat) ++ Text.ofString ")"

end Date

/-- A span of seconds as the expression that makes it, in whole days and the seconds beyond them. -/
def spanLiteral (seconds : Int) : Text :=
  let days := seconds / 86400
  let rest := seconds % 86400
  let parts :=
    (if days = 0 then [] else [Text.ofString "days=" ++ Text.ofInt days])
      ++ (if rest = 0 then [] else [Text.ofString "seconds=" ++ Text.ofInt rest])
  Text.ofString "datetime.timedelta("
    ++ (if parts.isEmpty then Text.ofString "0" else Text.listed parts) ++ Text.ofString ")"

namespace Moment

/-- The seconds of universal time up to a moment whose offset is given. -/
def seconds (moment : Moment) (offset : Int) : Int :=
  (((moment.date.dayNumber * 24 + moment.hour) * 60 + moment.minute) * 60 + moment.second : Nat)
    - offset

/--
Whether two moments are the same: in universal time where both have an offset, and as they are
written where neither has.
-/
def isSame (left right : Moment) : Bool :=
  match left.offset, right.offset with
  | none, none => left = right
  | some leftOffset, some rightOffset =>
    left.seconds leftOffset = right.seconds rightOffset && left.microsecond = right.microsecond
  | _, _ => false

/-- The distance from universal time as a sign, hours and minutes. -/
def offsetShown (seconds : Int) : Text :=
  let minutes := seconds.natAbs / 60
  Text.ofString (if seconds < 0 then "-" else "+") ++ Text.ofPadded 2 (minutes / 60)
    ++ Text.ofString ":" ++ Text.ofPadded 2 (minutes % 60)

/-- A moment as date, time, fraction and offset. -/
def shown (moment : Moment) : Text :=
  moment.date.shown ++ Text.ofString " "
    ++ Text.joinWith (Text.ofString ":")
      ([moment.hour, moment.minute, moment.second].map (Text.ofPadded 2))
    ++ (if moment.microsecond = 0 then []
        else Text.ofString "." ++ Text.ofPadded 6 moment.microsecond)
    ++ (moment.offset.map offsetShown).getD []

/-- A moment as the expression that makes it. -/
def literal (moment : Moment) : Text :=
  let day := [moment.date.year, moment.date.month, moment.date.day, moment.hour, moment.minute]
  let numbers :=
    if moment.microsecond ≠ 0 then day ++ [moment.second, moment.microsecond]
    else if moment.second ≠ 0 then day ++ [moment.second]
    else day
  let zone (seconds : Int) : Text :=
    Text.ofString "tzinfo=" ++
      if seconds = 0 then Text.ofString "datetime.timezone.utc"
      else Text.ofString "datetime.timezone(" ++ spanLiteral seconds ++ Text.ofString ")"
  Text.ofString "datetime.datetime("
    ++ Text.listed (numbers.map Text.ofNat ++ (moment.offset.map zone).toList) ++ Text.ofString ")"

end Moment

end IndexWire
