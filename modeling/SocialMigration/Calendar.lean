import SocialMigration.Text.Basic

/-!
# Calendar

Dates of the Gregorian calendar from the year one, times of day to the microsecond, and both as a
number on one axis. A moment is written in full for the report and to the minute for the name of a
run folder.
-/

namespace SocialMigration

/-- A date and a time of day. -/
structure Moment where
  year : Nat
  month : Nat
  day : Nat
  hour : Nat
  minute : Nat
  second : Nat
  microsecond : Nat
  deriving DecidableEq, Repr

namespace Calendar

/-- Whether a year has a leap day. -/
def isLeap (year : Nat) : Bool :=
  year % 4 == 0 && (year % 100 != 0 || year % 400 == 0)

/-- The number of days of a month. -/
def daysInMonth (year month : Nat) : Nat :=
  if month == 2 then if isLeap year then 29 else 28
  else if month == 4 || month == 6 || month == 9 || month == 11 then 30
  else 31

/-- The number of days before a year, from the year one on. -/
def daysBeforeYear (year : Nat) : Nat :=
  let past := year - 1
  past * 365 + past / 4 - past / 100 + past / 400

/-- The number of days of a year before a month. -/
def daysBeforeMonth (year month : Nat) : Nat :=
  (List.range (month - 1)).foldl (fun days index => days + daysInMonth year (index + 1)) 0

/-- The number of a date, where the first day of the year one has the number one. -/
def dayNumber (year month day : Nat) : Nat :=
  daysBeforeYear year + daysBeforeMonth year month + day

/-- The microseconds of a day. -/
def microsecondsPerDay : Nat := 86400 * 1000000

end Calendar

namespace Moment

/-- The number of a moment's date. -/
def dayNumber (moment : Moment) : Nat :=
  Calendar.dayNumber moment.year moment.month moment.day

/-- The microseconds from the day before the first to a moment. -/
def instant (moment : Moment) : Nat :=
  moment.dayNumber * Calendar.microsecondsPerDay +
    ((moment.hour * 60 + moment.minute) * 60 + moment.second) * 1000000 + moment.microsecond

/-- A moment of universal time in the report: the fraction of a second only if there is one. -/
def report (moment : Moment) : Text :=
  let fraction : Text :=
    if moment.microsecond == 0 then [] else [0x2E] ++ Text.paddedNat 6 moment.microsecond
  Text.paddedNat 4 moment.year ++ "-" ++ Text.paddedNat 2 moment.month ++ "-" ++
    Text.paddedNat 2 moment.day ++ "T" ++ Text.paddedNat 2 moment.hour ++ ":" ++
    Text.paddedNat 2 moment.minute ++ ":" ++ Text.paddedNat 2 moment.second ++ fraction ++ "+00:00"

/-- A moment in the name of a run folder: the date, and the time of day to the minute. The year is
not padded. -/
def stamp (moment : Moment) : Text :=
  Text.ofNat moment.year ++ Text.paddedNat 2 moment.month ++ Text.paddedNat 2 moment.day ++ "_" ++
    Text.paddedNat 2 moment.hour ++ Text.paddedNat 2 moment.minute

end Moment

end SocialMigration
