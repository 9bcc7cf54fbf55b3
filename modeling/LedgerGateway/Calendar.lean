/-!
# The calendar

A moment is counted in seconds from the beginning of 1970, and split into the parts that a clock
and a calendar show. Years are counted in eras of 400, which all have the same number of days, and
begin in March, so that a leap day is the last of its year.
-/

namespace LedgerGateway

/-- The parts of a moment. -/
structure Clock where
  year : Int
  /-- From 1 to 12. -/
  month : Nat
  /-- From 1 to 31. -/
  day : Nat
  hour : Nat
  minute : Nat
  second : Nat
  /-- From 0 for Sunday. -/
  weekday : Nat
  /-- From 0. -/
  yearday : Nat
  deriving DecidableEq, Repr

namespace Clock

/-- Days from the beginning of the era of year 0, in March, to the beginning of 1970. -/
def eraOffset : Int := 719468

/-- Days in an era. -/
def eraDays : Int := 146097

/-- The year of an era on a day of the era. -/
def yearOfEra (day : Nat) : Nat := (day - day / 1460 + day / 36524 - day / 146096) / 365

/-- The day of a year that begins in March. -/
def dayOfYear (day year : Nat) : Nat := day - (365 * year + year / 4 - year / 100)

/-- Whether the year has a 29th of February. -/
def isLeap (year : Int) : Bool := (year % 4 = 0 && year % 100 ≠ 0) || year % 400 = 0

/-- Days of a year in front of a month. -/
def daysBefore (year : Int) (month : Nat) : Nat :=
  let usual := [0, 31, 59, 90, 120, 151, 181, 212, 243, 273, 304, 334].getD (month - 1) 0
  if 2 < month ∧ isLeap year then usual + 1 else usual

/-- The moment a number of seconds after the beginning of 1970. -/
def ofSeconds (seconds : Int) : Clock :=
  let days := seconds.fdiv 86400
  let rest := (seconds.fmod 86400).toNat
  let era := (days + eraOffset).fdiv eraDays
  let dayOfEra := ((days + eraOffset).fmod eraDays).toNat
  let yearInEra := yearOfEra dayOfEra
  let marchDay := dayOfYear dayOfEra yearInEra
  let marchMonth := (5 * marchDay + 2) / 153
  let day := marchDay - (153 * marchMonth + 2) / 5 + 1
  let month := if marchMonth < 10 then marchMonth + 3 else marchMonth - 9
  let year := era * 400 + yearInEra + (if month ≤ 2 then 1 else 0)
  { year, month, day
    hour := rest / 3600
    minute := rest / 60 % 60
    second := rest % 60
    weekday := ((days + 4).fmod 7).toNat
    yearday := daysBefore year month + day - 1 }

/-- The week of the year, when weeks begin on a weekday and those before the first such day count
as week 0. -/
def weekFrom (c : Clock) (first : Nat) : Nat := (c.yearday + 7 - (c.weekday + 7 - first) % 7) / 7

/-- How many weeks the year has that begin on a Monday and have their Thursday in it, when the year
begins on the given weekday. -/
def isoWeeks (year : Int) (firstWeekday : Nat) : Nat :=
  if firstWeekday = 4 ∨ (firstWeekday = 3 ∧ isLeap year) then 53 else 52

/-- The year and the week that the Thursday of this week lies in. -/
def isoWeek (c : Clock) : Int × Nat :=
  let firstWeekday := (c.weekday + 371 - c.yearday) % 7
  let week := (c.yearday + 10 - (c.weekday + 6) % 7) / 7
  if week = 0 then
    let before := c.year - 1
    let length := if isLeap before then 366 else 365
    (before, isoWeeks before ((firstWeekday + 371 - length) % 7))
  else if isoWeeks c.year firstWeekday < week then (c.year + 1, 1)
  else (c.year, week)

end Clock

end LedgerGateway
