import ScriptDate.Calendar.Year

/-!
# Months, days of the month and the clock

A time splits into a year, a month from zero, a day of the month from one, a day of the week from
Sunday, and the hour, minute, second and millisecond of the day.
-/

namespace ScriptDate.Calendar

/-- The days of a year before each of its months, without a leap day, and the whole year last. -/
def daysBefore : List Int := [0, 31, 59, 90, 120, 151, 181, 212, 243, 273, 304, 334, 365]

/-- The days of a year before its month `m`; from March on a leap day is among them. -/
def daysBeforeMonth (m : Nat) (leap : Bool) : Int :=
  daysBefore.getD m 365 + (if leap && 2 ≤ m then 1 else 0)

/-- The day of the year of a time, from zero. -/
def dayOfYear (t : Int) : Int := day t - firstDay (yearOf t)

/-- The month that holds a day of the year. -/
def monthOfDay (d : Int) (leap : Bool) : Nat :=
  ((List.range 12).find? fun m => d < daysBeforeMonth (m + 1) leap).getD 11

def monthOf (t : Int) : Nat := monthOfDay (dayOfYear t) (isLeap (yearOf t))

def dateOf (t : Int) : Int :=
  dayOfYear t - daysBeforeMonth (monthOf t) (isLeap (yearOf t)) + 1

/-- The day of the week, zero for Sunday; day zero was a Thursday. -/
def weekDay (t : Int) : Int := (day t + 4) % 7

def hourOf (t : Int) : Int := Number.quotient t msPerHour % 24
def minuteOf (t : Int) : Int := Number.quotient t msPerMinute % 60
def secondOf (t : Int) : Int := Number.quotient t msPerSecond % 60
def msOf (t : Int) : Int := t % msPerSecond

/-- The day number of a date; the month counts from zero and the day of the month from one. -/
def dayOfDate (year : Int) (month : Nat) (date : Int) : Int :=
  firstDay year + daysBeforeMonth month (isLeap year) + date - 1

/-- The length of a month. -/
def monthLength (year : Int) (month : Nat) : Int :=
  daysBeforeMonth (month + 1) (isLeap year) - daysBeforeMonth month (isLeap year)

/-- The calendar and clock fields of one time. -/
structure CivilTime where
  year : Int
  month : Nat
  date : Int
  weekDay : Int
  hour : Int
  minute : Int
  second : Int
  ms : Int

def CivilTime.ofTime (t : Int) : CivilTime where
  year := yearOf t
  month := monthOf t
  date := dateOf t
  weekDay := Calendar.weekDay t
  hour := hourOf t
  minute := minuteOf t
  second := secondOf t
  ms := msOf t

end ScriptDate.Calendar
