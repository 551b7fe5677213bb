import ScriptDate.Calendar.CivilTime
import ScriptDate.Number.Basic

/-!
# Time values from fields

A time value is a number of milliseconds since the start of 1 January 1970, and NaN stands for no
time. Fields of any size combine into one: each is taken toward zero, what exceeds its range
carries into the next larger field, and only the result is held to the range of time values.
-/

namespace ScriptDate.TimeValue

open Calendar

/-- The largest magnitude of a time value, a hundred million days. -/
def maxTime : Number := 8640000000000000

/-- The components a date may be built from: year, month, date, hours, minutes, seconds and
milliseconds. -/
def maxComponents : Nat := 7

/-- The largest year that `dayNumber` counts days for, on both sides of zero. -/
def maxYear : Number := 400000

/-- The milliseconds of a day that clock fields stand for, in units from hours down. -/
def clockTime (hour minute second ms : Number) : Number :=
  if hour.isFinite && minute.isFinite && second.isFinite && ms.isFinite then
    hour.trunc * Number.ofInt msPerHour + minute.trunc * Number.ofInt msPerMinute +
      second.trunc * Number.ofInt msPerSecond + ms.trunc
  else .nan

/-- The day number of a year, a month from zero and a day of the month from one. The month may lie
outside its year, which it then moves. -/
def dayNumber (year month date : Number) : Number :=
  if year.isFinite && month.isFinite && date.isFinite then
    let y := year.trunc + (month.trunc / 12).floor
    if maxYear.lt y.abs then .nan
    else
      let m := month.trunc.toInt % 12
      Number.ofInt (firstDay y.toInt + daysBeforeMonth m.toNat (isLeap y.toInt)) + date.trunc - 1
  else .nan

/-- The time value of a day number and the milliseconds of that day. -/
def join (day time : Number) : Number :=
  if day.isFinite && time.isFinite then
    let t := day * Number.ofInt msPerDay + time
    if t.isFinite then t else .nan
  else .nan

/-- Holds a number to the range of time values: NaN outside it, and a whole number, never a
negative zero, inside. -/
def clip (t : Number) : Number :=
  if !t.isFinite || maxTime.lt t.abs then .nan else t.trunc + 0

/-- A year of 0 to 99 stands for one of the twentieth century. -/
def fullYear (year : Number) : Number :=
  if year.isNaN then year
  else
    let y := year.trunc
    if !y.lt 0 && !Number.lt 99 y then 1900 + y else year

/-- The time value of a list of components. A missing day of the month is the first, and any other
missing component but the year is zero. -/
def ofComponents (components : List Number) : Number :=
  let component (i : Nat) (missing : Number) : Number := components.getD i missing
  join (dayNumber (fullYear (component 0 .nan)) (component 1 0) (component 2 1))
    (clockTime (component 3 0) (component 4 0) (component 5 0) (component 6 0))

/-- Between one component and all seven. -/
def acceptable (components : List Number) : Bool :=
  !components.isEmpty && components.length ≤ maxComponents

/-- The time value of components read as UTC, held to the range of time values. -/
def utc (components : List Number) : Number :=
  if acceptable components then clip (ofComponents components) else .nan

end ScriptDate.TimeValue
