import ScriptDate.TimeValue
import ScriptDate.Zone.Name

/-!
# Dates

A date is a time value and the zone its local fields are read in. It is built from a time value or
from components, always through `TimeValue.clip`, and an invalid one holds NaN.
-/

namespace ScriptDate

open Calendar TimeValue

/-- A time value, and the zone of the local fields. -/
structure Date where
  timeValue : Number
  zone : Zone

namespace Date

/-- The date of a number as a time value. -/
def ofTime (zone : Zone) (t : Number) : Date := ⟨clip t, zone⟩

/-- The date of no time. -/
def invalid (zone : Zone) : Date := ⟨.nan, zone⟩

/-- Numbers between brackets, each with its point. -/
def listText (xs : List Number) : List Char :=
  '[' :: ", ".toList.intercalate (xs.map Number.pointedText) ++ [']']

/-- What the log says of a date built from components. -/
def componentsRecord (zone : Zone) (components : List Number) (t : Number) : LogRecord :=
  ⟨.debug, "Date::from_components ".toList ++ listText components ++ " in ".toList ++ zone.text ++
    " -> ".toList ++ t.plainText⟩

/-- The date of components read as local time, and invalid when they are none or too many. -/
def ofComponents (zone : Zone) (components : List Number) : Logged Date :=
  if acceptable components then do
    let t ← zone.readLocal (TimeValue.ofComponents components)
    let date := ofTime zone t
    .note (componentsRecord zone components date.timeValue)
    return date
  else pure (invalid zone)

def isValid (d : Date) : Bool := !d.timeValue.isNaN

/-- Two dates are equal when their time values are as numbers and their zones are the same. -/
def equals (a b : Date) : Bool := a.timeValue.equals b.timeValue && a.zone = b.zone

/-- The time value of a valid date. -/
def utcTime? (d : Date) : Option Int := if d.isValid then some d.timeValue.toInt else none

/-- The local time of a valid date. -/
def localTime? (d : Date) : Option Int :=
  if d.isValid then some (d.zone.toLocal d.timeValue).toInt else none

/-! ## Fields -/

/-- A field of a date. -/
inductive Field where
  | fullYear
  | month
  | date
  | day
  | hours
  | minutes
  | seconds
  | milliseconds
  deriving DecidableEq

/-- The value of a field at a time. Fields that come round keep the sign of a remainder. -/
def Field.ofTime (t : Int) : Field → Number
  | .fullYear => .ofInt (yearOf t)
  | .month => .ofInt (monthOf t)
  | .date => .ofInt (dateOf t)
  | .day => .remainder (Calendar.day t + 4) 7
  | .hours => .remainder (Number.quotient t msPerHour) 24
  | .minutes => .remainder (Number.quotient t msPerMinute) 60
  | .seconds => .remainder (Number.quotient t msPerSecond) 60
  | .milliseconds => .remainder t msPerSecond

/-- A field in local time, and NaN for an invalid date. -/
def getLocal (d : Date) (field : Field) : Number :=
  (d.localTime?.map field.ofTime).getD .nan

/-- A field in UTC, and NaN for an invalid date. -/
def getUTC (d : Date) (field : Field) : Number := (d.utcTime?.map field.ofTime).getD .nan

/-- The minutes to add to local time for UTC. -/
def timezoneOffset (d : Date) : Number :=
  if d.isValid then (d.timeValue - d.zone.toLocal d.timeValue) / 60000 else .nan

end Date

end ScriptDate
