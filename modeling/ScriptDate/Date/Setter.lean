import ScriptDate.Date.Basic

/-!
# Setting fields

A setter replaces some local fields of a date. The fields it is not given keep their values, all
of them are combined anew into a local time, and the instant of that time becomes the date's. An
invalid date has no fields to keep, so it stays invalid, except that a time replaces any other
and a year starts from the first instant of 1970.
-/

namespace ScriptDate

open Calendar TimeValue

/-- A setter and its arguments. -/
inductive Setter where
  | time (t : Number)
  | milliseconds (ms : Number)
  | seconds (second : Number) (ms : Option Number)
  | minutes (minute : Number) (second ms : Option Number)
  | hours (hour : Number) (minute second ms : Option Number)
  | date (date : Number)
  | month (month : Number) (date : Option Number)
  | fullYear (year : Number) (month date : Option Number)
  deriving DecidableEq

namespace Setter

/-- The name a script calls it by. -/
def name : Setter → String
  | .time _ => "setTime"
  | .milliseconds _ => "setMilliseconds"
  | .seconds .. => "setSeconds"
  | .minutes .. => "setMinutes"
  | .hours .. => "setHours"
  | .date _ => "setDate"
  | .month .. => "setMonth"
  | .fullYear .. => "setFullYear"

/-- The local time of `t` with another clock; a missing part keeps its value. -/
def withClock (t : Int) (hour minute second ms : Option Number) : Number :=
  join (.ofInt (day t))
    (clockTime (hour.getD (Date.Field.hours.ofTime t)) (minute.getD (Date.Field.minutes.ofTime t))
      (second.getD (Date.Field.seconds.ofTime t)) (ms.getD (Date.Field.milliseconds.ofTime t)))

/-- The local time of `t` on another day; a missing part keeps its value. -/
def withDay (t : Int) (year month date : Option Number) : Number :=
  join
    (dayNumber (year.getD (Date.Field.fullYear.ofTime t)) (month.getD (Date.Field.month.ofTime t))
      (date.getD (Date.Field.date.ofTime t)))
    (.ofInt (timeOfDay t))

/-- The local time that a setter of local fields asks for, from the local time of a valid date. -/
def localTarget? : Setter → Option Int → Option Number
  | .fullYear y m d, now => some (withDay (now.getD 0) (some y) m d)
  | .time _, _ | _, none => none
  | .milliseconds n, some t => some (withClock t none none none (some n))
  | .seconds s n, some t => some (withClock t none none (some s) n)
  | .minutes m s n, some t => some (withClock t none (some m) s n)
  | .hours h m s n, some t => some (withClock t (some h) m s n)
  | .date d, some t => some (withDay t none none (some d))
  | .month m d, some t => some (withDay t none (some m) d)

/-- The time value that a setter asks for on a date, if it asks for any. -/
def target? (s : Setter) (d : Date) : Logged (Option Number) :=
  match s with
  | .time t => pure (some t)
  | _ =>
    match s.localTarget? d.localTime? with
    | some l => do return some (← d.zone.readLocal l)
    | none => pure none

/-- What the log says of a setter. -/
def record (s : Setter) (t : Number) : LogRecord :=
  ⟨.debug, "Date.prototype.".toList ++ s.name.toList ++ " -> ".toList ++ t.plainText⟩

end Setter

namespace Date

/-- A date after a setter, and what the setter returned. -/
structure Change where
  date : Date
  returned : Number

/-- Calls a setter. It returns the new time value, and NaN when it changes nothing. -/
def set (d : Date) (s : Setter) : Logged Change := do
  match ← s.target? d with
  | some u =>
    let t := clip u
    .note (s.record t)
    return ⟨{ d with timeValue := t }, t⟩
  | none => return ⟨d, .nan⟩

end Date

end ScriptDate
