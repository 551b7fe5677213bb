import ScriptDate.Calendar.Span
import ScriptDate.Text.Reader

/-!
# Moments

A civil date and a clock reading make a moment, the start of a second and the milliseconds run on
from it. A leap second is read as the second before it run on for another thousand.
-/

namespace ScriptDate.Reading

open Calendar Text

/-- A moment of some clock, in seconds from the epoch and milliseconds after them. -/
structure Moment where
  seconds : Int
  ms : Int

/-- The milliseconds from the epoch. -/
def Moment.time (m : Moment) : Int := m.seconds * msPerSecond + m.ms

/-- The moment of a clock ahead by some seconds, told by a clock at UTC. -/
def Moment.behind (m : Moment) (offset : Int) : Moment := ⟨m.seconds - offset, m.ms⟩

/-- The calendar and clock fields that a text gives; the month counts from one. -/
structure Parts where
  year : Int := 1970
  month : Nat := 1
  date : Nat := 1
  hour : Nat := 0
  minute : Nat := 0
  second : Nat := 0
  ms : Nat := 0

/-- The moment of the fields, when there is such a day and such a time. -/
def Parts.moment? (p : Parts) : Option Moment := do
  let day ← civilDay? p.year p.month p.date
  if p.hour ≤ 23 && p.minute ≤ 59 && p.second ≤ 60 then
    let minutes := (day * 24 + p.hour) * 60 + p.minute
    if p.second = 60 then some ⟨minutes * 60 + 59, 1000 + p.ms⟩
    else some ⟨minutes * 60 + p.second, p.ms⟩
  else none

/-- The milliseconds that the digits of a fraction of a second begin with. -/
def fractionMs (ds : List Char) : Nat :=
  ofDigits ((ds ++ ['0', '0']).take 3)

/-- A fraction of a second after a point, in milliseconds, and zero when there is no point. -/
def fraction? : List Char → Option (Nat × List Char)
  | '.' :: rest =>
    let ds := rest.takeWhile Char.isDigit
    if ds.isEmpty then none else some (fractionMs ds, rest.dropWhile Char.isDigit)
  | cs => some (0, cs)

/-- An offset of hours and minutes in seconds, under a day. -/
def offsetSeconds? (factor : Int) (hours minutes : Nat) : Option Int :=
  if hours ≤ 23 && minutes ≤ 59 then some (factor * (3600 * (hours : Int) + 60 * (minutes : Int)))
  else none

end ScriptDate.Reading
