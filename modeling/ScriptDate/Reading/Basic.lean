import ScriptDate.Reading.MonthName
import ScriptDate.Reading.Pattern
import ScriptDate.Reading.Rfc2822
import ScriptDate.Reading.Rfc3339

/-!
# Reading a date

A text is tried in one form after another, and the first that it has decides. What it says is
either an instant or a local time: the zone of the reader has no part in reading it.
-/

namespace ScriptDate

open Reading

/-- What a text says, in milliseconds from the epoch. -/
inductive Reading where
  | instant (t : Int)
  | localTime (l : Int)
  deriving DecidableEq

namespace Reading

/-- A way to read a text. -/
abbrev Form : Type := List Char → Option Reading

/-- A form that gives instants. -/
def instantForm (read : List Char → Option Moment) : Form :=
  fun cs => (read cs).map fun m => .instant m.time

/-- A form that gives local times. -/
def localForm (read : List Char → Option Moment) : Form :=
  fun cs => (read cs).map fun m => .localTime m.time

/-- The forms in the order they are tried. Only the ISO forms have a way to say UTC, and the ISO
date alone is UTC. -/
def forms : List Form :=
  [instantForm Rfc3339.instant?, instantForm Rfc2822.instant?, localForm monthName?] ++
  Pattern.utcForms.map (fun items => instantForm (patternMoment? items)) ++
  Pattern.localForms.map (fun items => localForm (patternMoment? items)) ++
  [instantForm (patternMoment? (Pattern.yearFirst '-')),
    localForm (patternMoment? Pattern.monthFirst),
    localForm (patternMoment? (Pattern.yearFirst '/'))]

/-- What a text says by the first form it has. -/
def ofText? (cs : List Char) : Option Reading := forms.findSome? fun form => form cs

end Reading

end ScriptDate
