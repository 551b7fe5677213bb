import ScriptDate.Date.Basic
import ScriptDate.Reading.Basic

/-!
# Dates from text

An instant read from a text is a time value as it stands; a local time is resolved in the zone.
-/

namespace ScriptDate

open TimeValue

/-- The time value that a reading has in a zone. -/
def Reading.timeValue (zone : Zone) : Reading → Logged Number
  | .instant t => pure (.ofInt t)
  | .localTime l => do return clip (← zone.readLocal (.ofInt l))

/-- The time value that a text gives in a zone, blanks around it aside. -/
def Date.parse (zone : Zone) (text : String) : Logged (Option Number) :=
  match Reading.ofText? (Text.trim text.toList) with
  | some reading => do return some (← reading.timeValue zone)
  | none => pure none

end ScriptDate
