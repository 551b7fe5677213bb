import ScriptDate.Date.Format
import ScriptDate.Suite.Script

/-!
# The registered cases

Each case is a script over dates in the zone it is given: it prints what it formats and checks what
it compares.
-/

namespace ScriptDate.Suite

open Script

/-- A registered case. -/
structure Case where
  id : String
  description : String
  script : Zone → Script Unit

namespace Case

/-- Seconds set with and without milliseconds. -/
def seconds (zone : Zone) : Script Unit := do
  let d ← build zone [1900, 3, 2, 8, 10, 30]
  print d.toLocaleString
  let d ← set d (.seconds 20 none)
  same d.toLocaleString "Mon Apr  2 08:10:20 1900"
  let d ← set d (.seconds 20 (some 123))
  same d.toLocaleString "Mon Apr  2 08:10:20 1900"
  fields d [(.milliseconds, 123)]

/-- The components that the getters and the setters start from. -/
def christmas : List Number := [2023, 11, 25, 10, 30, 45, 123]

/-- Components read back field by field; a year of two digits, and one that is NaN. -/
def getters (zone : Zone) : Script Unit := do
  let d ← build zone christmas
  print d.toLocaleString
  fields d [(.fullYear, 2023)]
  fields d [(.month, 11)]
  fields d [(.date, 25)]
  fields d [(.day, 1)]
  fields d [(.hours, 10)]
  fields d [(.minutes, 30)]
  fields d [(.seconds, 45)]
  fields d [(.milliseconds, 123)]
  let d ← build zone [99, 0]
  fields d [(.fullYear, 1999), (.date, 1)]
  let d ← build zone [.nan, 0]
  check (!d.isValid && (d.getLocal .month).isNaN)

/-- Each setter from one date, and on an invalid date. -/
def setters (zone : Zone) : Script Unit := do
  let base ← build zone christmas
  let d ← set base (.milliseconds 7)
  fields d [(.milliseconds, 7), (.seconds, 45)]
  let d ← set base (.seconds 75 none)
  fields d [(.minutes, 31), (.seconds, 15), (.milliseconds, 123)]
  let d ← set base (.minutes 75 none none)
  fields d [(.hours, 11), (.minutes, 15), (.seconds, 45)]
  let d ← set base (.hours 23 (some 59) (some 59) (some 999))
  let d ← set d (.milliseconds 1000)
  same d.toLocaleString "Tue Dec 26 00:00:00 2023"
  let d ← set base (.date 32)
  fields d [(.fullYear, 2024), (.month, 0), (.date, 1), (.hours, 10)]
  let d ← set base (.fullYear 2024 (some 1) (some 29))
  same d.toLocaleDateString "Thu Feb 29 2024"
  let d ← set d (.fullYear 2025 none none)
  same d.toLocaleDateString "Sat Mar  1 2025"
  let d ← set base (.month 1 (some 31))
  fields d [(.month, 2), (.date, 3)]
  let change ← logged ((Date.invalid zone).set (.seconds 20 none))
  check change.returned.isNaN
  let d ← set change.date (.fullYear 2000 none none)
  fields d [(.fullYear, 2000), (.month, 0), (.date, 1)]

/-- The texts of a date, local and UTC, and of an invalid one. -/
def formats (zone : Zone) : Script Unit := do
  let d ← build zone [2009, 1, 13, 23, 31, 30]
  print d.toLocaleString
  same d.toLocaleString "Fri Feb 13 23:31:30 2009"
  same d.toLocaleDateString "Fri Feb 13 2009"
  same d.toLocaleTimeString "23:31:30"
  same d.toDateString "Fri Feb 13 2009"
  let u := Date.ofTime zone (TimeValue.utc [2009, 1, 13, 23, 31, 30])
  check (u.timeValue.equals 1234567890000)
  same u.toUTCString "Fri, 13 Feb 2009 23:31:30 GMT"
  let iso ← attempt u.toISOString
  same iso "2009-02-13T23:31:30.000Z"
  let invalid := Date.invalid zone
  same invalid.toLocaleString "Invalid Date"
  check (invalid.toISOString.toOption.isNone && invalid.toJSON.isNone)

end Case

/-- The cases in their order. -/
def registry : List Case :=
  [⟨"1030", "setSeconds() with and without milliseconds", Case.seconds⟩,
    ⟨"date-getters", "component constructor against local getters", Case.getters⟩,
    ⟨"date-setters", "local setters change only their fields and roll over", Case.setters⟩,
    ⟨"date-format", "locale, UTC and ISO string formats", Case.formats⟩]

/-- The registered case of an id. -/
def Case.ofId (id : String) : Except Failure Case :=
  match registry.find? fun case => case.id = id with
  | some case => .ok case
  | none => .error (.unknownCase id)

/-- The cases of ids, or all of them for no ids; the first unknown id is the error. -/
def Case.ofIds (ids : List String) : Except Failure (List Case) :=
  if ids.isEmpty then .ok registry else ids.mapM Case.ofId

end ScriptDate.Suite
