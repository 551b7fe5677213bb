import ScriptDate.Calendar.CivilTime

/-!
# The span of read dates

Dates are read, and a host's zone rules apply, in a span of years on both sides of the epoch that
covers most time values but not all.
-/

namespace ScriptDate.Calendar

/-- The first year of the span. -/
def firstYear : Int := -262143

/-- The last year of the span. -/
def lastYear : Int := 262142

/-- A year of the span. -/
def inSpan (year : Int) : Bool := firstYear ≤ year && year ≤ lastYear

/-- A time of a year in the span. -/
def timeInSpan (t : Int) : Bool := yearStart firstYear ≤ t && t < yearStart (lastYear + 1)

/-- The number of a day in the span, by its year, its month from one and its day of the month,
when there is such a day. -/
def civilDay? (year : Int) (month date : Nat) : Option Int :=
  if inSpan year && 1 ≤ month && month ≤ 12 && 1 ≤ date &&
      (date : Int) ≤ monthLength year (month - 1) then
    some (dayOfDate year (month - 1) date)
  else none

end ScriptDate.Calendar
