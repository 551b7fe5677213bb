import ScriptDate.Number.Basic

/-!
# Days and years

The proleptic Gregorian calendar over all whole years, with days counted from 1 January 1970 and
times in milliseconds from the start of that day. `firstDay` counts leap days in closed form;
`firstDay_succ` says that it advances by the length of the year, and so the year that holds a
time is found by stepping from an estimate, up or down, until the time lies inside.
-/

namespace ScriptDate.Calendar

def msPerSecond : Int := 1000
def msPerMinute : Int := 60000
def msPerHour : Int := 3600000
def msPerDay : Int := 86400000

/-- The milliseconds of the mean year of 365.2425 days. -/
def msPerMeanYear : Int := 31556952000

/-- The day that holds a time. -/
def day (t : Int) : Int := Number.quotient t msPerDay

/-- The milliseconds of a time since its day began. -/
def timeOfDay (t : Int) : Int := t % msPerDay

/-- Every fourth year, except three centuries out of four. -/
def isLeap (y : Int) : Bool := y % 4 = 0 && (y % 100 != 0 || y % 400 = 0)

def yearLength (y : Int) : Int := if isLeap y then 366 else 365

/-- The number of 1 January of a year. -/
def firstDay (y : Int) : Int :=
  365 * (y - 1970) + (y - 1969) / 4 - (y - 1901) / 100 + (y - 1601) / 400

/-- The time at which a year begins. -/
def yearStart (y : Int) : Int := msPerDay * firstDay y

theorem firstDay_succ (y : Int) : firstDay (y + 1) = firstDay y + yearLength y := by
  unfold firstDay yearLength isLeap
  by_cases h4 : y % 4 = 0 <;> by_cases h100 : y % 100 = 0 <;> by_cases h400 : y % 400 = 0 <;>
    simp [h4, h100, h400] <;> omega

theorem yearStart_lt_succ (y : Int) : yearStart y < yearStart (y + 1) := by
  have h : 365 ≤ yearLength y := by unfold yearLength; split <;> omega
  unfold yearStart msPerDay
  rw [firstDay_succ]
  omega

/-- The last year up to `y` that has begun at time `t`. -/
def yearDown (t y : Int) : Int :=
  if t < yearStart y then yearDown t (y - 1) else y
termination_by (yearStart y - t).toNat
decreasing_by
  have h := yearStart_lt_succ (y - 1)
  rw [Int.sub_add_cancel] at h
  omega

/-- The first year from `y` on after which no other has begun at time `t`. -/
def yearUp (t y : Int) : Int :=
  if yearStart (y + 1) ≤ t then yearUp t (y + 1) else y
termination_by (t - yearStart y).toNat
decreasing_by
  have h := yearStart_lt_succ y
  omega

/-- The year that holds a time if all years had the mean length. -/
def yearEstimate (t : Int) : Int := Number.quotient t msPerMeanYear + 1970

/-- The year that holds a time. -/
def yearOf (t : Int) : Int := yearUp t (yearDown t (yearEstimate t))

end ScriptDate.Calendar
