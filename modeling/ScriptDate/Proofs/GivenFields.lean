import ScriptDate.Date.Setter
import ScriptDate.Proofs.Components

/-!
# The fields a setter is given

A setter replaces fields of the clock, or fields of the calendar, by what it is given
(`Setter.localTarget?_cases`). Either way it asks for one local time: that of the fields it is
given, each taken toward zero, and of the old values of all others, with what exceeds a range
carried on (`Setter.localTarget?_eq`).
-/

namespace ScriptDate

open Calendar Number

namespace Date

def calendarFields : List Field := [.fullYear, .month, .date]

def clockFields : List Field := [.hours, .minutes, .seconds, .milliseconds]

/-- The fields that make a date, in the order of its components. -/
def componentFields : List Field := calendarFields ++ clockFields

/-- The milliseconds of the day that the fields of a clock come to. -/
def clockMs (x : Field → Int) : Int :=
  3600000 * x .hours + 60000 * x .minutes + 1000 * x .seconds + x .milliseconds

theorem clockMs_eq (x : Field → Int) : clockMs x = x .hours * msPerHour
    + x .minutes * msPerMinute + x .seconds * msPerSecond + x .milliseconds := by
  unfold clockMs msPerHour msPerMinute msPerSecond
  ring

end Date

open Date

namespace Setter

/-- The value that a setter is given for a field. -/
def given : Setter → Field → Option Number
  | .milliseconds n, .milliseconds => some n
  | .seconds s _, .seconds => some s
  | .seconds _ n, .milliseconds => n
  | .minutes m _ _, .minutes => some m
  | .minutes _ s _, .seconds => s
  | .minutes _ _ n, .milliseconds => n
  | .hours h _ _ _, .hours => some h
  | .hours _ m _ _, .minutes => m
  | .hours _ _ s _, .seconds => s
  | .hours _ _ _ n, .milliseconds => n
  | .date d, .date => some d
  | .month m _, .month => some m
  | .month _ d, .date => d
  | .fullYear y _ _, .fullYear => some y
  | .fullYear _ m _, .month => m
  | .fullYear _ _ d, .date => d
  | _, _ => none

def arguments : Setter → List Number
  | .time t => [t]
  | s => componentFields.filterMap s.given

def isLocal : Setter → Bool
  | .time _ => false
  | _ => true

def setsMonth : Setter → Bool
  | .month .. | .fullYear .. => true
  | _ => false

/-- What a setter asks of a field: the value it is given, toward zero, or else the old one. -/
def asked (s : Setter) (old : Field → Int) (field : Field) : Int :=
  ((s.given field).map whole).getD (old field)

/-- The year that the month asked for falls into. -/
def askedYear (s : Setter) (old : Field → Int) : Int :=
  s.asked old .fullYear + s.asked old .month / 12

def askedMonth (s : Setter) (old : Field → Int) : Nat := (s.asked old .month % 12).toNat

/-- The day asked for, counted on from the first of the month. -/
def askedDay (s : Setter) (old : Field → Int) : Int :=
  Gregorian.dayNumber (s.askedYear old) (s.askedMonth old) 1 + s.asked old .date - 1

/-- The local time asked for. -/
def askedTime (s : Setter) (old : Field → Int) : Int :=
  86400000 * s.askedDay old + clockMs (s.asked old)

variable {s : Setter} {old : Field → Int} {field : Field} {v : Number} {L : Int}

theorem mem_componentFields : field ∈ componentFields ↔ field ≠ .day := by
  cases field <;> simp [componentFields, calendarFields, clockFields]

theorem given_day (s : Setter) : s.given .day = none := by
  cases s <;> rfl

theorem ne_day_of_given (h : s.given field = some v) : field ≠ .day := by
  rintro rfl
  simp [given_day] at h

theorem mem_arguments (h : s.given field = some v) : v ∈ s.arguments := by
  cases s with
  | time t => simp [given] at h
  | _ => exact List.mem_filterMap.mpr ⟨field, mem_componentFields.mpr (ne_day_of_given h), h⟩

theorem exists_given (hs : s.isLocal = true) (h : v ∈ s.arguments) :
    ∃ field, s.given field = some v := by
  cases s with
  | time t => simp [isLocal] at hs
  | _ =>
    obtain ⟨field, -, hfield⟩ := List.mem_filterMap.mp h
    exact ⟨field, hfield⟩

theorem asked_of_none (h : s.given field = none) : s.asked old field = old field := by
  simp [asked, h]

/-- What a setter of local fields asks for, from a local time. -/
theorem localTarget?_cases (h : s.isLocal = true) (L : Int) :
    ((∀ field ∈ calendarFields, s.given field = none)
      ∧ s.localTarget? (some L) = some (withClock L (s.given .hours) (s.given .minutes)
        (s.given .seconds) (s.given .milliseconds)))
    ∨ ((∀ field ∈ clockFields, s.given field = none)
      ∧ s.localTarget? (some L) = some (withDay L (s.given .fullYear) (s.given .month)
        (s.given .date))) := by
  cases s with
  | time t => simp [isLocal] at h
  | milliseconds | seconds | minutes | hours =>
    exact Or.inl ⟨by simp [calendarFields, given], rfl⟩
  | date | month | fullYear => exact Or.inr ⟨by simp [clockFields, given], rfl⟩

/-! ## The local time asked for -/

theorem asked_spec (hL : L.natAbs ≤ maxLocalTime) (hs : TimeValue.Moderate s.arguments)
    (hfield : field ≠ .day) :
    ((s.given field).getD (field.ofTime L)).trunc.Holds (s.asked (CivilTime.ofTime L).field field)
      ∧ (s.asked (CivilTime.ofTime L).field field).natAbs ≤ 10 ^ 9 := by
  refine TimeValue.trunc_getD (fun v hv => hs v (mem_arguments hv)) ?_
    ((CivilTime.proper_ofTime hL).natAbs_field hfield)
  exact (CivilTime.holds_field hL field).trunc

theorem askedTime_eq (s : Setter) (old : Field → Int) : s.askedTime old
    = dayOfDate (s.askedYear old) (s.askedMonth old) (s.asked old .date) * msPerDay
      + clockMs (s.asked old) := by
  have hmonth : s.askedMonth old ≤ 12 := by unfold askedMonth; omega
  rw [askedTime, askedDay, ← Gregorian.dayOfDate_eq hmonth]
  unfold dayOfDate msPerDay
  ring

theorem natAbs_askedTime (hL : L.natAbs ≤ maxLocalTime) (hs : TimeValue.Moderate s.arguments)
    (hyear : (s.askedYear (CivilTime.ofTime L).field).natAbs ≤ 400000) :
    (s.askedTime (CivilTime.ofTime L).field).natAbs < 2 ^ 64 := by
  have hspec (field : Field) (hfield : field ≠ .day) := (asked_spec hL hs hfield).2
  have hd := hspec .date (by simp)
  have hh := hspec .hours (by simp)
  have hi := hspec .minutes (by simp)
  have hs := hspec .seconds (by simp)
  have hn := hspec .milliseconds (by simp)
  have hday := TimeValue.natAbs_dayOfDate hyear
    (m := s.askedMonth (CivilTime.ofTime L).field) (by unfold askedMonth; omega) hd
  rw [askedTime_eq, clockMs]
  unfold msPerDay
  omega

/-- Where the old year and month are asked for, they need no carry. -/
theorem asked_month (hL : L.natAbs ≤ maxLocalTime)
    (hy : s.asked (CivilTime.ofTime L).field .fullYear = yearOf L)
    (hm : s.asked (CivilTime.ofTime L).field .month = monthOf L) :
    s.askedYear (CivilTime.ofTime L).field = yearOf L
      ∧ s.askedMonth (CivilTime.ofTime L).field = monthOf L := by
  have hmonth := (CivilTime.proper_ofTime hL).month
  simp only [CivilTime.ofTime] at hmonth
  rw [askedYear, askedMonth, hy, hm]
  omega

/-- Where no field of the clock is given, the time of the day asked for is the old one. -/
theorem clockMs_asked (hnone : ∀ field ∈ clockFields, s.given field = none) (old : Field → Int) :
    clockMs (s.asked old) = clockMs old := by
  simp only [clockFields, List.forall_mem_cons] at hnone
  obtain ⟨hh, hi, hs, hn, -⟩ := hnone
  rw [clockMs, asked_of_none hh, asked_of_none hi, asked_of_none hs, asked_of_none hn]
  rfl

theorem clockMs_ofTime (hL : L.natAbs ≤ maxLocalTime) :
    clockMs (CivilTime.ofTime L).field = timeOfDay L := by
  rw [← clock_eq_timeOfDay (CivilTime.small_of_local hL), clockMs_eq]
  rfl

/-- A setter of local fields asks for the local time of the fields it is given and of the old
ones, rounded once, where its year is in range. -/
theorem localTarget?_eq (h : s.isLocal = true) (hs : TimeValue.Moderate s.arguments)
    (hL : L.natAbs ≤ maxLocalTime) :
    s.localTarget? (some L)
      = some (if 400000 < (s.askedYear (CivilTime.ofTime L).field).natAbs then .nan
          else .ofInt (s.askedTime (CivilTime.ofTime L).field)) := by
  have hproper := CivilTime.proper_ofTime hL
  have hspec (field : Field) (hfield : field ≠ .day) := asked_spec hL hs hfield
  -- Of the two parts that are joined, the one that is not given is the old one.
  rcases localTarget?_cases h L with ⟨hnone, htarget⟩ | ⟨hnone, htarget⟩
  · simp only [calendarFields, List.forall_mem_cons] at hnone
    obtain ⟨hy, hm, hd, -⟩ := hnone
    obtain ⟨hyear, hmonth⟩ := asked_month hL (asked_of_none hy) (asked_of_none hm)
    have hday : dayOfDate (s.askedYear (CivilTime.ofTime L).field)
        (s.askedMonth (CivilTime.ofTime L).field) (s.asked (CivilTime.ofTime L).field .date)
        = day L := by
      rw [hyear, hmonth, asked_of_none hd]
      exact dayOfDate_dateOf L
    have hbound := CivilTime.dayOfDate_bounds hproper
    simp only [CivilTime.ofTime, dayOfDate_dateOf] at hbound
    obtain ⟨hh, bh⟩ := hspec .hours (by simp)
    obtain ⟨hi, bi⟩ := hspec .minutes (by simp)
    obtain ⟨hs, bs⟩ := hspec .seconds (by simp)
    obtain ⟨hn, bn⟩ := hspec .milliseconds (by simp)
    have hclock := TimeValue.clockTime_holds hh hi hs hn bh bi bs bn
    rw [← clockMs_eq (s.asked (CivilTime.ofTime L).field)] at hclock
    have hyears := yearOf_bounds hL
    rw [htarget, withClock, TimeValue.join_eq (by omega) hclock (by unfold clockMs; omega),
      askedTime_eq, hday, hyear, if_neg (by omega)]
  · obtain ⟨hy, by'⟩ := hspec .fullYear (by simp)
    obtain ⟨hm, bm⟩ := hspec .month (by simp)
    obtain ⟨hd, bd⟩ := hspec .date (by simp)
    have hsmall : (timeOfDay L).natAbs < 2 ^ 53 := by
      have hrange := timeOfDay_range L
      unfold msPerDay at hrange
      omega
    rw [htarget, withDay, TimeValue.join_dayNumber hy hm hd by' bm bd (holds_ofInt hsmall) hsmall,
      askedTime_eq, clockMs_asked hnone, clockMs_ofTime hL]
    rfl

end Setter

/-! ## Setting -/

namespace Date

/-- The change of a date to a time value, which is returned too. -/
def changed (d : Date) (t : Number) : Change := ⟨{ d with timeValue := t }, t⟩

theorem set_of_localTarget? {d : Date} {s : Setter} {l : Number} (hs : s.isLocal = true)
    (h : s.localTarget? d.localTime? = some l) :
    (d.set s).value = d.changed (TimeValue.clip (d.zone.toUTC l)) := by
  have htarget : (s.target? d).value = some (d.zone.toUTC l) := by
    cases s with
    | time t => simp [Setter.isLocal] at hs
    | _ => simp only [Setter.target?, h]; rfl
  unfold set
  rw [Noted.value_bind, htarget]
  rfl

end Date

end ScriptDate
