import Mathlib.Algebra.BigOperators.Group.Finset.Basic
import ScriptDate.Proofs.CivilFields

/-!
# The proleptic Gregorian calendar

The calendar by the rules people state it in: which years are leap years, how long each month is,
and which day comes next. Days counted up in lengths of months are the day numbers of the closed
form (`dayOfDate_eq`), and a day later a time shows the next day of this calendar and the same
clock (`civilTime_add_day`).
-/

namespace ScriptDate.Calendar

open Number

namespace Gregorian

def LeapYear (y : Int) : Prop := 4 ∣ y ∧ ¬ 100 ∣ y ∨ 400 ∣ y

instance (y : Int) : Decidable (LeapYear y) :=
  inferInstanceAs (Decidable (4 ∣ y ∧ ¬ 100 ∣ y ∨ 400 ∣ y))

/-- The days of a month; months count from zero for January. -/
def monthDays (y : Int) (m : Nat) : Int :=
  if m = 1 then (if LeapYear y then 29 else 28) else if m ∈ [3, 5, 8, 10] then 30 else 31

def yearDays (y : Int) : Int := ∑ m ∈ Finset.range 12, monthDays y m

/-- The days from 1 January 1970 to 1 January of a year, below zero for an earlier year. -/
def daysToYear (y : Int) : Int :=
  ∑ k ∈ Finset.range (y - 1970).toNat, yearDays (1970 + k)
    - ∑ k ∈ Finset.range (1970 - y).toNat, yearDays (y + k)

/-- The days from 1 January 1970 to a date, counted in whole years and months. -/
def dayNumber (y : Int) (m : Nat) (d : Int) : Int :=
  daysToYear y + ∑ k ∈ Finset.range m, monthDays y k + d - 1

/-- The date of the next day. -/
def nextDate (f : CivilTime) : CivilTime :=
  if f.date < monthDays f.year f.month then { f with date := f.date + 1 }
  else if f.month < 11 then { f with month := f.month + 1, date := 1 }
  else { f with year := f.year + 1, month := 0, date := 1 }

/-- The next day at the same time of the day. -/
def tomorrow (f : CivilTime) : CivilTime := { nextDate f with weekDay := (f.weekDay + 1) % 7 }

/-! ## Counting days -/

variable {y : Int} {m : Nat}

theorem isLeap_iff : isLeap y = true ↔ LeapYear y := by
  simp only [isLeap, LeapYear, Bool.and_eq_true, Bool.or_eq_true, decide_eq_true_eq,
    bne_iff_ne]
  omega

theorem monthLength_eq (hm : m < 12) (y : Int) : monthLength y m = monthDays y m := by
  have table : ∀ leap, ∀ m < 12, daysBeforeMonth (m + 1) leap - daysBeforeMonth m leap
      = if m = 1 then (if leap then 29 else 28) else if m ∈ [3, 5, 8, 10] then 30 else 31 := by
    decide
  rw [monthLength, table _ m hm, monthDays]
  exact if_congr Iff.rfl (if_congr isLeap_iff rfl rfl) rfl

theorem monthDays_bounds (hm : m < 12) (y : Int) : 28 ≤ monthDays y m ∧ monthDays y m ≤ 31 := by
  rw [← monthLength_eq hm]
  exact monthLength_bounds hm y

theorem sum_monthDays (hm : m ≤ 12) (y : Int) :
    ∑ k ∈ Finset.range m, monthDays y k = daysBeforeMonth m (isLeap y) := by
  induction m with
  | zero => simp [daysBeforeMonth_zero]
  | succ m ih =>
    rw [Finset.sum_range_succ, ih (by omega), ← monthLength_eq (by omega), monthLength]
    omega

theorem yearDays_eq (y : Int) : yearDays y = yearLength y := by
  rw [yearDays, sum_monthDays le_rfl, daysBeforeMonth_twelve]

theorem daysToYear_succ (y : Int) : daysToYear (y + 1) = daysToYear y + yearDays y := by
  unfold daysToYear
  rcases le_or_gt 1970 y with h | h
  · obtain ⟨n, rfl⟩ := Int.le.dest h
    have hlater : (1970 + (n : Int) + 1 - 1970).toNat = n + 1 := by omega
    have hnow : (1970 + (n : Int) - 1970).toNat = n := by omega
    have hnone : (1970 - (1970 + (n : Int) + 1)).toNat = 0
        ∧ (1970 - (1970 + (n : Int))).toNat = 0 := by
      omega
    rw [hlater, hnow, hnone.1, hnone.2, Finset.sum_range_succ]
    simp
  · obtain ⟨n, hn⟩ := Int.le.dest (Int.add_one_le_of_lt h)
    have hlater : (1970 - (y + 1)).toNat = n := by omega
    have hnow : (1970 - y).toNat = n + 1 := by omega
    have hnone : (y + 1 - 1970).toNat = 0 ∧ (y - 1970).toNat = 0 := by omega
    have hshift (k : Nat) : y + 1 + (k : Int) = y + ((k + 1 : Nat) : Int) := by omega
    rw [hlater, hnow, hnone.1, hnone.2, Finset.sum_range_succ']
    simp only [hshift, Finset.range_zero, Finset.sum_empty, Nat.cast_zero, add_zero]
    omega

/-- The closed form of the year's first day counts the days of the years in between. -/
theorem daysToYear_eq (y : Int) : daysToYear y = firstDay y := by
  induction y using Int.inductionOn' (b := 1970) with
  | zero => simp [daysToYear, firstDay]
  | succ y _ ih => rw [daysToYear_succ, firstDay_succ, ih, yearDays_eq]
  | pred y _ ih =>
    have hcount := daysToYear_succ (y - 1)
    have hfirst := firstDay_succ (y - 1)
    rw [sub_add_cancel] at hcount hfirst
    rw [yearDays_eq] at hcount
    omega

theorem dayOfDate_eq (hm : m ≤ 12) (y d : Int) : dayOfDate y m d = dayNumber y m d := by
  rw [dayOfDate, dayNumber, daysToYear_eq, sum_monthDays hm]

/-- A day past the end of its month is one of the next. -/
theorem dayOfDate_nextMonth (hm : m < 12) (y d : Int) : dayOfDate y m d
    = if m < 11 then dayOfDate y (m + 1) (d - monthDays y m)
      else dayOfDate (y + 1) 0 (d - monthDays y m) := by
  rw [← monthLength_eq hm]
  split_ifs with h
  · unfold dayOfDate monthLength
    omega
  · obtain rfl : m = 11 := by omega
    have hsucc := firstDay_succ y
    rw [← daysBeforeMonth_twelve] at hsucc
    rw [dayOfDate, dayOfDate, monthLength, daysBeforeMonth_zero, hsucc]
    ring

/-! ## The next day -/

/-- The next date is one of its month, and its day has the next number. -/
theorem dayOfDate_nextDate {f : CivilTime} (hm : f.month < 12)
    (hd : f.date ≤ monthLength f.year f.month) (hd' : 1 ≤ f.date) :
    (nextDate f).month < 12 ∧ 1 ≤ (nextDate f).date
      ∧ (nextDate f).date ≤ monthLength (nextDate f).year (nextDate f).month
      ∧ dayOfDate (nextDate f).year (nextDate f).month (nextDate f).date
        = dayOfDate f.year f.month f.date + 1 := by
  unfold nextDate
  rw [← monthLength_eq hm]
  split_ifs with hin hyear
  · dsimp only
    refine ⟨hm, by omega, by omega, ?_⟩
    unfold dayOfDate
    omega
  · have hnext := monthLength_bounds (m := f.month + 1) (by omega) f.year
    dsimp only
    refine ⟨by omega, le_rfl, by omega, ?_⟩
    unfold dayOfDate
    unfold monthLength at hin hd
    omega
  · have hjan := monthLength_bounds (m := 0) (by omega) (f.year + 1)
    have hdec : f.month = 11 := by omega
    dsimp only
    refine ⟨by omega, le_rfl, by omega, ?_⟩
    have hsucc := firstDay_succ f.year
    rw [← daysBeforeMonth_twelve] at hsucc
    unfold dayOfDate
    unfold monthLength at hin hd
    rw [hdec, show 11 + 1 = 12 from rfl] at hin hd
    rw [hdec, daysBeforeMonth_zero]
    omega

theorem clock_nextDate (f : CivilTime) : (nextDate f).hour = f.hour ∧ (nextDate f).minute = f.minute
    ∧ (nextDate f).second = f.second ∧ (nextDate f).ms = f.ms := by
  unfold nextDate
  split_ifs <;> exact ⟨rfl, rfl, rfl, rfl⟩

theorem ofTime_add_msPerDay {t : Int} (h : t.natAbs ≤ maxLocalTime)
    (h' : (t + msPerDay).natAbs ≤ maxLocalTime) :
    CivilTime.ofTime (t + msPerDay) = tomorrow (CivilTime.ofTime t) := by
  have hs := CivilTime.small_of_local h
  have hs' := CivilTime.small_of_local h'
  obtain ⟨-, hm, ⟨hd1, hd2⟩, -⟩ := CivilTime.proper_ofTime h
  have hday : day (t + msPerDay) = day t + 1 := by
    rw [day_eq hs, day_eq hs']
    unfold msPerDay
    omega
  obtain ⟨hm', hd1', hd2', hnumber⟩ := dayOfDate_nextDate (Nat.lt_succ_of_le hm) hd2 hd1
  have htoday : dayOfDate (CivilTime.ofTime t).year (CivilTime.ofTime t).month
      (CivilTime.ofTime t).date = day t := dayOfDate_dateOf t
  rw [htoday, ← hday] at hnumber
  obtain ⟨hyear, hmonth, hdate⟩ := date_of_dayOfDate hs' hm' hd1' hd2' hnumber.symm
  have hclock : timeOfDay (t + msPerDay) = timeOfDay t := Int.add_emod_right t msPerDay
  obtain ⟨hour, minute, second, ms⟩ := clock_eq_of_timeOfDay hs' hs hclock
  obtain ⟨hhour, hminute, hsecond, hms⟩ := clock_nextDate (CivilTime.ofTime t)
  simp only [CivilTime.ofTime, tomorrow, CivilTime.mk.injEq] at *
  refine ⟨hyear, hmonth, hdate, ?_, hour.trans hhour.symm, minute.trans hminute.symm,
    second.trans hsecond.symm, ms.trans hms.symm⟩
  unfold Calendar.weekDay
  omega

theorem ofTime_of_proper {f : CivilTime} (hf : f.Proper) {t : Int} (ht : f.time = t)
    (hweek : (t / msPerDay + 4) % 7 = f.weekDay) : CivilTime.ofTime t = f := by
  have hsmall := CivilTime.time_small hf
  rw [← ht, CivilTime.ofTime_time hf, Calendar.weekDay, day_eq hsmall, ht, hweek]

/-- Time zero starts Thursday, 1 January 1970, and a day later than any time it is the next day of
the calendar, at the same time of the day. -/
theorem civilTime_add_day :
    CivilTime.ofTime 0 = ⟨1970, 0, 1, 4, 0, 0, 0, 0⟩
      ∧ ∀ t : Int, t.natAbs ≤ maxLocalTime → (t + 86400000).natAbs ≤ maxLocalTime →
        CivilTime.ofTime (t + 86400000) = tomorrow (CivilTime.ofTime t)
          ∧ ∀ name : Date.Field, (name.ofTime t).Holds ((CivilTime.ofTime t).field name)
            ∧ (name.ofTime (t + 86400000)).Holds ((tomorrow (CivilTime.ofTime t)).field name) := by
  refine ⟨ofTime_of_proper (by constructor <;> decide) (by decide) (by decide), fun t h h' => ?_⟩
  have hnext := ofTime_add_msPerDay h h'
  refine ⟨hnext, fun name => ⟨CivilTime.holds_field h name, ?_⟩⟩
  have hfield := CivilTime.holds_field h' name
  rwa [← hnext]

/-- The day after 28 February, in the years 0 and 1900. -/
theorem civilTime_add_day_february :
    CivilTime.ofTime (-62162208000000 + 86400000) = ⟨0, 1, 29, 2, 0, 0, 0, 0⟩
      ∧ CivilTime.ofTime (-2203977600000 + 86400000) = ⟨1900, 2, 1, 4, 0, 0, 0, 0⟩ := by
  have hzero : CivilTime.ofTime (-62162208000000) = ⟨0, 1, 28, 1, 0, 0, 0, 0⟩ :=
    ofTime_of_proper (by constructor <;> decide) (by decide) (by decide)
  have h1900 : CivilTime.ofTime (-2203977600000) = ⟨1900, 1, 28, 3, 0, 0, 0, 0⟩ :=
    ofTime_of_proper (by constructor <;> decide) (by decide) (by decide)
  constructor
  · rw [(civilTime_add_day.2 _ (by decide) (by decide)).1, hzero]
    rfl
  · rw [(civilTime_add_day.2 _ (by decide) (by decide)).1, h1900]
    rfl

end Gregorian

end ScriptDate.Calendar
