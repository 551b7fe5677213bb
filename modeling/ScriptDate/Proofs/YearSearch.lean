import Mathlib.Order.Monotone.Basic
import Mathlib.Tactic.Ring
import ScriptDate.Calendar.CivilTime
import ScriptDate.Proofs.WholeNumbers

/-!
# The search for the year and the month

From whatever year it starts, the search ends at the one that holds the time (`yearOf_spec`), and
only one does (`yearOf_eq`). The same holds of the table of months within a year
(`monthOfDay_spec`, `monthOfDay_eq`). So a day has the date that counts up to it, and no other
(`date_of_dayOfDate`).
-/

namespace ScriptDate.Calendar

/-! ## Years -/

theorem yearLength_ge (y : Int) : 365 ≤ yearLength y := by
  unfold yearLength
  split_ifs <;> decide

theorem yearStart_lt_yearStart {y z : Int} : yearStart y < yearStart z ↔ y < z :=
  (strictMono_int_of_lt_succ yearStart_lt_succ).lt_iff_lt

theorem yearStart_le_yearStart {y z : Int} : yearStart y ≤ yearStart z ↔ y ≤ z :=
  (strictMono_int_of_lt_succ yearStart_lt_succ).le_iff_le

theorem yearStart_add_le {y z : Int} (h : y < z) : yearStart y + 365 * msPerDay ≤ yearStart z := by
  have hlength := yearLength_ge y
  have hsucc := firstDay_succ y
  have hle := yearStart_le_yearStart.mpr (show y + 1 ≤ z from h)
  unfold yearStart msPerDay at *
  omega

theorem yearStart_yearDown_le (t y : Int) : yearStart (yearDown t y) ≤ t := by
  fun_induction yearDown t y with
  | case1 y _ ih => exact ih
  | case2 y h => exact not_lt.mp h

theorem yearUp_spec {t y : Int} (h : yearStart y ≤ t) :
    yearStart (yearUp t y) ≤ t ∧ t < yearStart (yearUp t y + 1) := by
  fun_induction yearUp t y with
  | case1 y hnext ih => exact ih hnext
  | case2 y hnext => exact ⟨h, not_le.mp hnext⟩

theorem yearOf_spec (t : Int) : yearStart (yearOf t) ≤ t ∧ t < yearStart (yearOf t + 1) :=
  yearUp_spec (yearStart_yearDown_le t (yearEstimate t))

theorem yearStart_le_iff {t y : Int} : yearStart y ≤ t ↔ y ≤ yearOf t := by
  obtain ⟨h1, h2⟩ := yearOf_spec t
  constructor
  · intro h
    exact Int.lt_add_one_iff.mp (yearStart_lt_yearStart.mp (h.trans_lt h2))
  · intro h
    exact (yearStart_le_yearStart.mpr h).trans h1

theorem lt_yearStart_iff {t y : Int} : t < yearStart y ↔ yearOf t < y := by
  rw [← not_le, yearStart_le_iff, not_le]

theorem yearOf_eq {t y : Int} (hlo : yearStart y ≤ t) (hhi : t < yearStart (y + 1)) :
    yearOf t = y := by
  rw [yearStart_le_iff] at hlo
  rw [lt_yearStart_iff] at hhi
  omega

/-- The largest magnitude of a local time, a day past that of a time value. -/
def maxLocalTime : Nat := 8640000000000000 + 86400000

theorem yearOf_bounds {t : Int} (h : t.natAbs ≤ maxLocalTime) :
    -271821 ≤ yearOf t ∧ yearOf t ≤ 275760 := by
  have hfirst : yearStart (-271821) ≤ -maxLocalTime := by decide
  have hlast : (maxLocalTime : Int) < yearStart 275761 := by decide
  have h1 : yearStart (-271821) ≤ t := hfirst.trans (by omega)
  have h2 : t < yearStart 275761 := lt_of_le_of_lt (by omega) hlast
  rw [yearStart_le_iff] at h1
  rw [lt_yearStart_iff] at h2
  omega

/-! ## Days and clocks -/

theorem day_eq {t : Int} (h : t.natAbs < 2 ^ 53) : day t = t / msPerDay :=
  Number.quotient_eq h (by decide) (by decide)

theorem hourOf_eq {t : Int} (h : t.natAbs < 2 ^ 53) : hourOf t = t / msPerHour % 24 := by
  rw [hourOf, Number.quotient_eq h (by decide) (by decide)]

theorem minuteOf_eq {t : Int} (h : t.natAbs < 2 ^ 53) : minuteOf t = t / msPerMinute % 60 := by
  rw [minuteOf, Number.quotient_eq h (by decide) (by decide)]

theorem secondOf_eq {t : Int} (h : t.natAbs < 2 ^ 53) : secondOf t = t / msPerSecond % 60 := by
  rw [secondOf, Number.quotient_eq h (by decide) (by decide)]

/-- A clock reading and the time of the day. -/
theorem clock_eq_timeOfDay {t : Int} (h : t.natAbs < 2 ^ 53) :
    hourOf t * msPerHour + minuteOf t * msPerMinute + secondOf t * msPerSecond + msOf t
      = timeOfDay t := by
  rw [hourOf_eq h, minuteOf_eq h, secondOf_eq h]
  unfold msOf timeOfDay msPerHour msPerMinute msPerSecond msPerDay
  omega

theorem timeOfDay_range (t : Int) : 0 ≤ timeOfDay t ∧ timeOfDay t < msPerDay :=
  ⟨Int.emod_nonneg t (by decide), Int.emod_lt_of_pos t (by decide)⟩

/-- The day and the time of the day that a time is made of. -/
theorem day_of_time {t d τ : Int} (h : t.natAbs < 2 ^ 53) (hτ : 0 ≤ τ ∧ τ < msPerDay)
    (ht : d * msPerDay + τ = t) : day t = d ∧ timeOfDay t = τ := by
  rw [day_eq h, timeOfDay]
  unfold msPerDay at *
  omega

theorem clock_eq_of_timeOfDay {t u : Int} (ht : t.natAbs < 2 ^ 53) (hu : u.natAbs < 2 ^ 53)
    (h : timeOfDay t = timeOfDay u) : hourOf t = hourOf u ∧ minuteOf t = minuteOf u
      ∧ secondOf t = secondOf u ∧ msOf t = msOf u := by
  rw [hourOf_eq ht, hourOf_eq hu, minuteOf_eq ht, minuteOf_eq hu, secondOf_eq ht, secondOf_eq hu]
  unfold timeOfDay msPerDay at h
  unfold msOf msPerHour msPerMinute msPerSecond
  omega

theorem day_add_timeOfDay {t : Int} (h : t.natAbs < 2 ^ 53) :
    day t * msPerDay + timeOfDay t = t := by
  rw [day_eq h, timeOfDay]
  exact Int.ediv_mul_add_emod t msPerDay

theorem dayOfYear_bounds {t : Int} (h : t.natAbs < 2 ^ 53) :
    0 ≤ dayOfYear t ∧ dayOfYear t < yearLength (yearOf t) := by
  obtain ⟨h1, h2⟩ := yearOf_spec t
  have hsucc := firstDay_succ (yearOf t)
  unfold yearStart at h1 h2
  unfold dayOfYear
  rw [day_eq h]
  unfold msPerDay at *
  omega

/-! ## Months -/

theorem daysBeforeMonth_lt_succ {m : Nat} (hm : m < 12) (leap : Bool) :
    daysBeforeMonth m leap + 28 ≤ daysBeforeMonth (m + 1) leap
      ∧ daysBeforeMonth (m + 1) leap ≤ daysBeforeMonth m leap + 31 := by
  have table : ∀ leap, ∀ m < 12, daysBeforeMonth m leap + 28 ≤ daysBeforeMonth (m + 1) leap
      ∧ daysBeforeMonth (m + 1) leap ≤ daysBeforeMonth m leap + 31 := by decide
  exact table leap m hm

theorem daysBeforeMonth_mono (leap : Bool) {m n : Nat} (hmn : m ≤ n) (hn : n ≤ 12) :
    daysBeforeMonth m leap ≤ daysBeforeMonth n leap := by
  induction n, hmn using Nat.le_induction with
  | base => exact le_rfl
  | succ k hk ih =>
    have := (daysBeforeMonth_lt_succ (m := k) (by omega) leap).1
    exact (ih (by omega)).trans (by omega)

theorem daysBeforeMonth_zero (leap : Bool) : daysBeforeMonth 0 leap = 0 := by
  cases leap <;> rfl

theorem daysBeforeMonth_twelve (y : Int) : daysBeforeMonth 12 (isLeap y) = yearLength y := by
  unfold yearLength
  cases isLeap y <;> rfl

theorem monthLength_bounds {m : Nat} (hm : m < 12) (y : Int) :
    28 ≤ monthLength y m ∧ monthLength y m ≤ 31 := by
  have := daysBeforeMonth_lt_succ hm (isLeap y)
  unfold monthLength
  omega

theorem monthOfDay_spec {d : Int} {leap : Bool} (h0 : 0 ≤ d) (h12 : d < daysBeforeMonth 12 leap) :
    monthOfDay d leap < 12 ∧ daysBeforeMonth (monthOfDay d leap) leap ≤ d
      ∧ d < daysBeforeMonth (monthOfDay d leap + 1) leap := by
  unfold monthOfDay
  rcases hfind : (List.range 12).find? fun m => d < daysBeforeMonth (m + 1) leap with _ | m
  · rw [List.find?_range_eq_none] at hfind
    exact absurd (hfind 11 (by decide)) (by simpa using h12)
  · obtain ⟨hend, hm, hbefore⟩ := List.find?_range_eq_some.mp hfind
    refine ⟨List.mem_range.mp hm, ?_, by simpa using hend⟩
    rcases m with _ | k
    · exact (daysBeforeMonth_zero leap).trans_le h0
    · simpa using hbefore k (Nat.lt_succ_self k)

theorem monthOfDay_eq {d : Int} {leap : Bool} {m : Nat} (hm : m < 12)
    (hlo : daysBeforeMonth m leap ≤ d) (hhi : d < daysBeforeMonth (m + 1) leap) :
    monthOfDay d leap = m := by
  unfold monthOfDay
  rw [List.find?_range_eq_some.mpr ⟨by simpa using hhi, List.mem_range.mpr hm, ?_⟩]
  · rfl
  · intro j hj
    have hle : daysBeforeMonth (j + 1) leap ≤ daysBeforeMonth m leap :=
      daysBeforeMonth_mono leap (Nat.succ_le_of_lt hj) (by omega)
    simpa using hle.trans hlo

/-! ## Dates -/

theorem month_spec {t : Int} (h : t.natAbs < 2 ^ 53) :
    monthOf t < 12 ∧ daysBeforeMonth (monthOf t) (isLeap (yearOf t)) ≤ dayOfYear t
      ∧ dayOfYear t < daysBeforeMonth (monthOf t + 1) (isLeap (yearOf t)) := by
  obtain ⟨h0, h1⟩ := dayOfYear_bounds h
  rw [← daysBeforeMonth_twelve] at h1
  exact monthOfDay_spec h0 h1

theorem dateOf_bounds {t : Int} (h : t.natAbs < 2 ^ 53) :
    1 ≤ dateOf t ∧ dateOf t ≤ monthLength (yearOf t) (monthOf t) := by
  obtain ⟨-, h1, h2⟩ := month_spec h
  unfold dateOf monthLength
  omega

theorem dayOfDate_dateOf (t : Int) : dayOfDate (yearOf t) (monthOf t) (dateOf t) = day t := by
  unfold dayOfDate dateOf dayOfYear
  ring

/-- A day that a date of some year counts up to has that date. -/
theorem date_of_dayOfDate {t y d : Int} {m : Nat} (h : t.natAbs < 2 ^ 53) (hm : m < 12)
    (hd : 1 ≤ d) (hd' : d ≤ monthLength y m) (hday : day t = dayOfDate y m d) :
    yearOf t = y ∧ monthOf t = m ∧ dateOf t = d := by
  have hfirst : 0 ≤ daysBeforeMonth m (isLeap y) :=
    (daysBeforeMonth_zero (isLeap y)).symm.trans_le
      (daysBeforeMonth_mono _ (Nat.zero_le m) (by omega))
  have hlast : daysBeforeMonth (m + 1) (isLeap y) ≤ yearLength y :=
    (daysBeforeMonth_mono _ (Nat.succ_le_of_lt hm) le_rfl).trans_eq (daysBeforeMonth_twelve y)
  have hsucc := firstDay_succ y
  unfold monthLength at hd'
  have hy : yearOf t = y := by
    have hdiv := day_eq h
    rw [hday] at hdiv
    apply yearOf_eq <;> unfold yearStart dayOfDate msPerDay at * <;> omega
  have hyear : dayOfYear t = daysBeforeMonth m (isLeap y) + d - 1 := by
    unfold dayOfYear
    rw [hday, hy]
    unfold dayOfDate
    omega
  have hmonth : monthOf t = m := by
    unfold monthOf
    rw [hy, hyear]
    exact monthOfDay_eq hm (by omega) (by omega)
  refine ⟨hy, hmonth, ?_⟩
  unfold dateOf
  rw [hmonth, hy, hyear]
  ring

end ScriptDate.Calendar
