import ScriptDate.Proofs.Gregorian

/-!
# Months outside their year

A month before or after its year is one of another year, so only that year decides whether a date
has a day number. Within its range of years the number goes up by one for each day of the date and
by the length of the month from one month to the next, also across the turn of a year and below
zero (`dayNumber_folds`).
-/

namespace ScriptDate

open Calendar Number

/-- The first of the next month is a month's length later, in December a year on. -/
theorem Calendar.dayOfDate_succ_month (y m : Int) :
    dayOfDate (y + (m + 1) / 12) ((m + 1) % 12).toNat 1
      = dayOfDate (y + m / 12) (m % 12).toNat 1
        + Gregorian.monthDays (y + m / 12) (m % 12).toNat := by
  have hnext := Gregorian.dayOfDate_nextMonth (m := (m % 12).toNat) (by omega) (y + m / 12)
    (1 + Gregorian.monthDays (y + m / 12) (m % 12).toNat)
  have hadd (n : Int) : dayOfDate (y + m / 12) (m % 12).toNat (1 + n)
      = dayOfDate (y + m / 12) (m % 12).toNat 1 + n := by
    unfold dayOfDate
    ring
  rw [hadd, add_sub_cancel_right] at hnext
  rw [hnext]
  split_ifs with hlast
  · have hyear : (m + 1) / 12 = m / 12 := by omega
    have hmonth : ((m + 1) % 12).toNat = (m % 12).toNat + 1 := by omega
    rw [hyear, hmonth]
  · have hyear : (m + 1) / 12 = m / 12 + 1 := by omega
    have hmonth : ((m + 1) % 12).toNat = 0 := by omega
    rw [hyear, hmonth, add_assoc]

namespace TimeValue

variable {year month date : Number} {y m d : Int}

/-- Whole fields have a day number when the month falls into a year of the range. -/
theorem dayNumber_of_holds (hy : year.Holds y) (hm : month.Holds m) (hd : date.Holds d)
    (by' : y.natAbs ≤ 10 ^ 9) (bm : m.natAbs ≤ 2 ^ 50) (bd : d.natAbs ≤ 10 ^ 9) :
    dayNumber year month date
        = (if 400000 < (y + m / 12).natAbs then .nan
          else .ofInt (dayOfDate (y + m / 12) (m % 12).toNat d))
      ∧ (dayNumber year month date = .nan ↔ 400000 < (y + m / 12).natAbs) := by
  have heq := dayNumber_eq hy.trunc hm.trunc hd.trunc (by omega) bm (by omega)
  refine ⟨heq, ?_⟩
  rw [heq]
  split_ifs with hfar
  · exact iff_of_true rfl hfar
  · refine iff_of_false (fun hnan => ?_) hfar
    have hday := natAbs_dayOfDate (m := (m % 12).toNat) (not_lt.mp hfar) (by omega) bd
    have hfinite := isFinite_ofInt (n := dayOfDate (y + m / 12) (m % 12).toNat d) (by omega)
    simp [hnan, isFinite] at hfinite

/-- The place of a month, whatever its year, in the table of months. -/
def monthIndex (month : Number) : Nat := (month.trunc.toInt % 12).toNat

theorem monthIndex_eq (h : month.Holds m) : monthIndex month = (m % 12).toNat := by
  rw [monthIndex, h.trunc.toInt]

/-- A whole date has no day number exactly when its month falls into a year past the range. Else
its month is the same one of that year, from the table of months; the days of the month are
counted on from the first; and the first of the next month, if it has a number, is the length of
the month later. -/
theorem dayNumber_folds (hy : year.Holds y) (hm : month.Holds m) (hd : date.Holds d)
    (by' : y.natAbs ≤ 10 ^ 9) (bm : m.natAbs ≤ 10 ^ 9) (bd : d.natAbs ≤ 10 ^ 9) :
    (dayNumber year month date = .nan ↔ 400000 < (y + m / 12).natAbs)
    ∧ (monthIndex month : Int) = m % 12 ∧ monthIndex month ≤ 11
    ∧ ((y + m / 12).natAbs ≤ 400000 →
      dayNumber year month date = .ofInt (firstDay (y + m / 12)
          + daysBeforeMonth (monthIndex month) (isLeap (y + m / 12)) + d - 1)
      ∧ dayNumber year month date = dayNumber (.ofInt (y + m / 12)) (.ofInt (m % 12)) date
      ∧ dayNumber year month date = dayNumber year month 1 + (date - 1)
      ∧ (dayNumber year (month + 1) 1 ≠ .nan →
        dayNumber year (month + 1) 1 - dayNumber year month 1
          = .ofInt (Gregorian.monthDays (y + m / 12) (monthIndex month)))) := by
  have hone : (1 : Number).Holds 1 := holds_ofNat 1 (by decide)
  obtain ⟨hday, hnan⟩ := dayNumber_of_holds hy hm hd by' (by omega) bd
  obtain ⟨hfirst, -⟩ := dayNumber_of_holds hy hm hone by' (by omega) (by decide)
  rw [monthIndex_eq hm]
  refine ⟨hnan, by omega, by omega, fun hin => ?_⟩
  rw [if_neg (not_lt.mpr hin)] at hday hfirst
  refine ⟨hday, ?_, ?_, fun hnext => ?_⟩
  · obtain ⟨hfolded, -⟩ := dayNumber_of_holds (holds_ofInt (n := y + m / 12) (by omega))
      (holds_ofInt (n := m % 12) (by omega)) hd (by omega) (by omega) bd
    have hyear : m % 12 / 12 = 0 := by omega
    rw [hday, hfolded, hyear, add_zero, Int.emod_emod, if_neg (not_lt.mpr hin)]
  · have hcount : dayOfDate (y + m / 12) (m % 12).toNat d
        = dayOfDate (y + m / 12) (m % 12).toNat 1 + (d - 1) := by
      unfold dayOfDate
      ring
    have hsmall := natAbs_dayOfDate (m := (m % 12).toNat) (d := 1) hin (by omega) (by decide)
    rw [hday, hfirst, hcount]
    exact ((holds_ofInt (by omega)).add_eq (hd.sub hone (by omega))
      fun h => ofInt_ne_negZero _ h.1).symm
  · obtain ⟨hsucc, hnan'⟩ := dayNumber_of_holds hy (hm.add hone (by omega)) hone by' (by omega)
      (by decide)
    have hin' := mt hnan'.mpr hnext
    have hsmall := natAbs_dayOfDate (m := (m % 12).toNat) (d := 1) hin (by omega) (by decide)
    have hmonth := Gregorian.monthDays_bounds (m := (m % 12).toNat) (by omega) (y + m / 12)
    rw [if_neg hin', dayOfDate_succ_month] at hsucc
    rw [hsucc, hfirst]
    refine ((holds_ofInt (by omega)).add_eq (holds_ofInt (by omega)).neg
      fun h => ofInt_ne_negZero _ h.1).trans ?_
    rw [← sub_eq_add_neg, add_sub_cancel_left]

/-- February of the year 0, asked for as a month of a year long before, and February of the year
past the range. -/
theorem dayNumber_folds_far_february :
    dayNumber (.ofInt (-83333333)) (.ofInt 999999997) 30 = dayNumber (.ofInt 0) (.ofInt 1) 30
      ∧ dayNumber (.ofInt (-83333333)) (.ofInt 999999997 + 1) 1
          - dayNumber (.ofInt (-83333333)) (.ofInt 999999997) 1 = .ofInt 29
      ∧ dayNumber (.ofInt (-83733334)) (.ofInt 999999997) 30 = .nan := by
  have hyear : (ofInt (-83333333)).Holds (-83333333) := holds_ofInt (by decide)
  have hpast : (ofInt (-83733334)).Holds (-83733334) := holds_ofInt (by decide)
  have hmonth : (ofInt 999999997).Holds 999999997 := holds_ofInt (by decide)
  have hone : (1 : Number).Holds 1 := holds_ofNat 1 (by decide)
  have hdate : (30 : Number).Holds 30 := holds_ofNat 30 (by decide)
  obtain ⟨-, -, -, hfolds⟩ :=
    dayNumber_folds hyear hmonth hdate (by decide) (by decide) (by decide)
  obtain ⟨-, hsame, -, hlength⟩ := hfolds (by decide)
  have hnext := dayNumber_folds hyear (hmonth.add hone (by decide)) hone (by decide) (by decide)
    (by decide)
  rw [monthIndex_eq hmonth] at hlength
  exact ⟨hsame, hlength (mt hnext.1.mp (by decide)),
    (dayNumber_folds hpast hmonth hdate (by decide) (by decide) (by decide)).1.mpr (by decide)⟩

end TimeValue

end ScriptDate
