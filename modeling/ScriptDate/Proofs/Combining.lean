import Mathlib.Tactic.Ring
import ScriptDate.Proofs.YearSearch
import ScriptDate.TimeValue

/-!
# Combining fields

What `clockTime`, `dayNumber` and `join` make of whole numbers: the same sums and products in the
integers, as long as they stay below `2 ^ 53`. A month outside its year folds into it
(`dayNumber_eq`).
-/

namespace ScriptDate.TimeValue

open Calendar Number

/-- A clock of fields whose whole parts are up to a billion. -/
theorem clockTime_holds {hour minute second ms : Number} {h i s n : Int}
    (hh : hour.trunc.Holds h) (hi : minute.trunc.Holds i) (hs : second.trunc.Holds s)
    (hn : ms.trunc.Holds n) (bh : h.natAbs ≤ 10 ^ 9) (bi : i.natAbs ≤ 10 ^ 9)
    (bs : s.natAbs ≤ 10 ^ 9) (bn : n.natAbs ≤ 10 ^ 9) :
    (clockTime hour minute second ms).Holds
      (h * msPerHour + i * msPerMinute + s * msPerSecond + n) := by
  have unit {u : Int} (hu : u.natAbs < 2 ^ 53) : (ofInt u).Holds u := holds_ofInt hu
  simp only [clockTime, isFinite_of_trunc hh.1, isFinite_of_trunc hi.1, isFinite_of_trunc hs.1,
    isFinite_of_trunc hn.1, Bool.and_self, if_true]
  unfold msPerHour msPerMinute msPerSecond
  have h1 := hh.mul (unit (u := 3600000) (by decide)) (by omega)
  have h2 := hi.mul (unit (u := 60000) (by decide)) (by omega)
  have h3 := hs.mul (unit (u := 1000) (by decide)) (by omega)
  exact ((h1.add h2 (by omega)).add h3 (by omega)).add hn (by omega)

theorem firstDay_bounds {y : Int} (h : y.natAbs ≤ 400000) : (firstDay y).natAbs ≤ 150000000 := by
  unfold firstDay
  omega

theorem daysBeforeMonth_bounds {m : Nat} (hm : m < 12) (leap : Bool) :
    0 ≤ daysBeforeMonth m leap ∧ daysBeforeMonth m leap ≤ 366 := by
  have h0 := daysBeforeMonth_mono leap (Nat.zero_le m) (by omega)
  have h12 := daysBeforeMonth_mono leap hm.le le_rfl
  have hyear : daysBeforeMonth 12 leap ≤ 366 := by cases leap <;> decide
  rw [daysBeforeMonth_zero] at h0
  exact ⟨h0, h12.trans hyear⟩

/-- Months before or after the year move it, and a year past the range has no days. -/
theorem dayNumber_eq {year month date : Number} {y m d : Int} (hy : year.trunc.Holds y)
    (hm : month.trunc.Holds m) (hd : date.trunc.Holds d) (by' : y.natAbs ≤ 2 ^ 50)
    (bm : m.natAbs ≤ 2 ^ 50) (bd : d.natAbs ≤ 2 ^ 50) :
    dayNumber year month date =
      if 400000 < (y + m / 12).natAbs then .nan
      else .ofInt (dayOfDate (y + m / 12) (m % 12).toNat d) := by
  have hfolded : (year.trunc + (month.trunc / 12).floor).Holds (y + m / 12) :=
    hy.add (hm.floor_div (holds_ofNat 12 (by decide)) (by omega) (by decide) (by decide))
      (by omega)
  have hmax : maxYear.lt (year.trunc + (month.trunc / 12).floor).abs
      = decide (400000 < (y + m / 12).natAbs) := by
    rw [maxYear, (holds_ofNat 400000 (by decide)).lt hfolded.abs]
    exact decide_eq_decide.mpr (by omega)
  simp only [dayNumber, isFinite_of_trunc hy.1, isFinite_of_trunc hm.1, isFinite_of_trunc hd.1,
    Bool.and_self, if_true, hmax, decide_eq_true_eq]
  split_ifs with hfar
  · rfl
  · rw [hfolded.toInt, hm.toInt]
    have hday := firstDay_bounds (y := y + m / 12) (by omega)
    have hmonth := daysBeforeMonth_bounds (m := (m % 12).toNat) (by omega) (isLeap (y + m / 12))
    unfold dayOfDate
    generalize firstDay (y + m / 12) = first at *
    generalize daysBeforeMonth (m % 12).toNat (isLeap (y + m / 12)) = before at *
    have hstart : (first + before).natAbs < 2 ^ 53 := by omega
    rw [(holds_ofInt hstart).add_eq hd (fun h => ofInt_ne_negZero _ h.1)]
    have hdate : (first + before + d).natAbs < 2 ^ 53 := by omega
    exact (holds_ofInt hdate).add_eq (holds_ofNat 1 (by decide)).neg
      fun h => ofInt_ne_negZero _ h.1

/-- The start of a day is a multiple of `2 ^ 10`, and so exact far out. -/
theorem holds_dayStart {d : Int} (hd : d.natAbs < 2 ^ 36) :
    (ofInt (d * msPerDay)).Holds (d * msPerDay) := by
  have hbound : (d * msPerDay).natAbs < 2 ^ 53 * 2 ^ 10 := by
    unfold msPerDay
    omega
  have habs : |((d * msPerDay : Int) : Rat)| < 2 ^ (1024 : Int) := by
    rw [← Int.cast_abs, Int.abs_eq_natAbs]
    have h63 : (((d * msPerDay).natAbs : Int) : Rat) < 2 ^ (63 : Int) := by exact_mod_cast hbound
    exact h63.trans_le (zpow_le_zpow_right₀ one_le_two (by decide))
  rw [ofInt_eq_of_nearest (nearest_intCast_of_dvd ⟨d * 84375, ?_⟩ hbound) habs]
  · exact holds_finite _
  · unfold msPerDay
    ring

/-- The sum of a day and a time is rounded once. -/
theorem join_eq {d τ : Int} {time : Number} (hd : d.natAbs < 2 ^ 36) (hτ : time.Holds τ)
    (hτ' : τ.natAbs < 2 ^ 53) : join (.ofInt d) time = .ofInt (d * msPerDay + τ) := by
  have hsmall : d.natAbs < 2 ^ 53 := by omega
  have hsum : ofInt d * ofInt msPerDay + time = .ofInt (d * msPerDay + τ) := by
    rw [ofInt_mul_ofInt hsmall (by decide) (by decide)]
    exact (holds_dayStart hd).add_eq hτ fun h0 => ofInt_ne_negZero _ h0.1
  have hday : (ofInt d).isFinite = true := (holds_ofInt hsmall).1
  have hfinite : (ofInt (d * msPerDay + τ)).isFinite = true := by
    apply isFinite_ofInt
    unfold msPerDay
    omega
  simp only [join, hday, hτ.1, hsum, hfinite, Bool.and_self, if_true]

theorem natAbs_dayOfDate {y d : Int} {m : Nat} (hy : y.natAbs ≤ 400000) (hm : m < 12)
    (hd : d.natAbs ≤ 10 ^ 9) : (dayOfDate y m d).natAbs < 2 ^ 36 := by
  have hfirst := firstDay_bounds hy
  have hbefore := daysBeforeMonth_bounds hm (isLeap y)
  unfold dayOfDate
  omega

/-- The time of a date in numbers and a clock is rounded once too, where its year is in range. -/
theorem join_dayNumber {year month date time : Number} {y m d τ : Int} (hy : year.trunc.Holds y)
    (hm : month.trunc.Holds m) (hd : date.trunc.Holds d) (by' : y.natAbs ≤ 10 ^ 9)
    (bm : m.natAbs ≤ 10 ^ 9) (bd : d.natAbs ≤ 10 ^ 9) (hτ : time.Holds τ)
    (hτ' : τ.natAbs < 2 ^ 53) :
    join (dayNumber year month date) time
      = if 400000 < (y + m / 12).natAbs then .nan
        else .ofInt (dayOfDate (y + m / 12) (m % 12).toNat d * msPerDay + τ) := by
  rw [dayNumber_eq hy hm hd (by omega) (by omega) (by omega)]
  split_ifs with hfar
  · simp [join, isFinite]
  · exact join_eq (natAbs_dayOfDate (not_lt.mp hfar) (by omega) bd) hτ hτ'

end ScriptDate.TimeValue
