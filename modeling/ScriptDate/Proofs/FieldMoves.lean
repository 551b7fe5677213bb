import ScriptDate.Proofs.GivenFields

/-!
# Setters in a fixed zone

In a zone of one offset the local time that a setter asks for is the one that the date gets, as
long as the instant is in range (`Date.Reached.value_set`). So fields of fixed length move the
time value by the differences they are given (`Date.Reached.set_shifts`). A month or a year moves
the local day and keeps the clock, and a day past the end of its month falls into the next one
(`Date.Reached.set_month_or_year`).
-/

namespace ScriptDate

open Calendar Number TimeValue

namespace Setter

open Date

/-- The fields of fixed length that setters replace, each with its length. -/
def lengths : List (Field × Int) :=
  [(.date, 86400000), (.hours, 3600000), (.minutes, 60000), (.seconds, 1000), (.milliseconds, 1)]

/-- How far the fields of fixed length that a setter is given are from their old values. -/
def shift (s : Setter) (old : Field → Int) : Int :=
  (lengths.map fun (field, length) =>
    (s.given field).elim 0 fun v => (v.whole - old field) * length).sum

variable {s : Setter} {old : Field → Int} {L : Int}

theorem given_of_not_setsMonth (h : s.setsMonth = false) :
    s.given .fullYear = none ∧ s.given .month = none := by
  cases s <;> simp_all [setsMonth, given]

theorem given_of_setsMonth (h : s.setsMonth = true) :
    s.isLocal = true ∧ ∀ field ∈ clockFields, s.given field = none := by
  cases s <;> simp_all [setsMonth, isLocal, clockFields, given]

theorem asked_sub_mul (s : Setter) (old : Field → Int) (field : Field) (length : Int) :
    (s.asked old field - old field) * length
      = (s.given field).elim 0 fun v => (v.whole - old field) * length := by
  rcases h : s.given field with _ | v <;> simp [asked, h]

theorem askedTime_eq_add_shift (hL : L.natAbs ≤ maxLocalTime) (hm : s.setsMonth = false) :
    s.askedTime (CivilTime.ofTime L).field = L + s.shift (CivilTime.ofTime L).field := by
  obtain ⟨hy, hm⟩ := given_of_not_setsMonth hm
  obtain ⟨hyear, hmonth⟩ := asked_month hL (asked_of_none hy) (asked_of_none hm)
  have hlast := (CivilTime.proper_ofTime hL).month
  simp only [CivilTime.ofTime] at hlast
  have hday : Gregorian.dayNumber (yearOf L) (monthOf L) 1 + dateOf L - 1 = day L := by
    rw [← dayOfDate_dateOf, Gregorian.dayOfDate_eq (by omega)]
    unfold Gregorian.dayNumber
    ring
  have hclock := clockMs_ofTime hL
  have htime := day_add_timeOfDay (CivilTime.small_of_local hL)
  have hdate : (CivilTime.ofTime L).field .date = dateOf L := rfl
  unfold msPerDay at htime
  simp only [shift, lengths, ← asked_sub_mul, List.map_cons, List.map_nil, List.sum_cons,
    List.sum_nil, hdate]
  rw [askedTime, askedDay, hyear, hmonth, clockMs]
  rw [clockMs] at hclock
  omega

/-! ## Fields of the new local time -/

theorem field_eq_of_timeOfDay {u : Int} (hu : u.natAbs ≤ maxLocalTime)
    (hL : L.natAbs ≤ maxLocalTime) (h : timeOfDay u = timeOfDay L) :
    ∀ field ∈ clockFields, (CivilTime.ofTime u).field field = (CivilTime.ofTime L).field field := by
  obtain ⟨hhour, hminute, hsecond, hms⟩ :=
    clock_eq_of_timeOfDay (CivilTime.small_of_local hu) (CivilTime.small_of_local hL) h
  simp [clockFields, CivilTime.field, CivilTime.ofTime, hhour, hminute, hsecond, hms]

end Setter

namespace Date

/-- The local date that the getters of a date give; the month counts from zero. -/
def ShowsDate (d : Date) (y : Int) (m : Nat) (date : Int) : Prop :=
  (d.getLocal .fullYear).Holds y ∧ (d.getLocal .month).Holds m ∧ (d.getLocal .date).Holds date

variable {o : FixedOffset} {d : Date} {t u : Int} {old : Field → Int} {s : Setter}

theorem AtTime.eq_field (hd : AtTime d t u) (hold : ∀ field, (d.getLocal field).Holds (old field)) :
    old = (CivilTime.ofTime u).field := by
  funext field
  exact (hold field).unique (hd.getLocal.exact field)

theorem AtTime.showsDate (hd : AtTime d t u) (hu : u.natAbs ≤ maxLocalTime) {y date : Int} {m : Nat}
    (hm : m < 12) (hlo : 1 ≤ date) (hhi : date ≤ Gregorian.monthDays y m)
    (hday : day u = dayOfDate y m date) : d.ShowsDate y m date := by
  rw [← Gregorian.monthLength_eq hm] at hhi
  obtain ⟨rfl, rfl, rfl⟩ := date_of_dayOfDate (CivilTime.small_of_local hu) hm hlo hhi hday
  exact ⟨hd.getLocal.exact .fullYear, hd.getLocal.exact .month, hd.getLocal.exact .date⟩

/-- A day past the end of its month is shown as one of the next. -/
theorem AtTime.showsDate_nextMonth (hd : AtTime d t u) (hu : u.natAbs ≤ maxLocalTime)
    {y date : Int} {m : Nat} (hm : m < 12) (hlo : Gregorian.monthDays y m < date)
    (hhi : date ≤ 31) (hday : day u = dayOfDate y m date) :
    if m < 11 then d.ShowsDate y (m + 1) (date - Gregorian.monthDays y m)
      else d.ShowsDate (y + 1) 0 (date - Gregorian.monthDays y m) := by
  have hthis := Gregorian.monthDays_bounds hm y
  rw [Gregorian.dayOfDate_nextMonth hm] at hday
  split_ifs at hday ⊢ with hlast
  · have hnext := Gregorian.monthDays_bounds (m := m + 1) (by omega) y
    exact hd.showsDate hu (by omega) (by omega) (by omega) hday
  · have hnext := Gregorian.monthDays_bounds (m := 0) (by omega) (y + 1)
    exact hd.showsDate hu (by omega) (by omega) (by omega) hday

theorem Reached.atTime_fixed (h : Reached (.fixed o) d) (ht : d.timeValue = .finite t) :
    AtTime d t (t + o.seconds * 1000) ∧ (t + o.seconds * 1000).natAbs ≤ maxLocalTime := by
  have hzone := Zone.underADay_fixed o
  have hd := h.atTime hzone ht
  exact ⟨hd, Zone.natAbs_add_offset hzone hd.inRange⟩

/-- In a fixed zone a setter of local fields stores what it asks for, where that is in range. -/
theorem Reached.value_set (h : Reached (.fixed o) d) (ht : d.timeValue = .finite t)
    (hold : ∀ field, (d.getLocal field).Holds (old field)) (hs : s.isLocal = true)
    (hsmall : Moderate s.arguments) :
    (d.set s).value = d.changed
      (if (s.askedYear old).natAbs ≤ 400000
          ∧ (s.askedTime old - o.seconds * 1000).natAbs ≤ 8640000000000000
        then .finite (s.askedTime old - o.seconds * 1000 : Int) else .nan) := by
  obtain ⟨hd, hL⟩ := h.atTime_fixed ht
  obtain rfl := hd.eq_field hold
  have htarget := Setter.localTarget?_eq hs hsmall hL
  rw [← hd.localTime] at htarget
  rw [set_of_localTarget? hs htarget, h.zone_eq]
  by_cases hyear : (s.askedYear (CivilTime.ofTime (t + o.seconds * 1000)).field).natAbs ≤ 400000
  · rw [if_neg (by omega), clip_toUTC_fixed (Setter.natAbs_askedTime hL hsmall hyear)]
    simp only [hyear, true_and]
  · rw [if_pos (by omega), if_neg (by tauto)]
    rfl

/-- In a fixed zone the fields of fixed length that a setter is given move the time value by just
their differences to the old ones, or out of range. -/
theorem Reached.set_shifts (h : Reached (.fixed o) d) (ht : d.timeValue = .finite t)
    (hold : ∀ field, (d.getLocal field).Holds (old field)) (hs : s.isLocal = true)
    (hm : s.setsMonth = false) (hsmall : Moderate s.arguments) :
    (d.set s).value = d.changed
      (if (t + s.shift old).natAbs ≤ 8640000000000000 then .finite (t + s.shift old : Int)
        else .nan) := by
  obtain ⟨hd, hL⟩ := h.atTime_fixed ht
  rw [h.value_set ht hold hs hsmall]
  obtain rfl := hd.eq_field hold
  obtain ⟨hy, hm'⟩ := Setter.given_of_not_setsMonth hm
  have hyears := yearOf_bounds hL
  have hyear : (s.askedYear (CivilTime.ofTime (t + o.seconds * 1000)).field).natAbs ≤ 400000 := by
    rw [(Setter.asked_month hL (Setter.asked_of_none hy) (Setter.asked_of_none hm')).1]
    omega
  have hmove : s.askedTime (CivilTime.ofTime (t + o.seconds * 1000)).field - o.seconds * 1000
      = t + s.shift (CivilTime.ofTime (t + o.seconds * 1000)).field := by
    rw [Setter.askedTime_eq_add_shift hL hm]
    ring
  simp only [hyear, hmove, true_and]

/-- Five and a half hours behind UTC. -/
def behind : FixedOffset := ⟨-19800, by decide⟩

theorem Reached.getLocal_holds (h : Reached (.fixed o) d) (ht : d.timeValue = .finite t)
    {f : CivilTime} (hf : CivilTime.ofTime (t + o.seconds * 1000) = f) (field : Field) :
    (d.getLocal field).Holds (f.field field) := by
  rw [← hf]
  exact (h.atTime_fixed ht).1.getLocal.exact field

/-- The last millisecond before the epoch. -/
def beforeEpoch : Date := ofTime (.fixed behind) (.ofInt (-1))

theorem set_shifts_before_epoch :
    (beforeEpoch.set (.hours 25 none (some (.finite (-61 / 2))) none)).value
      = beforeEpoch.changed (.finite 25110999)
    ∧ (beforeEpoch.set (.date 1000000000)).value = beforeEpoch.changed .nan := by
  have hreached : Reached (.fixed behind) beforeEpoch := .time _
  have htime : beforeEpoch.timeValue = .finite (-1 : Int) := timeValue_ofTime (by decide) _
  have hold := hreached.getLocal_holds (f := ⟨1969, 11, 31, 3, 18, 29, 59, 999⟩) htime
    (Gregorian.ofTime_of_proper (by constructor <;> decide) (by decide) (by decide))
  have hshift {s : Setter} (hs : s.isLocal = true) (hm : s.setsMonth = false)
      (hsmall : Moderate s.arguments) := hreached.set_shifts htime hold hs hm hsmall
  constructor
  · rw [hshift rfl rfl (by unfold Moderate; decide +kernel)]
    exact congrArg _ (by decide +kernel)
  · rw [hshift rfl rfl (by unfold Moderate; decide +kernel)]
    exact congrArg _ (by decide +kernel)

/-- In a fixed zone a month or a year moves the local day to the one counted on from the first of
the month and keeps the clock. A day that the month has not is one of the following month. -/
theorem Reached.set_month_or_year (h : Reached (.fixed o) d) (ht : d.timeValue = .finite t)
    (hold : ∀ field, (d.getLocal field).Holds (old field)) (hs : s.setsMonth = true)
    (hsmall : Moderate s.arguments) {y date : Int} {m : Nat} (hy : s.askedYear old = y)
    (hm : s.askedMonth old = m) (hdate : s.asked old .date = date)
    (hu : 86400000 * (Gregorian.dayNumber y m 1 + date - 1) + clockMs old = u) :
    (d.set s).value = d.changed
      (if y.natAbs ≤ 400000 ∧ (u - o.seconds * 1000).natAbs ≤ 8640000000000000
        then .finite (u - o.seconds * 1000 : Int) else .nan)
    ∧ ((d.set s).value.date.isValid = true →
      (∀ field ∈ clockFields, ((d.set s).value.date.getLocal field).Holds (old field))
      ∧ (1 ≤ date → date ≤ Gregorian.monthDays y m → (d.set s).value.date.ShowsDate y m date)
      ∧ (Gregorian.monthDays y m < date → date ≤ 31 →
        if m < 11 then (d.set s).value.date.ShowsDate y (m + 1) (date - Gregorian.monthDays y m)
        else (d.set s).value.date.ShowsDate (y + 1) 0 (date - Gregorian.monthDays y m))) := by
  obtain ⟨hlocal, hclock⟩ := Setter.given_of_setsMonth hs
  have hvalue := h.value_set ht hold hlocal hsmall
  rw [Setter.askedTime, Setter.askedDay, Setter.clockMs_asked hclock, hy, hm, hdate, hu] at hvalue
  refine ⟨hvalue, fun hvalid => ?_⟩
  have hmonth : m < 12 := by
    rw [← hm, Setter.askedMonth]
    omega
  obtain ⟨hd, hL⟩ := h.atTime_fixed ht
  obtain rfl := hd.eq_field hold
  have htime : (d.set s).value.date.timeValue = .finite (u - o.seconds * 1000 : Int) := by
    rw [hvalue] at hvalid ⊢
    split_ifs at hvalid ⊢
    · rfl
    · simp [changed, isValid, isNaN] at hvalid
  obtain ⟨hnew, hL'⟩ := (h.set s).atTime_fixed htime
  rw [sub_add_cancel] at hnew hL'
  rw [Setter.clockMs_ofTime hL] at hu
  -- The new local time is `u`, and comes apart into the day and the clock it was made of.
  have hjoin : dayOfDate y m date * msPerDay + timeOfDay (t + o.seconds * 1000) = u := by
    rw [← hu, Gregorian.dayOfDate_eq (by omega), Gregorian.dayNumber, Gregorian.dayNumber, msPerDay]
    ring
  obtain ⟨hday, hsame⟩ :=
    day_of_time (CivilTime.small_of_local hL') (timeOfDay_range _) hjoin
  refine ⟨fun field hfield => ?_, fun hlo hhi => hnew.showsDate hL' hmonth hlo hhi hday,
    fun hlo hhi => hnew.showsDate_nextMonth hL' hmonth hlo hhi hday⟩
  rw [← Setter.field_eq_of_timeOfDay hL' hL hsame field hfield]
  exact hnew.getLocal.exact field

/-- The morning of 29 February 2024 by the local clock. -/
def leapMorning : Date := ofTime (.fixed behind) (.ofInt 1709221830400)

theorem set_month_or_year_leap_morning :
    (leapMorning.getLocal .date).Holds 29
    ∧ (leapMorning.set (.fullYear 50 none none)).value.returned = .finite (-60584141369600)
    ∧ (leapMorning.set (.fullYear 50 none none)).value.date.ShowsDate 50 2 1
    ∧ ((leapMorning.set (.fullYear 50 none none)).value.date.getLocal .hours).Holds 10 := by
  have hreached : Reached (.fixed behind) leapMorning := .time _
  have htime : leapMorning.timeValue = .finite (1709221830400 : Int) :=
    timeValue_ofTime (by decide) _
  have hold := hreached.getLocal_holds (f := ⟨2024, 1, 29, 4, 10, 20, 30, 400⟩) htime
    (Gregorian.ofTime_of_proper (by constructor <;> decide) (by decide) (by decide))
  have hu : 86400000 * (Gregorian.dayNumber 50 1 1 + 29 - 1)
      + clockMs (CivilTime.field ⟨2024, 1, 29, 4, 10, 20, 30, 400⟩) = -60584161169600 := by
    rw [← Gregorian.dayOfDate_eq (by omega)]
    decide
  obtain ⟨hvalue, hshows⟩ := hreached.set_month_or_year htime hold (s := .fullYear 50 none none) rfl
    (by unfold Moderate; decide +kernel) (by decide +kernel) (by decide +kernel) rfl hu
  rw [if_pos (by decide)] at hvalue
  obtain ⟨hclock, -, hnext⟩ := hshows (by rw [hvalue]; rfl)
  refine ⟨hold .date, ?_, hnext (by decide) (by decide), hclock .hours (by simp [clockFields])⟩
  rw [hvalue]
  rfl

end Date

end ScriptDate
