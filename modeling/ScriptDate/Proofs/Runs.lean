import ScriptDate.Date.Format
import ScriptDate.Date.Parse
import ScriptDate.Date.Setter
import ScriptDate.Proofs.CivilFields
import ScriptDate.Proofs.LocalTime

/-!
# Dates over a run of setters

However a date is built and whatever numbers its setters are given, its time value is NaN or a
whole number in range, and a setter returns the time value it leaves (`Reached.sound`). The fields
of a valid date, also those of its local time, are then in the ranges of the texts, and the names
of its days and months are in their tables.
-/

namespace ScriptDate

open Calendar Number

/-! ## Time values -/

namespace TimeValue

/-- A time value: no time, or a whole number of milliseconds in range. -/
def IsTimeValue (x : Number) : Prop :=
  x = .nan ∨ ∃ t : Int, t.natAbs ≤ 8640000000000000 ∧ x = .finite t

theorem lt_maxTime {x : Number} {n : Int} (h : x.Holds n) :
    maxTime.lt x.abs = decide (8640000000000000 < n.natAbs) := by
  rw [maxTime, (holds_ofNat 8640000000000000 (by decide)).lt h.abs]
  exact decide_eq_decide.mpr (by omega)

theorem clip_of_trunc {x : Number} {n : Int} (hfin : x.isFinite = true)
    (hmax : maxTime.lt x.abs = false) (hn : x.trunc.Holds n) (hsmall : n.natAbs < 2 ^ 53) :
    clip x = .finite n := by
  have hsum := hn.add_eq (holds_ofNat 0 (by decide)) fun h => ofInt_ne_negZero 0 h.2
  simp only [clip, hfin, hmax]
  rw [← ofInt_eq hsmall]
  simpa using hsum

theorem clip_holds {x : Number} {n : Int} (h : x.Holds n) (hn : n.natAbs ≤ 8640000000000000) :
    clip x = .finite n := by
  refine clip_of_trunc h.1 ?_ h.trunc (by omega)
  rw [lt_maxTime h, decide_eq_false_iff_not]
  omega

theorem lt_maxTime_finite (q : Rat) :
    maxTime.lt (Number.finite q).abs = decide (8640000000000000 < |q|) := by
  rw [maxTime, show (8640000000000000 : Number) = .ofInt 8640000000000000 from rfl,
    ofInt_eq (by decide), ← magnitude_eq_abs]
  rfl

theorem isTimeValue_clip (x : Number) : IsTimeValue (clip x) := by
  cases x with
  | nan => exact Or.inl rfl
  | infinity s => exact Or.inl rfl
  | negZero => exact Or.inr ⟨0, by decide, clip_holds holds_negZero (by decide)⟩
  | finite q =>
    have hfin : (Number.finite q).isFinite = true := rfl
    by_cases hq : 8640000000000000 < |q|
    · left
      simp [clip, lt_maxTime_finite, hq]
    · have hbound := (natAbs_whole_le (.finite q)).trans (not_lt.mp hq)
      have hsmall : (Number.finite q).whole.natAbs ≤ 8640000000000000 := by exact_mod_cast hbound
      refine Or.inr ⟨_, hsmall, clip_of_trunc hfin ?_ (holds_trunc hfin) ?_⟩
      · simpa [lt_maxTime_finite] using hq
      · exact lt_of_le_of_lt hsmall (by decide)

end TimeValue

/-! ## Runs -/

namespace Date

/-- The dates of a zone that can be built and set. -/
inductive Reached (zone : Zone) : Date → Prop
  | components (cs : List Number) : Reached zone (ofComponents zone cs).value
  | time (t : Number) : Reached zone (ofTime zone t)
  | invalid : Reached zone (invalid zone)
  | text {text : String} {t : Number} (h : (parse zone text).value = some t) :
    Reached zone (ofTime zone t)
  | set {d : Date} (s : Setter) (h : Reached zone d) : Reached zone (d.set s).value.date

variable {zone : Zone} {d : Date}

theorem timeValue_of_not_valid (h : d.isValid = false) : d.timeValue = .nan := by
  unfold isValid at h
  cases hx : d.timeValue with
  | nan => rfl
  | _ => simp [hx, isNaN] at h

theorem timeValue_of_localTime? (h : d.localTime? = none) : d.timeValue = .nan := by
  apply timeValue_of_not_valid
  simpa [localTime?] using h

theorem timeValue_of_target? {s : Setter} (h : (s.target? d).value = none) :
    d.timeValue = .nan := by
  apply timeValue_of_localTime?
  cases hlocal : d.localTime? with
  | none => rfl
  | some t => cases s <;> simp [Setter.target?, Setter.localTarget?, hlocal] at h

/-- A setter stores a clipped time value or leaves an invalid date as it is. -/
theorem set_cases (d : Date) (s : Setter) :
    (∃ u, (d.set s).value = ⟨⟨TimeValue.clip u, d.zone⟩, TimeValue.clip u⟩)
      ∨ d.timeValue = .nan ∧ (d.set s).value = ⟨d, .nan⟩ := by
  unfold set
  rw [Noted.value_bind]
  cases htarget : (s.target? d).value with
  | some u => exact Or.inl ⟨u, rfl⟩
  | none => exact Or.inr ⟨timeValue_of_target? htarget, rfl⟩

theorem returned_set (d : Date) (s : Setter) :
    (d.set s).value.returned = (d.set s).value.date.timeValue := by
  rcases set_cases d s with ⟨u, h⟩ | ⟨hnan, h⟩
  · rw [h]
  · rw [h, hnan]

theorem Reached.zone_eq (h : Reached zone d) : d.zone = zone := by
  induction h with
  | components cs =>
    unfold ofComponents
    split_ifs <;> rfl
  | time t => rfl
  | invalid => rfl
  | text h => rfl
  | @set d s _ ih =>
    rcases set_cases d s with ⟨u, h⟩ | ⟨-, h⟩ <;> rw [h]
    · exact ih
    · exact ih

theorem Reached.isTimeValue (h : Reached zone d) : TimeValue.IsTimeValue d.timeValue := by
  induction h with
  | components cs =>
    unfold ofComponents
    split_ifs
    · exact TimeValue.isTimeValue_clip _
    · exact Or.inl rfl
  | time t => exact TimeValue.isTimeValue_clip t
  | invalid => exact Or.inl rfl
  | text h => exact TimeValue.isTimeValue_clip _
  | @set d s _ ih =>
    rcases set_cases d s with ⟨u, h⟩ | ⟨-, h⟩ <;> rw [h]
    · exact TimeValue.isTimeValue_clip u
    · exact ih

/-! ## Fields -/

/-- The values of a field. -/
def Field.InRange : Field → Int → Prop
  | .fullYear, n => -271821 ≤ n ∧ n ≤ 275760
  | .month, n => 0 ≤ n ∧ n ≤ 11
  | .date, n => 1 ≤ n ∧ n ≤ 31
  | .day, n => 0 ≤ n ∧ n ≤ 6
  | .hours, n => 0 ≤ n ∧ n ≤ 23
  | .minutes, n | .seconds, n => 0 ≤ n ∧ n ≤ 59
  | .milliseconds, n => 0 ≤ n ∧ n ≤ 999

/-- The getters give the whole numbers that the texts show, and these have their names. -/
structure Shows (get : Field → Number) (f : CivilTime) : Prop where
  exact : ∀ field, (get field).Holds (f.field field)
  inRange : ∀ field : Field, field.InRange (f.field field)
  weekDay : f.weekDay.toNat < weekDayNames.length
  month : f.month < monthNames.length

theorem shows_ofTime {t : Int} (h : t.natAbs ≤ maxLocalTime) :
    Shows (fun field => field.ofTime t) (.ofTime t) := by
  have hproper := CivilTime.proper_ofTime h
  have hweek := CivilTime.weekDay_bounds t
  have hmonth := Nat.lt_succ_of_le hproper.month
  refine ⟨CivilTime.holds_field h, fun field => ?_, ?_, hmonth⟩
  · have hlength := monthLength_bounds hmonth (CivilTime.ofTime t).year
    obtain ⟨hy, -, hd, hh, hi, hs, hn⟩ := hproper
    cases field <;> simp only [Field.InRange, CivilTime.field] <;> omega
  · have hlength : weekDayNames.length = 7 := rfl
    omega

/-- A date without a time. -/
structure NoTime (d : Date) : Prop where
  timeValue : d.timeValue = .nan
  localTime : d.localTime? = none
  utcTime : d.utcTime? = none
  getLocal : ∀ field, d.getLocal field = .nan
  getUTC : ∀ field, d.getUTC field = .nan

/-- A date at the time `t`, with `u` as its local time. -/
structure AtTime (d : Date) (t u : Int) : Prop where
  inRange : t.natAbs ≤ 8640000000000000
  timeValue : d.timeValue = .finite t
  localTime : d.localTime? = some u
  utcTime : d.utcTime? = some t
  getLocal : Shows d.getLocal (.ofTime u)
  getUTC : Shows d.getUTC (.ofTime t)
  offsetMinutes : (Number.ofInt d.zoneOffset / 60000).trunc.Holds (d.zoneOffset.tdiv msPerMinute)
  offsetHours : (d.zoneOffset.tdiv msPerMinute).natAbs < 24 * 60

theorem noTime_of_timeValue (h : d.timeValue = .nan) : NoTime d := by
  constructor <;> simp [localTime?, utcTime?, getLocal, getUTC, isValid, h, isNaN]

theorem localTime?_of_timeValue {t : Int} (ht : t.natAbs ≤ 8640000000000000)
    (h : d.timeValue = .finite t) (ho : (d.zone.offset t).natAbs < 86400000) :
    d.localTime? = some (t + d.zone.offset t) := by
  have hholds : d.timeValue.Holds t := h ▸ holds_finite t
  have hlocal := Zone.toLocal_holds_of_lt ho hholds (by omega)
  simp [localTime?, isValid, hholds.isNaN, hlocal.toInt]

theorem atTime_of_timeValue (hzone : Zone.UnderADay d.zone.offset) {t : Int}
    (ht : t.natAbs ≤ 8640000000000000) (h : d.timeValue = .finite t) :
    AtTime d t (t + d.zone.offset t) := by
  have hholds : d.timeValue.Holds t := h ▸ holds_finite t
  have hday := hzone t
  have hoffset : d.zoneOffset = d.zone.offset t := Zone.offsetAt_eq hholds d.zone
  have hvalid : d.isValid = true := by simp [isValid, hholds.isNaN]
  have hlocalTime := localTime?_of_timeValue ht h hday
  have hutcTime : d.utcTime? = some t := by simp [utcTime?, hvalid, hholds.toInt]
  refine ⟨ht, h, hlocalTime, hutcTime, ?_, ?_, ?_, ?_⟩
  · have hget : d.getLocal = fun field => field.ofTime (t + d.zone.offset t) := by
      funext field
      simp [getLocal, hlocalTime]
    rw [hget]
    exact shows_ofTime (Zone.natAbs_add_offset hzone ht)
  · have hget : d.getUTC = fun field => field.ofTime t := by
      funext field
      simp [getUTC, hutcTime]
    rw [hget]
    exact shows_ofTime (by unfold maxLocalTime; omega)
  · exact (holds_ofInt (by omega)).trunc_div (holds_ofNat 60000 (by decide)) (by omega)
      (by decide) (by decide)
  · rw [hoffset, Int.natAbs_tdiv]
    exact Nat.div_lt_of_lt_mul hday

theorem Reached.inRange (h : Reached zone d) {t : Int} (ht : d.timeValue = .finite t) :
    t.natAbs ≤ 8640000000000000 := by
  rcases h.isTimeValue with hnan | ⟨u, hu, hfinite⟩
  · exact absurd (ht.symm.trans hnan) (by simp)
  · obtain rfl : u = t := by simpa using hfinite.symm.trans ht
    exact hu

theorem Reached.atTime (hzone : Zone.UnderADay zone.offset) (h : Reached zone d) {t : Int}
    (ht : d.timeValue = .finite t) : AtTime d t (t + zone.offset t) := by
  have hu := h.inRange ht
  rw [← h.zone_eq] at hzone ⊢
  exact atTime_of_timeValue hzone hu ht

theorem timeValue_ofTime {t : Int} (h : t.natAbs ≤ 8640000000000000) (zone : Zone) :
    (ofTime zone (.ofInt t)).timeValue = .finite t :=
  TimeValue.clip_holds (holds_ofInt (by omega)) h

/-- On any run a date has no time or a time in range, whose fields and local fields are in theirs,
and a setter returns the time value it leaves. -/
theorem Reached.sound (hzone : Zone.UnderADay zone.offset) (h : Reached zone d) :
    (∀ s : Setter, (d.set s).value.returned = (d.set s).value.date.timeValue)
      ∧ (NoTime d ∨ ∃ t u, AtTime d t u) := by
  refine ⟨returned_set d, ?_⟩
  rcases h.isTimeValue with hnan | ⟨t, ht, hfinite⟩
  · exact Or.inl (noTime_of_timeValue hnan)
  · rw [← h.zone_eq] at hzone
    exact Or.inr ⟨t, _, atTime_of_timeValue hzone ht hfinite⟩

/-- Noon of 1 January 2023, set as a time on an invalid date. -/
def newYearNoon : Date := ((invalid Zone.newYearZone).set (.time (.ofInt 1672574400000))).value.date

theorem reached_newYearNoon :
    Zone.UnderADay Zone.newYearZone.offset ∧ Reached Zone.newYearZone newYearNoon
      ∧ (∃ u, newYearNoon.AtTime 1672574400000 u)
      ∧ NoTime (newYearNoon.set (.milliseconds .nan)).value.date := by
  have hrun : Reached Zone.newYearZone newYearNoon := .set _ .invalid
  have htime : newYearNoon.timeValue = .finite (1672574400000 : Int) :=
    TimeValue.clip_holds (holds_ofInt (by decide)) (by decide)
  obtain ⟨u, hat⟩ : ∃ u, newYearNoon.AtTime 1672574400000 u := by
    rcases (hrun.sound Zone.underADay_newYear).2 with h | ⟨t, u, h⟩
    · exact absurd (htime.symm.trans h.timeValue) (by simp)
    · have ht := htime.symm.trans h.timeValue
      rw [Number.finite.injEq, Int.cast_inj] at ht
      exact ⟨u, ht ▸ h⟩
  refine ⟨Zone.underADay_newYear, hrun, ⟨u, hat⟩, ?_⟩
  have hclock : Setter.withClock u none none none (some .nan) = .nan := by
    simp [Setter.withClock, TimeValue.clockTime, TimeValue.join, isFinite]
  have hnan : (newYearNoon.set (.milliseconds .nan)).value.date.timeValue = .nan := by
    simp [set, Setter.target?, Setter.localTarget?, hat.localTime, hclock]
    rfl
  rcases ((hrun.set (.milliseconds .nan)).sound Zone.underADay_newYear).2 with h | ⟨t, u, h⟩
  · exact h
  · exact absurd (hnan.symm.trans h.timeValue) (by simp)

end Date

end ScriptDate
