import ScriptDate.Date.Basic
import ScriptDate.Proofs.Combining

/-!
# Fields and times

Over the times that a date can show in some zone, splitting a time into its fields and combining
fields into a time undo each other (`civil_fields_inverse`). The fields are numbers that rounded
quotients and signed remainders give, and the sums that combine them are rounded too.
-/

namespace ScriptDate

open Calendar Number

namespace Calendar.CivilTime

/-- Fields of a calendar and a clock, in a year that local times reach. -/
structure Proper (f : CivilTime) : Prop where
  year : -271821 ≤ f.year ∧ f.year ≤ 275760
  month : f.month ≤ 11
  date : 1 ≤ f.date ∧ f.date ≤ monthLength f.year f.month
  hour : 0 ≤ f.hour ∧ f.hour ≤ 23
  minute : 0 ≤ f.minute ∧ f.minute ≤ 59
  second : 0 ≤ f.second ∧ f.second ≤ 59
  ms : 0 ≤ f.ms ∧ f.ms ≤ 999

instance (f : CivilTime) : Decidable f.Proper :=
  decidable_of_iff ((-271821 ≤ f.year ∧ f.year ≤ 275760) ∧ f.month ≤ 11
      ∧ (1 ≤ f.date ∧ f.date ≤ monthLength f.year f.month) ∧ (0 ≤ f.hour ∧ f.hour ≤ 23)
      ∧ (0 ≤ f.minute ∧ f.minute ≤ 59) ∧ (0 ≤ f.second ∧ f.second ≤ 59) ∧ 0 ≤ f.ms ∧ f.ms ≤ 999)
    ⟨fun ⟨hy, hm, hd, hh, hi, hs, hn⟩ => ⟨hy, hm, hd, hh, hi, hs, hn⟩,
      fun ⟨hy, hm, hd, hh, hi, hs, hn⟩ => ⟨hy, hm, hd, hh, hi, hs, hn⟩⟩

/-- A field by its name. -/
def field (f : CivilTime) : Date.Field → Int
  | .fullYear => f.year
  | .month => f.month
  | .date => f.date
  | .day => f.weekDay
  | .hours => f.hour
  | .minutes => f.minute
  | .seconds => f.second
  | .milliseconds => f.ms

/-- The time that the fields count up to. -/
def time (f : CivilTime) : Int :=
  dayOfDate f.year f.month f.date * msPerDay
    + (f.hour * msPerHour + f.minute * msPerMinute + f.second * msPerSecond + f.ms)

/-! ## Splitting -/

variable {t : Int}

theorem small_of_local (h : t.natAbs ≤ maxLocalTime) : t.natAbs < 2 ^ 53 :=
  h.trans_lt (by decide)

theorem proper_ofTime (h : t.natAbs ≤ maxLocalTime) : (ofTime t).Proper := by
  have hs := small_of_local h
  have hmonth := (month_spec hs).1
  refine ⟨yearOf_bounds h, Nat.le_of_lt_succ hmonth, dateOf_bounds hs, ?_, ?_, ?_, ?_⟩
  · simp only [ofTime, hourOf_eq hs]
    omega
  · simp only [ofTime, minuteOf_eq hs]
    omega
  · simp only [ofTime, secondOf_eq hs]
    omega
  · simp only [ofTime, msOf, msPerSecond]
    omega

theorem weekDay_bounds (t : Int) : 0 ≤ (ofTime t).weekDay ∧ (ofTime t).weekDay ≤ 6 := by
  simp only [ofTime, Calendar.weekDay]
  omega

theorem time_ofTime (h : t.natAbs ≤ maxLocalTime) : (ofTime t).time = t := by
  have hs := small_of_local h
  have hclock := clock_eq_timeOfDay hs
  have hday := day_add_timeOfDay hs
  simp only [time, ofTime, dayOfDate_dateOf]
  omega

/-- The numbers that the getters give are the fields of the texts. -/
theorem holds_field (h : t.natAbs ≤ maxLocalTime) (name : Date.Field) :
    (name.ofTime t).Holds ((ofTime t).field name) := by
  have hproper := proper_ofTime h
  cases name with
  | fullYear => exact holds_ofInt (by have := hproper.year; simp only [ofTime] at this; omega)
  | month => exact holds_ofInt (by have := hproper.month; simp only [ofTime] at this; omega)
  | date =>
    have h1 := hproper.date
    have h2 := monthLength_bounds (Nat.lt_succ_of_le hproper.month) (ofTime t).year
    exact holds_ofInt (by simp only [ofTime] at h1 h2; omega)
  | day => exact holds_remainder (by decide) (by decide)
  | hours => exact holds_remainder (by decide) (by decide)
  | minutes => exact holds_remainder (by decide) (by decide)
  | seconds => exact holds_remainder (by decide) (by decide)
  | milliseconds => exact holds_remainder (by decide) (by decide)

/-! ## Combining -/

variable {f : CivilTime}

theorem Proper.natAbs_field (hf : f.Proper) {name : Date.Field} (hname : name ≠ .day) :
    (f.field name).natAbs ≤ 10 ^ 9 := by
  have hlength := monthLength_bounds (Nat.lt_succ_of_le hf.month) f.year
  obtain ⟨hy, hm, hd, hh, hi, hs, hn⟩ := hf
  cases name with
  | day => exact absurd rfl hname
  | _ => simp only [CivilTime.field]; omega

theorem dayOfDate_bounds (hf : f.Proper) :
    (dayOfDate f.year f.month f.date).natAbs ≤ 104000000 := by
  have hmonth := TimeValue.daysBeforeMonth_bounds (Nat.lt_succ_of_le hf.month) (isLeap f.year)
  have hdate := hf.date
  have hlength := monthLength_bounds (Nat.lt_succ_of_le hf.month) f.year
  have hyear := hf.year
  unfold dayOfDate firstDay
  omega

theorem timeOfDay_bounds (hf : f.Proper) :
    0 ≤ f.hour * msPerHour + f.minute * msPerMinute + f.second * msPerSecond + f.ms
      ∧ f.hour * msPerHour + f.minute * msPerMinute + f.second * msPerSecond + f.ms < msPerDay := by
  obtain ⟨-, -, -, hh, hi, hs, hn⟩ := hf
  unfold msPerHour msPerMinute msPerSecond msPerDay
  omega

theorem time_small (hf : f.Proper) : f.time.natAbs < 2 ^ 53 := by
  have hday := dayOfDate_bounds hf
  have hclock := timeOfDay_bounds hf
  unfold time
  unfold msPerDay at *
  omega

/-- The fields count up to their time: its day has their date, and its clock reads theirs. -/
theorem ofTime_time (hf : f.Proper) :
    ofTime f.time = { f with weekDay := Calendar.weekDay f.time } := by
  have hsmall := time_small hf
  have hclock := timeOfDay_bounds hf
  have hday : day f.time = dayOfDate f.year f.month f.date := by
    refine (day_of_time hsmall (timeOfDay_bounds hf) ?_).1
    unfold time
    ring
  obtain ⟨hy, hm, hd⟩ := date_of_dayOfDate hsmall (Nat.lt_succ_of_le hf.month) hf.date.1
    hf.date.2 hday
  obtain ⟨-, -, -, hh, hi, hs, hn⟩ := hf
  have hhour : hourOf f.time = f.hour := by
    rw [hourOf_eq hsmall]
    unfold time msPerHour msPerMinute msPerSecond msPerDay
    omega
  have hminute : minuteOf f.time = f.minute := by
    rw [minuteOf_eq hsmall]
    unfold time msPerHour msPerMinute msPerSecond msPerDay
    omega
  have hsecond : secondOf f.time = f.second := by
    rw [secondOf_eq hsmall]
    unfold time msPerHour msPerMinute msPerSecond msPerDay
    omega
  have hms : msOf f.time = f.ms := by
    unfold msOf time msPerHour msPerMinute msPerSecond msPerDay
    omega
  simp only [ofTime, hy, hm, hd, hhour, hminute, hsecond, hms]

end Calendar.CivilTime

/-- The time value of the fields that `x` gives by name. -/
def TimeValue.ofFields (x : Date.Field → Number) : Number :=
  join (dayNumber (x .fullYear) (x .month) (x .date))
    (clockTime (x .hours) (x .minutes) (x .seconds) (x .milliseconds))

open CivilTime TimeValue

theorem ofFields_eq {f : CivilTime} {x : Date.Field → Number} (hf : f.Proper)
    (hx : ∀ name, name ≠ .day → (x name).Holds (f.field name)) : ofFields x = .ofInt f.time := by
  have hclock := timeOfDay_bounds hf
  have hlength := monthLength_bounds (Nat.lt_succ_of_le hf.month) f.year
  obtain ⟨hy, hm, hd, hh, hi, hs, hn⟩ := hf
  have hmonth :
      f.year + (f.month : Int) / 12 = f.year ∧ ((f.month : Int) % 12).toNat = f.month := by
    omega
  have htime : (clockTime (x .hours) (x .minutes) (x .seconds) (x .milliseconds)).Holds
      (f.hour * msPerHour + f.minute * msPerMinute + f.second * msPerSecond + f.ms) := by
    apply clockTime_holds (hx .hours (by decide)).trunc (hx .minutes (by decide)).trunc
      (hx .seconds (by decide)).trunc (hx .milliseconds (by decide)).trunc
    all_goals simp only [CivilTime.field]; omega
  have htime' : f.hour * msPerHour + f.minute * msPerMinute + f.second * msPerSecond + f.ms
      < 2 ^ 53 := hclock.2.trans (by decide)
  rw [ofFields, join_dayNumber (hx .fullYear (by decide)).trunc (hx .month (by decide)).trunc
    (hx .date (by decide)).trunc ?_ ?_ ?_ htime (by omega)]
  · simp only [CivilTime.field, hmonth]
    rw [if_neg (by omega)]
    rfl
  all_goals simp only [CivilTime.field]; omega

/-- The fields of a local time are proper and combine into it, and proper fields combine into the
time they count up to, which has those fields when it is a local time. -/
theorem civil_fields_inverse :
    (∀ t : Int, t.natAbs ≤ maxLocalTime →
      (CivilTime.ofTime t).Proper
        ∧ (∀ name : Date.Field, (name.ofTime t).Holds ((CivilTime.ofTime t).field name))
        ∧ ofFields (fun name => name.ofTime t) = .finite t)
    ∧ ∀ (f : CivilTime) (x : Date.Field → Number), f.Proper →
      (∀ name, name ≠ .day → (x name).Holds (f.field name)) →
      ofFields x = .finite f.time
        ∧ (f.time.natAbs ≤ maxLocalTime →
          ∀ name : Date.Field, name ≠ .day → (name.ofTime f.time).Holds (f.field name)) := by
  refine ⟨fun t ht => ⟨proper_ofTime ht, holds_field ht, ?_⟩, fun f x hf hx => ⟨?_, ?_⟩⟩
  · rw [ofFields_eq (proper_ofTime ht) fun name _ => holds_field ht name, time_ofTime ht,
      ofInt_eq (small_of_local ht)]
  · rw [ofFields_eq hf hx, ofInt_eq (time_small hf)]
  · intro ht name hname
    have hget := holds_field ht name
    rw [ofTime_time hf] at hget
    cases name with
    | day => exact absurd rfl hname
    | _ => exact hget

/-- The last millisecond of a leap day. -/
def leapDayEnd : CivilTime := ⟨2000, 1, 29, 2, 23, 59, 59, 999⟩

theorem civil_fields_inverse_leap_day :
    ofFields (fun name => name.ofTime (-1)) = .finite (-1 : Int)
      ∧ leapDayEnd.Proper
      ∧ ofFields (fun name => .ofInt (leapDayEnd.field name)) = .finite (951868799999 : Int)
      ∧ ∀ name : Date.Field, name ≠ .day →
        (name.ofTime 951868799999).Holds (leapDayEnd.field name) := by
  have hproper : leapDayEnd.Proper := by constructor <;> decide
  have hx (name : Date.Field) :
      (Number.ofInt (leapDayEnd.field name)).Holds (leapDayEnd.field name) :=
    holds_ofInt (by cases name <;> decide)
  have htime : leapDayEnd.time = 951868799999 := by decide
  obtain ⟨hjoin, hsplit⟩ := civil_fields_inverse.2 leapDayEnd _ hproper fun name _ => hx name
  rw [htime] at hjoin hsplit
  exact ⟨(civil_fields_inverse.1 (-1) (by decide)).2.2, hproper, hjoin, hsplit (by decide)⟩

end ScriptDate
