import ScriptDate.Proofs.GivenFields

/-!
# Dates without a time

A date without a time shows none anywhere, and one setter after another leaves it so, unless it is
given a time or a year. A valid date loses its time to a number that is not finite, and components
with such a number stand for none. Both are in `Date.noTime_absorbs`, with the one local time that
a year is set in when there is no other.
-/

namespace ScriptDate

open Calendar Number

namespace TimeValue

/-! ## Numbers that are not finite -/

theorem clip_of_not_finite {t : Number} (h : t.isFinite = false) : clip t = .nan := by
  simp [clip, h]

theorem join_of_date_not_finite {year month date : Number}
    (h : year.isFinite = false ∨ month.isFinite = false ∨ date.isFinite = false) (time : Number) :
    join (dayNumber year month date) time = .nan := by
  have hnan : dayNumber year month date = .nan := by
    rcases h with h | h | h <;> simp [dayNumber, h]
  simp [join, hnan, isFinite]

theorem join_of_clock_not_finite {hour minute second ms : Number}
    (h : hour.isFinite = false ∨ minute.isFinite = false ∨ second.isFinite = false
      ∨ ms.isFinite = false) (day : Number) :
    join day (clockTime hour minute second ms) = .nan := by
  have hnan : clockTime hour minute second ms = .nan := by
    rcases h with h | h | h | h <;> simp [clockTime, h]
  simp [join, hnan, isFinite]

theorem fullYear_of_not_finite {x : Number} (h : x.isFinite = false) : fullYear x = x := by
  cases x with
  | nan => rfl
  | infinity s => cases s <;> decide +kernel
  | negZero => simp [isFinite] at h
  | finite q => simp [isFinite] at h

variable {cs : List Number} {v : Number}

theorem ofComponents_of_not_finite (hlen : cs.length ≤ 7) (hv : v ∈ cs)
    (hfin : v.isFinite = false) : ofComponents cs = .nan := by
  obtain ⟨i, hi, rfl⟩ := List.mem_iff_getElem.mp hv
  have hget (missing : Number) : (cs.getD i missing).isFinite = false := by simpa [hi] using hfin
  have hseven : i = 0 ∨ i = 1 ∨ i = 2 ∨ i = 3 ∨ i = 4 ∨ i = 5 ∨ i = 6 := by omega
  rcases hseven with rfl | rfl | rfl | rfl | rfl | rfl | rfl
  · refine join_of_date_not_finite (Or.inl ?_) _
    rw [fullYear_of_not_finite (hget _), hget]
  · exact join_of_date_not_finite (Or.inr (Or.inl (hget _))) _
  · exact join_of_date_not_finite (Or.inr (Or.inr (hget _))) _
  · exact join_of_clock_not_finite (Or.inl (hget _)) _
  · exact join_of_clock_not_finite (Or.inr (Or.inl (hget _))) _
  · exact join_of_clock_not_finite (Or.inr (Or.inr (Or.inl (hget _)))) _
  · exact join_of_clock_not_finite (Or.inr (Or.inr (Or.inr (hget _)))) _

end TimeValue

namespace Setter

open Date

/-- A setter that gives a time to a date without one. -/
def revives : Setter → Bool
  | .time _ | .fullYear .. => true
  | _ => false

variable {s : Setter} {v : Number}

theorem localTarget?_none (h : s.revives = false) : s.localTarget? none = none := by
  cases s <;> simp_all [revives, localTarget?]

/-- The local time at the start of 1970 is what a year is set in without another. -/
theorem localTarget?_fullYear (y : Number) (m date : Option Number) :
    (Setter.fullYear y m date).localTarget? none
      = some (TimeValue.join (TimeValue.dayNumber y (m.getD 0) (date.getD 1)) 0) := by
  have hstart : CivilTime.ofTime 0 = ⟨1970, 0, 1, 4, 0, 0, 0, 0⟩ :=
    Gregorian.ofTime_of_proper (by constructor <;> decide) (by decide) (by decide)
  have hmonth : monthOf 0 = 0 := congrArg CivilTime.month hstart
  have hdate : dateOf 0 = 1 := congrArg CivilTime.date hstart
  simp only [localTarget?, withDay, Option.getD_none, Option.getD_some, Field.ofTime, hmonth, hdate]
  rfl

theorem localTarget?_of_not_finite (hs : s.isLocal = true) (hv : v ∈ s.arguments)
    (hfin : v.isFinite = false) (L : Int) : s.localTarget? (some L) = some .nan := by
  obtain ⟨field, hfield⟩ := exists_given hs hv
  have hmem := mem_componentFields.mpr (ne_day_of_given hfield)
  rcases localTarget?_cases hs L with ⟨hnone, htarget⟩ | ⟨hnone, htarget⟩
  · have hclock : field ∈ clockFields := by
      refine (List.mem_append.mp hmem).resolve_left fun h => ?_
      simp [hnone field h] at hfield
    rw [htarget, withClock, TimeValue.join_of_clock_not_finite]
    simp only [clockFields, List.mem_cons, List.not_mem_nil, or_false] at hclock
    rcases hclock with rfl | rfl | rfl | rfl <;> simp [hfield, hfin]
  · have hcalendar : field ∈ calendarFields := by
      refine (List.mem_append.mp hmem).resolve_right fun h => ?_
      simp [hnone field h] at hfield
    rw [htarget, withDay, TimeValue.join_of_date_not_finite]
    simp only [calendarFields, List.mem_cons, List.not_mem_nil, or_false] at hcalendar
    rcases hcalendar with rfl | rfl | rfl <;> simp [hfield, hfin]

end Setter

namespace Date

variable {d : Date} {s : Setter} {v : Number}

/-- A date whose getters and texts all tell that it has no time. -/
structure ShowsNoTime (d : Date) : Prop extends NoTime d where
  offset : d.timezoneOffset = .nan
  texts : ∀ text ∈ [d.toString, d.toDateString, d.toTimeString, d.toLocaleString,
    d.toLocaleDateString, d.toLocaleTimeString, d.toUTCString], text = "Invalid Date"
  isoText : d.toISOString = .error (.range "Invalid time value" isoSite)
  json : d.toJSON = none

/-- Calls setters in turn, with the change that each makes. -/
def setAll (d : Date) : List Setter → Logged (List Change)
  | [] => pure []
  | s :: rest => do
    let c ← d.set s
    return c :: (← c.date.setAll rest)

theorem showsNoTime (h : d.isValid = false) : ShowsNoTime d := by
  have hno := noTime_of_timeValue (timeValue_of_not_valid h)
  refine { hno with offset := ?_, texts := ?_, isoText := ?_, json := ?_ }
  · simp [timezoneOffset, h]
  · simp [toString, toDateString, toTimeString, toLocaleString, toLocaleDateString,
      toLocaleTimeString, toUTCString, localText, hno.localTime, hno.utcTime, invalidText]
  · simp [toISOString, hno.utcTime]
  · simp [toJSON, toISOString, hno.utcTime, Except.toOption]

/-- One setter leaves the date as it is, and writes no note. -/
theorem set_of_not_valid (h : d.isValid = false) (hs : s.revives = false) :
    d.set s = pure ⟨d, .nan⟩ := by
  have hlocal := (noTime_of_timeValue (timeValue_of_not_valid h)).localTime
  have htarget : s.target? d = pure none := by
    cases s with
    | time t => simp [Setter.revives] at hs
    | _ => simp only [Setter.target?, hlocal, Setter.localTarget?_none hs]
  rw [set, htarget]
  rfl

theorem setAll_of_not_valid (h : d.isValid = false) :
    ∀ {ss : List Setter}, (∀ s ∈ ss, s.revives = false) →
      d.setAll ss = ⟨ss.map fun _ => ⟨d, .nan⟩, []⟩
  | [], _ => rfl
  | s :: ss, hss => by
    have ih := setAll_of_not_valid h fun s hs => hss s (List.mem_cons_of_mem _ hs)
    have hstep : d.setAll (s :: ss) = do return ⟨d, .nan⟩ :: (← d.setAll ss) := by
      rw [setAll, set_of_not_valid h (hss s List.mem_cons_self)]
      rfl
    rw [hstep, ih]
    rfl

theorem set_of_not_finite (h : d.isValid = true) (hv : v ∈ s.arguments)
    (hfin : v.isFinite = false) : (d.set s).value = d.changed .nan := by
  cases s with
  | time t =>
    obtain rfl := List.mem_singleton.mp hv
    have hvalue : (d.set (.time v)).value = d.changed (TimeValue.clip v) := rfl
    rw [hvalue, TimeValue.clip_of_not_finite hfin]
  | _ =>
    have htarget := Setter.localTarget?_of_not_finite rfl hv hfin (d.zone.toLocal d.timeValue).toInt
    have hlocal : d.localTime? = some (d.zone.toLocal d.timeValue).toInt := by
      simp [localTime?, h]
    exact set_of_localTarget? rfl (hlocal ▸ htarget)

theorem ofComponents_of_not_finite {cs : List Number} (hv : v ∈ cs) (hfin : v.isFinite = false)
    (zone : Zone) :
    TimeValue.utc cs = .nan ∧ (ofComponents zone cs).value.timeValue = .nan := by
  by_cases h : TimeValue.acceptable cs = true
  · have hlen : cs.length ≤ 7 := by
      simp only [TimeValue.acceptable, Bool.and_eq_true, decide_eq_true_eq] at h
      exact h.2
    rw [timeValue_ofComponents h, TimeValue.utc, if_pos h,
      TimeValue.ofComponents_of_not_finite hlen hv hfin]
    exact ⟨rfl, rfl⟩
  · rw [TimeValue.utc, ofComponents, if_neg h, if_neg h]
    exact ⟨rfl, rfl⟩

theorem set_fullYear_of_localTime? {zone : Zone} (hzone : d.zone = zone)
    (h : d.localTime? = none ∨ d.localTime? = some 0) (y : Number) (m date : Option Number) :
    (d.set (.fullYear y m date)).value = d.changed (TimeValue.clip (zone.toUTC
      (TimeValue.join (TimeValue.dayNumber y (m.getD 0) (date.getD 1)) 0))) := by
  have hstart := Setter.localTarget?_fullYear y m date
  rw [← hzone]
  apply set_of_localTarget? rfl
  rcases h with h | h <;> rw [h]
  · exact hstart
  · exact hstart

/-- A date without a time shows none, and setters change and return nothing unless they give a
time or a year. A number that is not finite takes the time from a date that has one, and from
components. A year on a date without a time is set in the local start of 1970. -/
theorem noTime_absorbs :
    (∀ d : Date, d.isValid = false → ShowsNoTime d
      ∧ ∀ ss : List Setter, (∀ s ∈ ss, s.revives = false) →
        d.setAll ss = ⟨ss.map fun _ => ⟨d, .nan⟩, []⟩)
    ∧ (∀ (d : Date) (s : Setter), d.isValid = true → ∀ v ∈ s.arguments, v.isFinite = false →
      (d.set s).value = d.changed .nan)
    ∧ (∀ (zone : Zone) (cs : List Number), ∀ v ∈ cs, v.isFinite = false →
      TimeValue.utc cs = .nan ∧ (ofComponents zone cs).value.timeValue = .nan)
    ∧ ∀ (d : Date) (y : Number) (m date : Option Number), d.isValid = false →
      (d.set (.fullYear y m date)).value = d.changed (TimeValue.clip (d.zone.toUTC
        (TimeValue.join (TimeValue.dayNumber y (m.getD 0) (date.getD 1)) 0)))
      ∧ ∀ d' : Date, d'.zone = d.zone → d'.localTime? = some 0 →
        (d'.set (.fullYear y m date)).value = (d.set (.fullYear y m date)).value := by
  refine ⟨fun d h => ⟨showsNoTime h, fun ss hss => setAll_of_not_valid h hss⟩,
    fun d s h v hv hfin => set_of_not_finite h hv hfin,
    fun zone cs v hv hfin => ofComponents_of_not_finite hv hfin zone,
    fun d y m date h => ?_⟩
  have hlocal := (noTime_of_timeValue (timeValue_of_not_valid h)).localTime
  have hset := set_fullYear_of_localTime? rfl (Or.inl hlocal) y m date
  refine ⟨hset, fun d' hzone hstart => ?_⟩
  rw [hset, set_fullYear_of_localTime? hzone (Or.inr hstart) y m date, changed, changed, hzone]

/-- Setters with and without finite numbers. -/
def manySetters : List Setter :=
  [.milliseconds 5, .date .nan, .hours 1 none (some (.infinity true)) none, .month 3 (some 2)]

theorem noTime_absorbs_many_setters :
    (invalid Zone.newYearZone).toISOString = .error (.range "Invalid time value" isoSite)
    ∧ ((invalid Zone.newYearZone).setAll manySetters).value.map Change.returned
      = [.nan, .nan, .nan, .nan]
    ∧ ((ofTime .utc 0).set (.month 3 (some (.infinity true)))).value.returned = .nan
    ∧ TimeValue.utc [2023, .nan] = .nan
    ∧ ((invalid .utc).set (.fullYear 1970 none (some 2))).value.returned
      = ((ofTime .utc 0).set (.fullYear 1970 none (some 2))).value.returned := by
  obtain ⟨hinvalid, hvalid, hcomponents, hyear⟩ := noTime_absorbs
  obtain ⟨hshows, hrun⟩ := hinvalid (invalid Zone.newYearZone) rfl
  have hepoch : (ofTime .utc 0).isValid = true := by decide +kernel
  refine ⟨hshows.isoText, ?_, ?_, (hcomponents .utc _ .nan (by simp) rfl).1, ?_⟩
  · rw [hrun manySetters (by simp [manySetters, Setter.revives])]
    rfl
  · have hmem : .infinity true ∈ (Setter.month 3 (some (.infinity true))).arguments := by
      simp [Setter.arguments, componentFields, calendarFields, clockFields, Setter.given]
    rw [hvalid _ _ hepoch _ hmem rfl]
    rfl
  · rw [(hyear (invalid .utc) 1970 none (some 2) rfl).2 (ofTime .utc 0) rfl (by decide +kernel)]

end Date

end ScriptDate
