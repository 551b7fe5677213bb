import ScriptDate.Proofs.GivenFields

/-!
# Dates given their own fields

A setter that is given the values its fields have, and components that are those fields, ask for
the local time that the date already has. So they leave the date at its time value, unless the
local time is a repeated one and the date at its later copy, which then moves to the earlier
(`Date.Reached.set_own_fields`).
-/

namespace ScriptDate

open Calendar Number

namespace Zone

variable {zone : Zone} {L t u : Int}

/-- Before the span of read dates the offset never changes. -/
theorem offset_before_span (zone : Zone) (ht : t < yearStart firstYear)
    (hu : u < yearStart firstYear) : zone.offset t = zone.offset u := by
  cases zone with
  | fixed o => rfl
  | host rules =>
    have hout {t : Int} (h : t < yearStart firstYear) : timeInSpan t = false := by
      simp [timeInSpan, not_le.mpr h]
    simp [offset, offsetAt, (holds_finite _).toInt, hout ht, hout hu]

/-- An earlier copy of a local time is in range too. -/
theorem natAbs_of_hasLocal (hf : UnderADay zone.offset) (ht : t.natAbs ≤ 8640000000000000)
    (hlocal : HasLocal zone.offset L t) (hearlier : HasLocal zone.offset L u) (hle : u ≤ t) :
    u.natAbs ≤ 8640000000000000 := by
  by_contra hfar
  have hspan : -8640000000000000 + 2 * 86400000 < yearStart firstYear := by decide
  have hdt := hf t
  have hdu := hf u
  unfold HasLocal at hlocal hearlier
  have hsame := offset_before_span zone (t := t) (u := u) (by omega) (by omega)
  omega

end Zone

namespace Setter

open Date

variable {s : Setter} {L : Int}

theorem asked_own {old : Field → Int}
    (hown : ∀ field v, s.given field = some v → v.Holds (old field)) : s.asked old = old := by
  funext field
  rcases h : s.given field with _ | v
  · exact asked_of_none h
  · simp [asked, h, (hown field v h).whole_eq]

theorem moderate_own (hL : L.natAbs ≤ maxLocalTime) (hs : s.isLocal = true)
    (hown : ∀ field v, s.given field = some v → v.Holds ((CivilTime.ofTime L).field field)) :
    TimeValue.Moderate s.arguments := by
  refine TimeValue.moderate_of_holds fun v hv => ?_
  obtain ⟨field, hfield⟩ := exists_given hs hv
  exact ⟨_, hown field v hfield,
    (CivilTime.proper_ofTime hL).natAbs_field (ne_day_of_given hfield)⟩

theorem localTarget?_own (hL : L.natAbs ≤ maxLocalTime) (hs : s.isLocal = true)
    (hown : ∀ field v, s.given field = some v → v.Holds ((CivilTime.ofTime L).field field)) :
    s.localTarget? (some L) = some (.ofInt L) := by
  have hasked := asked_own hown
  obtain ⟨hyear, hmonth⟩ := asked_month hL (congrFun hasked .fullYear) (congrFun hasked .month)
  have hyears := yearOf_bounds hL
  have hday : dayOfDate (yearOf L) (monthOf L) ((CivilTime.ofTime L).field .date) = day L :=
    dayOfDate_dateOf L
  rw [localTarget?_eq hs (moderate_own hL hs hown) hL, hyear, if_neg (by omega), askedTime_eq,
    hyear, hmonth, hasked, hday, clockMs_ofTime hL,
    day_add_timeOfDay (CivilTime.small_of_local hL)]

end Setter

namespace Date

variable {zone : Zone} {d : Date} {t L A B T : Int}

/-- The components that name a time by its fields stand for that time, unless the year is one that
components take for another. -/
theorem ofComponents_own {x : Field → Number} (hL : L.natAbs ≤ maxLocalTime)
    (hx : ∀ field, (x field).Holds ((CivilTime.ofTime L).field field))
    (hyear : ¬ (0 ≤ yearOf L ∧ yearOf L ≤ 99)) :
    TimeValue.ofComponents (componentFields.map x) = .ofInt L := by
  have hfull := TimeValue.fullYear_of_holds (hx .fullYear) hyear
  have hfields : TimeValue.ofComponents (componentFields.map x) = TimeValue.ofFields x := by
    simp [TimeValue.ofComponents, TimeValue.ofFields, componentFields, calendarFields, clockFields,
      hfull]
  rw [hfields, ofFields_eq (CivilTime.proper_ofTime hL) fun field _ => hx field,
    CivilTime.time_ofTime hL]

/-- A setter that is given the values its fields have leaves a date at the earliest instant of its
local time, and so do its fields as components, where the zone's offset changes no more than once
within a day of that local time. -/
theorem Reached.set_own_fields (hzone : Zone.UnderADay zone.offset) (h : Reached zone d)
    (ht : d.timeValue = .finite t) (hL : Zone.HasLocal zone.offset L t)
    (honce : Zone.ChangesOnce zone.offset L A B T) :
    ∃ u : Int, IsLeast {u | Zone.HasLocal zone.offset L u} u
      ∧ (∀ v < t, Zone.HasLocal zone.offset L v → v = u)
      ∧ (∀ s : Setter, s.isLocal = true →
        (∀ field v, s.given field = some v → v = d.getLocal field) →
        (d.set s).value = d.changed (.finite u))
      ∧ ∀ y : Int, (d.getLocal .fullYear).Holds y → ¬ (0 ≤ y ∧ y ≤ 99) →
        (ofComponents zone (componentFields.map d.getLocal)).value
          = { d with timeValue := .finite u } := by
  have hd := h.atTime hzone ht
  have hrange := hd.inRange
  have hsmall := Zone.natAbs_add_offset hzone hrange
  rw [show t + zone.offset t = L from hL] at hd hsmall
  have hleast : IsLeast {u | Zone.HasLocal zone.offset L u} (Zone.taken zone.offset L) := by
    apply Zone.isLeast_taken honce hzone
    rw [Zone.isGap_iff honce hzone, not_not]
    exact ⟨t, hL⟩
  have htaken : TimeValue.clip (zone.toUTC (.ofInt L)) = .finite (Zone.taken zone.offset L) := by
    have hholds := holds_ofInt (CivilTime.small_of_local hsmall)
    apply TimeValue.clip_holds (Zone.toUTC_holds hzone hholds (hsmall.trans (by decide)))
    exact Zone.natAbs_of_hasLocal hzone hrange hL hleast.1 (hleast.2 hL)
  have hget := hd.getLocal.exact
  refine ⟨_, hleast, fun v hv hlocal => ?_, fun s hs hown => ?_, fun y hy hyear => ?_⟩
  · -- There are but two instants of one local time, and `t` is the later.
    have hle := hleast.2 hlocal
    have h₁ := (honce.hasLocal_iff hzone).mp hL
    have h₂ := (honce.hasLocal_iff hzone).mp hlocal
    have h₃ := (honce.hasLocal_iff hzone).mp hleast.1
    omega
  · have htarget : s.localTarget? d.localTime? = some (.ofInt L) := by
      rw [hd.localTime]
      refine Setter.localTarget?_own hsmall hs fun field v hv => ?_
      rw [hown field v hv]
      exact hget field
    rw [set_of_localTarget? hs htarget, h.zone_eq, htaken]
  · obtain rfl := hy.unique (hget .fullYear)
    rw [value_ofComponents rfl, ofComponents_own hsmall hget hyear, ofTime, htaken, h.zone_eq]

/-- The later of the two instants at half past two on 2 January 2023. -/
def repeatedHour : Date := ofTime Zone.newYearZone (.ofInt 1672626600000)

theorem set_own_fields_repeated_hour :
    (repeatedHour.set (.minutes (repeatedHour.getLocal .minutes) none none)).value
      = repeatedHour.changed (.finite 1672623000000)
    ∧ (ofComponents Zone.newYearZone (componentFields.map repeatedHour.getLocal)).value.timeValue
      = .finite 1672623000000 := by
  have hreached : Reached Zone.newYearZone repeatedHour := .time _
  have htime : repeatedHour.timeValue = .finite (1672626600000 : Int) :=
    timeValue_ofTime (by decide) _
  have hday : msPerDay = 86400000 := rfl
  have hafter : Zone.newYearZone.offset 1672626600000 = 0 :=
    (Zone.offset_newYear_2023 (by decide) (by decide)).trans (if_neg (by decide))
  have hbefore : Zone.newYearZone.offset 1672623000000 = 3600000 :=
    (Zone.offset_newYear_2023 (by decide) (by decide)).trans (if_pos (by decide))
  have hlocal : Zone.HasLocal Zone.newYearZone.offset 1672626600000 1672626600000 := by
    rw [Zone.HasLocal, hafter, add_zero]
  have hearlier : Zone.HasLocal Zone.newYearZone.offset 1672626600000 1672623000000 := by
    rw [Zone.HasLocal, hbefore]
    rfl
  have honce : Zone.ChangesOnce Zone.newYearZone.offset 1672626600000 3600000 0 1672624800000 := by
    constructor
    · intro t h1 h2 h3
      rw [Zone.offset_newYear_2023 (by omega) (by omega), if_pos h3]
    · intro t h1 h2 h3
      rw [Zone.offset_newYear_2023 (by omega) (by omega), if_neg (by omega)]
  obtain ⟨u, -, honly, hset, hcomponents⟩ :=
    hreached.set_own_fields Zone.underADay_newYear htime hlocal honce
  obtain rfl := honly _ (by decide) hearlier
  have hd := hreached.atTime Zone.underADay_newYear htime
  rw [hafter, add_zero] at hd
  have hyear : yearOf 1672626600000 = 2023 := yearOf_eq (by decide) (by decide)
  refine ⟨(hset _ rfl fun field v hv => ?_).trans rfl, ?_⟩
  · cases field with
    | minutes => exact (Option.some.inj hv).symm
    | _ => simp [Setter.given] at hv
  · rw [hcomponents 2023 (hyear ▸ hd.getLocal.exact .fullYear) (by decide)]
    rfl

end Date

end ScriptDate
