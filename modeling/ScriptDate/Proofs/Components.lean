import ScriptDate.Proofs.Gregorian
import ScriptDate.Proofs.Runs

/-!
# Times from components

A list of components stands for a time in exact integers, whatever carries from one field into
another (`exactTime`). The sums behind it are rounded only where the time is far out of range, so
read as UTC or in a fixed zone the components give just that time, or no time
(`ofComponents_exact`).
-/

namespace ScriptDate

open Calendar Number

namespace TimeValue

/-! ## Out of range -/

/-- A number this far out of range is still out of it after rounding. -/
theorem clip_round_of_far {q : Rat} (h : 8640000000000000 + 2 ^ 30 ≤ |q|) :
    clip (round q) = .nan := by
  have hnormal : (2 : Rat) ^ (-1022 : Int) ≤ |q| :=
    (zpow_le_one_of_nonpos₀ one_le_two (by decide)).trans (by linarith)
  have hnear := abs_nearest_sub_le_abs hnormal
  have htri := abs_sub_abs_le_abs_sub q (nearest q)
  rw [abs_sub_comm] at htri
  have hfar : 8640000000000000 < |nearest q| := by linarith
  rw [round_eq]
  split_ifs with h0
  · rw [h0, abs_zero] at hfar
    exact absurd hfar (by norm_num)
  · rfl
  · simp [clip, lt_maxTime_finite, hfar]

theorem clip_ofInt (n : Int) :
    clip (ofInt n) = if n.natAbs ≤ 8640000000000000 then .finite n else .nan := by
  split_ifs with h
  · exact clip_holds (holds_ofInt (by omega)) h
  · by_cases hsmall : n.natAbs < 2 ^ 53
    · have hmax := lt_maxTime (holds_ofInt hsmall)
      rw [decide_eq_true (by omega)] at hmax
      simp [clip, hmax]
    · apply clip_round_of_far
      rw [← Int.cast_abs, Int.abs_eq_natAbs]
      exact_mod_cast (by omega : 8640000000000000 + 2 ^ 30 ≤ (n.natAbs : Int))

theorem finite_sub_ofInt (q : Rat) {n : Int} (h : n.natAbs < 2 ^ 53) :
    finite q - ofInt n = Number.round (q - n) := by
  rw [ofInt_eq h]
  show Number.add (finite q) (Number.neg (finite n)) = _
  simp only [Number.neg]
  split_ifs with h0
  · show Number.round (q + 0) = _
    rw [h0, add_zero, sub_zero]
  · rw [sub_eq_add_neg]
    rfl

theorem toUTC_fixed {x : Number} (h : x.isFinite = true) (o : FixedOffset) :
    (Zone.fixed o).toUTC x = x - ofInt (o.seconds * msPerSecond) := by
  simp [Zone.toUTC, Zone.resolve, h, Zone.offsetAt]

/-- A rounded local time leads to the exact instant, or out of range with it. -/
theorem clip_toUTC_fixed_of_finite {n : Int} (hn : (ofInt n).isFinite = true) (o : FixedOffset) :
    clip ((Zone.fixed o).toUTC (ofInt n))
      = if (n - o.seconds * 1000).natAbs ≤ 8640000000000000
        then .finite (n - o.seconds * 1000 : Int) else .nan := by
  have hoffset := o.under_a_day
  have hms : o.seconds * msPerSecond = o.seconds * 1000 := rfl
  rw [toUTC_fixed hn, hms]
  by_cases hsmall : n.natAbs < 2 ^ 53
  · have hsum := (holds_ofInt hsmall).add_eq (holds_ofInt (n := o.seconds * 1000) (by omega)).neg
      fun h => ofInt_ne_negZero n h.1
    rw [← clip_ofInt, sub_eq_add_neg n, ← hsum]
    rfl
  · have hnear := abs_nearest_intCast_sub_le n
    have hlocal := abs_sub_abs_le_abs_sub (n : Rat) (nearest n)
    have hinstant := abs_sub_abs_le_abs_sub (nearest n) (o.seconds * 1000 : Int)
    have hlarge : (2 : Rat) ^ 53 ≤ |(n : Rat)| := by
      rw [← Int.cast_abs, Int.abs_eq_natAbs]
      exact_mod_cast not_lt.mp hsmall
    have hday : |((o.seconds * 1000 : Int) : Rat)| ≤ 86400000 := by
      rw [← Int.cast_abs, Int.abs_eq_natAbs]
      exact_mod_cast (by omega : ((o.seconds * 1000).natAbs : Int) ≤ 86400000)
    rw [abs_sub_comm] at hlocal
    rw [ofInt_eq_nearest_of_finite hn, finite_sub_ofInt _ (by omega), if_neg (by omega)]
    apply clip_round_of_far
    linarith

theorem clip_toUTC_fixed {n : Int} (hn : n.natAbs < 2 ^ 64) (o : FixedOffset) :
    clip ((Zone.fixed o).toUTC (ofInt n))
      = if (n - o.seconds * 1000).natAbs ≤ 8640000000000000
        then .finite (n - o.seconds * 1000 : Int) else .nan :=
  clip_toUTC_fixed_of_finite (isFinite_ofInt hn) o

/-! ## Carries -/

/-- A component toward zero, where the list has it. -/
def component (cs : List Number) (i : Nat) (missing : Int) : Int :=
  ((cs[i]?).map whole).getD missing

/-- The year that the components name, with 0 to 99 in the twentieth century. -/
def namedYear (cs : List Number) : Int :=
  if 0 ≤ component cs 0 0 ∧ component cs 0 0 ≤ 99 then 1900 + component cs 0 0
  else component cs 0 0

/-- The year that the month falls into. -/
def monthYear (cs : List Number) : Int := namedYear cs + component cs 1 0 / 12

/-- The day that the components stand for, from the first of the month on. -/
def dayPart (cs : List Number) : Int :=
  Gregorian.dayNumber (monthYear cs) (component cs 1 0 % 12).toNat 1 + component cs 2 1 - 1

def clockPart (cs : List Number) : Int :=
  3600000 * component cs 3 0 + 60000 * component cs 4 0 + 1000 * component cs 5 0
    + component cs 6 0

/-- The time that the components stand for. -/
def exactTime (cs : List Number) : Int := 86400000 * dayPart cs + clockPart cs

/-- Finite components up to a billion. -/
def Moderate (cs : List Number) : Prop := ∀ c ∈ cs, c.isFinite = true ∧ |c.value| ≤ 10 ^ 9

instance (cs : List Number) : Decidable (Moderate cs) :=
  inferInstanceAs (Decidable (∀ c ∈ cs, c.isFinite = true ∧ |c.value| ≤ 10 ^ 9))

variable {cs : List Number}

theorem natAbs_whole {x : Number} (h : |x.value| ≤ 10 ^ 9) : x.whole.natAbs ≤ 10 ^ 9 := by
  exact_mod_cast (natAbs_whole_le x).trans h

/-- A number that may be missing is a whole number once it is taken toward zero, and so is what
stands for it. -/
theorem trunc_getD {x : Option Number} (hx : ∀ v ∈ x, v.isFinite = true ∧ |v.value| ≤ 10 ^ 9)
    {missing : Number} {n : Int} (hn : missing.trunc.Holds n) (hsmall : n.natAbs ≤ 10 ^ 9) :
    (x.getD missing).trunc.Holds ((x.map whole).getD n)
      ∧ ((x.map whole).getD n).natAbs ≤ 10 ^ 9 := by
  rcases x with _ | v
  · exact ⟨hn, hsmall⟩
  · obtain ⟨hfin, hval⟩ := hx v rfl
    exact ⟨holds_trunc hfin, natAbs_whole hval⟩

theorem Moderate.component_spec (h : Moderate cs) (i : Nat) {missing : Number} {n : Int}
    (hn : missing.trunc.Holds n) (hsmall : n.natAbs ≤ 10 ^ 9) :
    (cs.getD i missing).trunc.Holds (component cs i n) ∧ (component cs i n).natAbs ≤ 10 ^ 9 := by
  rw [List.getD_eq_getElem?_getD]
  exact trunc_getD (fun v hv => h v (List.mem_of_getElem? hv)) hn hsmall

theorem fullYear_holds {x : Number} (h : x.isFinite = true) :
    (fullYear x).trunc.Holds (if 0 ≤ x.whole ∧ x.whole ≤ 99 then 1900 + x.whole else x.whole) := by
  have htrunc := holds_trunc h
  have hlo := htrunc.lt (holds_ofNat 0 (by decide))
  have hhi := (holds_ofNat 99 (by decide)).lt htrunc
  have hnan : x.isNaN = false := by cases x <;> simp_all [isFinite, isNaN]
  simp only [fullYear, hnan, hlo, hhi, Bool.false_eq_true, if_false, Bool.and_eq_true,
    Bool.not_eq_true', decide_eq_false_iff_not, not_lt]
  split_ifs with hyear hc hc
  · exact ((holds_ofNat 1900 (by decide)).add htrunc (by omega)).trunc
  · exact absurd hyear hc
  · exact absurd hc hyear
  · exact htrunc

theorem fullYear_of_holds {x : Number} {n : Int} (h : x.Holds n) (hn : ¬ (0 ≤ n ∧ n ≤ 99)) :
    fullYear x = x := by
  have hlo := h.trunc.lt (holds_ofNat 0 (by decide))
  have hhi := (holds_ofNat 99 (by decide)).lt h.trunc
  simp only [fullYear, h.isNaN, hlo, hhi, Bool.false_eq_true, if_false]
  refine if_neg fun hyear => hn ?_
  simp only [Bool.and_eq_true, Bool.not_eq_true', decide_eq_false_iff_not, not_lt] at hyear
  exact hyear

theorem namedYear_spec (hne : cs ≠ []) (h : Moderate cs) :
    (fullYear (cs.getD 0 .nan)).trunc.Holds (namedYear cs) ∧ (namedYear cs).natAbs ≤ 10 ^ 9 := by
  obtain ⟨year, rest, rfl⟩ := List.exists_cons_of_ne_nil hne
  obtain ⟨hfin, hval⟩ := h year List.mem_cons_self
  have hsmall := natAbs_whole hval
  have hyear : component (year :: rest) 0 0 = year.whole := rfl
  unfold namedYear
  rw [hyear]
  refine ⟨fullYear_holds hfin, ?_⟩
  split_ifs
  · omega
  · exact hsmall

theorem holds_clockPart (h : Moderate cs) :
    (clockTime (cs.getD 3 0) (cs.getD 4 0) (cs.getD 5 0) (cs.getD 6 0)).Holds (clockPart cs)
      ∧ (clockPart cs).natAbs < 2 ^ 53 := by
  have hzero : (0 : Number).trunc.Holds 0 := (holds_ofNat 0 (by decide)).trunc
  obtain ⟨hhour, bh⟩ := h.component_spec 3 hzero (by decide)
  obtain ⟨hminute, bi⟩ := h.component_spec 4 hzero (by decide)
  obtain ⟨hsecond, bs⟩ := h.component_spec 5 hzero (by decide)
  obtain ⟨hms, bn⟩ := h.component_spec 6 hzero (by decide)
  have hclock := clockTime_holds hhour hminute hsecond hms bh bi bs bn
  unfold msPerHour msPerMinute msPerSecond at hclock
  unfold clockPart
  refine ⟨?_, by omega⟩
  convert hclock using 1
  ring

theorem dayPart_eq (cs : List Number) : dayPart cs
    = dayOfDate (monthYear cs) (component cs 1 0 % 12).toNat (component cs 2 1) := by
  rw [dayPart, ← Gregorian.dayOfDate_eq (by omega)]
  unfold dayOfDate
  ring

theorem dayNumber_dayPart (hne : cs ≠ []) (h : Moderate cs) :
    dayNumber (fullYear (cs.getD 0 .nan)) (cs.getD 1 0) (cs.getD 2 1)
        = (if 400000 < (monthYear cs).natAbs then .nan else .ofInt (dayPart cs))
      ∧ ((monthYear cs).natAbs ≤ 400000 → (dayPart cs).natAbs < 2 ^ 36) := by
  have hzero : (0 : Number).trunc.Holds 0 := (holds_ofNat 0 (by decide)).trunc
  have hone : (1 : Number).trunc.Holds 1 := (holds_ofNat 1 (by decide)).trunc
  obtain ⟨hyear, by'⟩ := namedYear_spec hne h
  obtain ⟨hmonth, bm⟩ := h.component_spec 1 hzero (by decide)
  obtain ⟨hdate, bd⟩ := h.component_spec 2 hone (by decide)
  rw [dayPart_eq]
  exact ⟨dayNumber_eq hyear hmonth hdate (by omega) (by omega) (by omega),
    fun hfar => natAbs_dayOfDate hfar (by omega) bd⟩

/-- The sums of the components are the time they stand for, rounded once. -/
theorem ofComponents_eq (hne : cs ≠ []) (h : Moderate cs) :
    ofComponents cs
      = if 400000 < (monthYear cs).natAbs then .nan else .ofInt (exactTime cs) := by
  obtain ⟨hclock, bclock⟩ := holds_clockPart h
  obtain ⟨hday, bday⟩ := dayNumber_dayPart hne h
  simp only [ofComponents, hday]
  split_ifs with hfar
  · simp [join, isFinite]
  · rw [join_eq (bday (not_lt.mp hfar)) hclock bclock, exactTime, mul_comm]
    rfl

theorem natAbs_exactTime (hne : cs ≠ []) (h : Moderate cs)
    (hyear : (monthYear cs).natAbs ≤ 400000) : (exactTime cs).natAbs < 2 ^ 64 := by
  have hclock := (holds_clockPart h).2
  have hday := (dayNumber_dayPart hne h).2 hyear
  unfold exactTime
  omega

/-! ## Whole components -/

variable {ns : List Int}

theorem moderate_of_holds (h : ∀ c ∈ cs, ∃ n : Int, c.Holds n ∧ n.natAbs ≤ 10 ^ 9) :
    Moderate cs := by
  intro c hc
  obtain ⟨n, hn, hsmall⟩ := h c hc
  refine ⟨hn.1, ?_⟩
  rw [hn.2, ← Int.cast_abs, Int.abs_eq_natAbs]
  exact_mod_cast hsmall

theorem moderate_ofInt (h : ∀ n ∈ ns, n.natAbs ≤ 10 ^ 9) : Moderate (ns.map .ofInt) := by
  refine moderate_of_holds fun c hc => ?_
  obtain ⟨n, hn, rfl⟩ := List.mem_map.mp hc
  have hsmall := h n hn
  exact ⟨n, holds_ofInt (by omega), hsmall⟩

theorem component_ofInt (h : ∀ n ∈ ns, n.natAbs ≤ 10 ^ 9) (i : Nat) (missing : Int) :
    component (ns.map .ofInt) i missing = ns.getD i missing := by
  rcases hi : ns[i]? with _ | n
  · simp [component, hi]
  · have hn := h n (List.mem_of_getElem? hi)
    simp [component, hi, whole_ofInt (lt_of_le_of_lt hn (by decide))]

/-- Where the month is one of its year, the first of it needs no carry. -/
theorem exactTime_ofInt (h : ∀ n ∈ ns, n.natAbs ≤ 10 ^ 9) (hyear : 100 ≤ ns.getD 0 0)
    (hmonth : 0 ≤ ns.getD 1 0 ∧ ns.getD 1 0 ≤ 11) :
    monthYear (ns.map .ofInt) = ns.getD 0 0
      ∧ exactTime (ns.map .ofInt)
        = 86400000 * Gregorian.dayNumber (ns.getD 0 0) (ns.getD 1 0).toNat (ns.getD 2 1)
          + (3600000 * ns.getD 3 0 + 60000 * ns.getD 4 0 + 1000 * ns.getD 5 0 + ns.getD 6 0) := by
  have hget := component_ofInt h
  have hnamed : monthYear (ns.map .ofInt) = ns.getD 0 0 := by
    rw [monthYear, namedYear, hget, hget, if_neg (by omega)]
    omega
  refine ⟨hnamed, ?_⟩
  have hcarry : ns.getD 1 0 % 12 = ns.getD 1 0 := Int.emod_eq_of_lt hmonth.1 (by omega)
  simp only [exactTime, dayPart, clockPart, hnamed, hget, hcarry, Gregorian.dayNumber]
  ring

end TimeValue

open TimeValue

theorem Date.value_ofComponents {cs : List Number} (h : acceptable cs = true) (zone : Zone) :
    (Date.ofComponents zone cs).value
      = Date.ofTime zone (zone.toUTC (TimeValue.ofComponents cs)) := by
  simp [Date.ofComponents, h]

theorem Date.timeValue_ofComponents {cs : List Number} (h : acceptable cs = true) (zone : Zone) :
    (Date.ofComponents zone cs).value.timeValue
      = clip (zone.toUTC (TimeValue.ofComponents cs)) := by
  rw [Date.value_ofComponents h]
  rfl

/-- Up to seven finite components of moderate size, read as UTC or in a fixed zone, give exactly
the time they stand for, or no time when that is out of range or its year is. -/
theorem ofComponents_exact {cs : List Number} (hne : 1 ≤ cs.length) (hlen : cs.length ≤ 7)
    (h : Moderate cs) :
    utc cs = (if (exactTime cs).natAbs ≤ 8640000000000000 ∧ (monthYear cs).natAbs ≤ 400000
        then .finite (exactTime cs) else .nan)
    ∧ ∀ o : FixedOffset, (Date.ofComponents (.fixed o) cs).value.timeValue
      = if (exactTime cs - o.seconds * 1000).natAbs ≤ 8640000000000000
          ∧ (monthYear cs).natAbs ≤ 400000
        then .finite (exactTime cs - o.seconds * 1000 : Int) else .nan := by
  have hcs : cs ≠ [] := List.ne_nil_of_length_pos hne
  have hacceptable : acceptable cs = true := by simp [acceptable, maxComponents, hcs, hlen]
  have htime := ofComponents_eq hcs h
  simp only [utc, hacceptable, if_true, Date.timeValue_ofComponents hacceptable, htime]
  by_cases hyear : 400000 < (monthYear cs).natAbs
  · have hnan (zone : Zone) : zone.toUTC .nan = .nan := rfl
    simp only [if_pos hyear, hnan, not_le.mpr hyear, and_false, if_false]
    exact ⟨rfl, fun _ => rfl⟩
  · have hsmall := natAbs_exactTime hcs h (not_lt.mp hyear)
    simp only [if_neg hyear, clip_ofInt, clip_toUTC_fixed hsmall, not_lt.mp hyear, and_true,
      implies_true, and_self]

/-- A day far out of range that its hours bring back. -/
def farDay : List Number := [.finite (141 / 2), 0, .ofInt 141666667, .ofInt (-1000000000)]

/-- Five hours past the last time value. -/
def pastLast : List Number := [.ofInt 275760, 8, 13, 5]

theorem ofComponents_exact_far_day : Moderate farDay ∧ Moderate pastLast
    ∧ utc farDay = .finite 8639999942400000 ∧ utc pastLast = .nan
    ∧ (Date.ofComponents (.fixed ⟨32400, by decide⟩) pastLast).value.timeValue
      = .finite 8639999985600000 := by
  have hfar : Moderate farDay := by unfold Moderate; decide +kernel
  have hpast : Moderate pastLast := by unfold Moderate; decide +kernel
  have hfarTime : exactTime farDay = 8639999942400000 := by
    rw [exactTime, dayPart_eq]
    decide +kernel
  have hpastTime : exactTime pastLast = 8640000018000000 := by
    rw [exactTime, dayPart_eq]
    decide +kernel
  refine ⟨hfar, hpast, ?_, ?_, ?_⟩
  · rw [(ofComponents_exact (by decide) (by decide) hfar).1, hfarTime, if_pos (by decide +kernel)]
    rfl
  · rw [(ofComponents_exact (by decide) (by decide) hpast).1, hpastTime, if_neg (by decide +kernel)]
  · rw [(ofComponents_exact (by decide) (by decide) hpast).2, hpastTime, if_pos (by decide +kernel)]
    rfl

end ScriptDate
