import ScriptDate.Proofs.LocalInstant
import ScriptDate.Proofs.Turns
import ScriptDate.Zone.RuleText

/-!
# Local times and instants of a zone

The rounded sums and the four samples of the offset make the choice of `LocalInstant`
(`holds_resolve`), for any offset that depends on the instant. So a zone takes the earliest
instant of a local time, or moves one that no instant has on by the width of the gap, where its
offset changes at most once within a day of it (`toUTC_isLeast_or_past_gap`). With changes more
than a day apart, local times come back except from between two changes that are both within a
day (`toLocal_toUTC_iff`); more than two days apart is always enough
(`toLocal_toUTC_of_spaced`).
-/

namespace ScriptDate.Zone

open Calendar Number

/-- The offset in effect at a whole number of milliseconds. -/
def offset (zone : Zone) (t : Int) : Int := zone.offsetAt (.finite t)

variable {zone : Zone} {f : Int → Int} {l : Number} {L t : Int}

theorem offsetAt_eq (h : l.Holds L) (zone : Zone) : zone.offsetAt l = zone.offset L := by
  cases zone with
  | fixed o => rfl
  | host rules =>
    have hL := holds_finite L
    simp only [offset, offsetAt, h.1, h.toInt, hL.1, hL.toInt]

theorem underADay_fixed (o : FixedOffset) : UnderADay (Zone.fixed o).offset := by
  intro t
  have := o.under_a_day
  show (o.seconds * 1000).natAbs < 86400000
  omega

theorem natAbs_add_offset (hf : UnderADay f) (ht : t.natAbs ≤ 8640000000000000) :
    (t + f t).natAbs ≤ maxLocalTime := by
  have := hf t
  unfold maxLocalTime
  omega

/-- The choice made in numbers is the one made in the integers. -/
theorem holds_resolve {offsetAt : Number → Int}
    (hoffset : ∀ {x t}, x.Holds t → offsetAt x = f t) (hf : UnderADay f) (hl : l.Holds L)
    (hL : L.natAbs ≤ 9 * 10 ^ 15) :
    (resolve offsetAt l).instant.Holds (taken f L)
      ∧ ((resolve offsetAt l).inGap = true ↔ isGap f L) := by
  have hday : (Number.ofInt msPerDay).Holds msPerDay := holds_ofInt (by decide)
  have hms : msPerDay = 86400000 := rfl
  have hbefore : offsetAt (l - Number.ofInt msPerDay) = f (L - msPerDay) :=
    hoffset (hl.sub hday (by omega))
  have hafter : offsetAt (l + Number.ofInt msPerDay) = f (L + msPerDay) :=
    hoffset (hl.add hday (by omega))
  -- Either sample of the offset leads to an instant whose sum with its own offset is exact.
  have hsample (s : Int) : (l - Number.ofInt (f s)).Holds (L - f s)
      ∧ (l - Number.ofInt (f s) + Number.ofInt (offsetAt (l - Number.ofInt (f s)))).equals l
        = decide (f (L - f s) = f s) := by
    have hs := hf s
    have hs' := hf (L - f s)
    have hinstant : (l - Number.ofInt (f s)).Holds (L - f s) :=
      hl.sub (holds_ofInt (by omega)) (by omega)
    have hsum := hinstant.add (holds_ofInt (n := f (L - f s)) (by omega)) (by omega)
    rw [hoffset hinstant, hsum.equals hl]
    exact ⟨hinstant, decide_eq_decide.mpr (by omega)⟩
  obtain ⟨hearly, hearly'⟩ := hsample (L - msPerDay)
  obtain ⟨hlate, hlate'⟩ := hsample (L + msPerDay)
  simp only [resolve, taken, isGap, hl.1, if_true, hbefore, hafter, hearly', hlate',
    decide_eq_true_eq]
  by_cases heq : f (L - msPerDay) = f (L + msPerDay)
  · rw [if_pos heq, if_pos (Or.inl heq)]
    exact ⟨hearly, iff_of_false Bool.false_ne_true fun h => h.1 heq⟩
  · by_cases h1 : f (L - f (L - msPerDay)) = f (L - msPerDay)
    · rw [if_neg heq, if_pos h1, if_pos (Or.inr h1)]
      exact ⟨hearly, iff_of_false Bool.false_ne_true fun h => h.2.1 h1⟩
    · rw [if_neg heq, if_neg h1, if_neg (not_or.mpr ⟨heq, h1⟩)]
      by_cases h2 : f (L - f (L + msPerDay)) = f (L + msPerDay)
      · rw [if_pos h2, if_pos h2]
        exact ⟨hlate, iff_of_false Bool.false_ne_true fun h => h.2.2 h2⟩
      · rw [if_neg h2, if_neg h2]
        exact ⟨hearly, iff_of_true rfl ⟨heq, h1, h2⟩⟩

theorem toUTC_holds (hf : UnderADay zone.offset) (hl : l.Holds L) (hL : L.natAbs ≤ 9 * 10 ^ 15) :
    (zone.toUTC l).Holds (taken zone.offset L) :=
  (holds_resolve (fun h => offsetAt_eq h zone) hf hl hL).1

theorem toLocal_holds_of_lt (ho : (zone.offset t).natAbs < 86400000) (h : l.Holds t)
    (ht : t.natAbs ≤ 9 * 10 ^ 15 + 86400000) : (zone.toLocal l).Holds (t + zone.offset t) := by
  rw [toLocal, offsetAt_eq h]
  exact h.add (holds_ofInt (by omega)) (by omega)

theorem toLocal_holds (hf : UnderADay zone.offset) (h : l.Holds t)
    (ht : t.natAbs ≤ 9 * 10 ^ 15 + 86400000) : (zone.toLocal l).Holds (t + zone.offset t) :=
  toLocal_holds_of_lt (hf t) h ht

theorem natAbs_sub_taken (hf : UnderADay f) (L : Int) : (L - taken f L).natAbs < 86400000 := by
  have h1 := hf (L - msPerDay)
  have h2 := hf (L + msPerDay)
  rcases taken_eq_sub f L with h | h
  · omega
  · omega

theorem natAbs_taken (hf : UnderADay f) (L : Int) : (taken f L).natAbs ≤ L.natAbs + 86400000 := by
  have := natAbs_sub_taken hf L
  omega

theorem timeInSpan_eq (t : Int) : timeInSpan t = inSpan (yearOf t) := by
  simp only [timeInSpan, inSpan, yearStart_le_iff, lt_yearStart_iff, Int.lt_add_one_iff]

/-! ## A short daylight time -/

/-- Daylight time through the first 26 hours of every year. -/
def newYearDaylight : Daylight := ⟨3600, ⟨.counted 0, 0⟩, ⟨.counted 1, 10800⟩⟩

def newYearZone : Zone := .host ⟨0, some newYearDaylight⟩

theorem newYear_starts (y : Int) : newYearDaylight.starts.instant 0 y = 86400 * firstDay y := by
  simp [newYearDaylight, Changeover.instant, RuleDay.inYear, secondsPerDay]

theorem newYear_ends (y : Int) :
    newYearDaylight.ends.instant newYearDaylight.offset y = 86400 * firstDay y + 93600 := by
  simp [newYearDaylight, Changeover.instant, RuleDay.inYear, secondsPerDay]
  omega

theorem newYear_inOrder : newYearDaylight.InOrder 0 := by
  intro y
  have hlength := yearLength_ge y
  rw [newYear_starts, newYear_starts, newYear_ends, firstDay_succ]
  omega

theorem offset_newYear (t : Int) : newYearZone.offset t
    = if inSpan (yearOf t) ∧ t < yearStart (yearOf t) + 93600000 then 3600000 else 0 := by
  obtain ⟨h1, h2⟩ := yearOf_spec t
  have ht := holds_finite t
  have hyear : yearOfSecond (t / msPerSecond) = yearOf t := by
    apply yearOf_eq <;> unfold yearStart msPerSecond msPerDay at * <;> omega
  have hrules : Rules.offsetAt ⟨0, some newYearDaylight⟩ (t / msPerSecond)
      = if t < yearStart (yearOf t) + 93600000 then 3600 else 0 := by
    rw [Rules.offsetAt_inOrder (y := yearOf t) newYear_inOrder, newYear_ends]
    · refine if_congr ?_ rfl rfl
      unfold yearStart msPerSecond msPerDay
      omega
    · omega
    · omega
    · rw [newYear_starts]
      unfold yearStart msPerSecond msPerDay at *
      omega
    · rw [newYear_starts]
      unfold yearStart msPerSecond msPerDay at *
      omega
  by_cases hspan : inSpan (yearOf t)
  · simp [offset, newYearZone, offsetAt, ht.1, ht.toInt, timeInSpan_eq, hspan, hrules]
    rfl
  · simp [offset, newYearZone, offsetAt, ht.1, ht.toInt, timeInSpan_eq, hspan]

theorem offset_newYear_of {y : Int} (hspan : inSpan y) (hlo : yearStart y ≤ t)
    (hhi : t < yearStart (y + 1)) :
    newYearZone.offset t = if t < yearStart y + 93600000 then 3600000 else 0 := by
  simp [offset_newYear, yearOf_eq hlo hhi, hspan]

theorem offset_newYear_2022 (h1 : 1641088800000 ≤ t) (h2 : t < 1672531200000) :
    newYearZone.offset t = 0 := by
  have hstart : yearStart 2022 = 1640995200000 := by decide
  have hend : yearStart (2022 + 1) = 1672531200000 := by decide
  rw [offset_newYear_of (y := 2022) (by decide) (by omega) (by omega), if_neg (by omega)]

theorem offset_newYear_2023 (h1 : 1672531200000 ≤ t) (h2 : t < 1704067200000) :
    newYearZone.offset t = if t < 1672624800000 then 3600000 else 0 := by
  have hstart : yearStart 2023 = 1672531200000 := by decide
  have hend : yearStart (2023 + 1) = 1704067200000 := by decide
  rw [offset_newYear_of (y := 2023) (by decide) (by omega) (by omega), hstart]
  rfl

theorem underADay_newYear : UnderADay newYearZone.offset := by
  intro t
  rw [offset_newYear]
  split_ifs <;> decide

theorem changesAt_newYear (h : ChangesAt newYearZone.offset t) :
    t = yearStart (yearOf t) ∨ t = yearStart (yearOf t) + 93600000 := by
  by_contra hno
  obtain ⟨h1, h2⟩ := yearOf_spec t
  have hyear : yearOf (t - 1) = yearOf t := yearOf_eq (by omega) (by omega)
  apply h
  rw [offset_newYear, offset_newYear, hyear]
  exact if_congr (and_congr_right fun _ => by omega) rfl rfl

theorem spaced_newYear : Spaced newYearZone.offset msPerDay := by
  intro t u ht hu htu
  have ht := changesAt_newYear ht
  have hu := changesAt_newYear hu
  have hday : msPerDay = 86400000 := rfl
  rcases lt_trichotomy (yearOf t) (yearOf u) with h | h | h
  · have := yearStart_add_le h
    omega
  · rw [h] at ht
    omega
  · have := yearStart_add_le h
    omega

/-! ## From local times to instants -/

/-- The instant of a local time is its earliest, and a local time that no instant has is moved on
by the width of the gap, past the change. -/
theorem toUTC_isLeast_or_past_gap {A B T : Int} (hf : UnderADay zone.offset)
    (h : ChangesOnce zone.offset L A B T) (hl : l.Holds L) (hL : L.natAbs ≤ 9 * 10 ^ 15) :
    ((∃ t, HasLocal zone.offset L t) →
      ∃ t, IsLeast {t | HasLocal zone.offset L t} t ∧ (zone.toUTC l).Holds t)
    ∧ ((resolve zone.offsetAt l).inGap = true ↔ ¬ ∃ t, HasLocal zone.offset L t)
    ∧ ((¬ ∃ t, HasLocal zone.offset L t) →
      A < B ∧ (zone.toUTC l).Holds (L - A) ∧ T ≤ L - A
        ∧ (zone.toLocal (zone.toUTC l)).Holds (L + (B - A))) := by
  obtain ⟨hinstant, hgap⟩ := holds_resolve (fun h => offsetAt_eq h zone) hf hl hL
  rw [isGap_iff h hf] at hgap
  refine ⟨fun hsome => ?_, hgap, fun hnone => ?_⟩
  · exact ⟨_, isLeast_taken h hf fun hin => (taken_of_gap h hf hin).1 hsome, hinstant⟩
  · obtain ⟨-, hlt, htaken, hT, hB⟩ := taken_of_gap h hf ((isGap_iff h hf).mpr hnone)
    have hbound := natAbs_taken hf L
    rw [htaken] at hinstant hbound
    have hlocal := toLocal_holds hf hinstant (by omega)
    rw [hB] at hlocal
    refine ⟨hlt, hinstant, hT, ?_⟩
    rwa [show L + (B - A) = L - A + B by omega]

/-- Half past midnight on 1 January 2023, which the clock skips. -/
theorem toUTC_skipped : UnderADay newYearZone.offset
    ∧ ChangesOnce newYearZone.offset 1672533000000 0 3600000 1672531200000
    ∧ (newYearZone.toUTC (.ofInt 1672533000000)).Holds 1672533000000
    ∧ (newYearZone.toLocal (newYearZone.toUTC (.ofInt 1672533000000))).Holds 1672536600000 := by
  have hday : msPerDay = 86400000 := rfl
  have honce : ChangesOnce newYearZone.offset 1672533000000 0 3600000 1672531200000 := by
    constructor
    · intro t h1 h2 h3
      exact offset_newYear_2022 (by omega) h3
    · intro t h1 h2 h3
      rw [offset_newYear_2023 h3 (by omega), if_pos (by omega)]
  have hnone : ¬ ∃ t, HasLocal newYearZone.offset 1672533000000 t := by
    rintro ⟨t, ht⟩
    have := (honce.hasLocal_iff underADay_newYear).mp ht
    omega
  obtain ⟨-, -, hgap⟩ := toUTC_isLeast_or_past_gap underADay_newYear honce
    (holds_ofInt (n := 1672533000000) (by decide)) (by decide)
  obtain ⟨-, hinstant, -, hlocal⟩ := hgap hnone
  exact ⟨underADay_newYear, honce, hinstant, hlocal⟩

/-! ## And back -/

theorem toLocal_toUTC_holds (hf : UnderADay zone.offset) (hl : l.Holds L)
    (hL : L.natAbs ≤ 9 * 10 ^ 15) :
    (zone.toLocal (zone.toUTC l)).Holds L ↔ HasLocal zone.offset L (taken zone.offset L) := by
  have hbound := natAbs_taken hf L
  have hlocal := toLocal_holds hf (toUTC_holds hf hl hL) (by omega)
  rw [HasLocal]
  constructor
  · exact fun h => hlocal.unique h
  · intro h
    rwa [h] at hlocal

/-- Local times come back where changes are more than two days apart. -/
theorem toLocal_toUTC_of_spaced (hf : UnderADay zone.offset)
    (hs : Spaced zone.offset (2 * msPerDay)) (hl : l.Holds L) (hL : L.natAbs ≤ 9 * 10 ^ 15)
    (hex : ∃ t, HasLocal zone.offset L t) : (zone.toLocal (zone.toUTC l)).Holds L :=
  (toLocal_toUTC_holds hf hl hL).mpr (hasLocal_taken_of_spaced hf hs hex)

/-- A local time comes back from its instant unless all instants that have it lie between two
changes within a day of it. -/
theorem toLocal_toUTC_iff (hf : UnderADay zone.offset) (hs : Spaced zone.offset msPerDay)
    (hl : l.Holds L) (hL : L.natAbs ≤ 9 * 10 ^ 15) :
    (zone.toLocal (zone.toUTC l)).Holds L ↔
      ¬ ∃ T₁ T₂, ChangesAt zone.offset T₁ ∧ ChangesAt zone.offset T₂ ∧ L - msPerDay < T₁
        ∧ T₂ ≤ L + msPerDay ∧ ∀ t, HasLocal zone.offset L t → T₁ ≤ t ∧ t < T₂ := by
  rw [toLocal_toUTC_holds hf hl hL]
  exact taken_hasLocal_iff hf hs

/-- Half past two on 2 January 2023, which comes twice. -/
theorem toLocal_toUTC_repeated : UnderADay newYearZone.offset ∧ Spaced newYearZone.offset msPerDay
    ∧ (newYearZone.toLocal (newYearZone.toUTC (.ofInt 1672626600000))).Holds 1672626600000 := by
  have hday : msPerDay = 86400000 := rfl
  have hlate (t : Int) (h1 : 1672624800000 ≤ t) (h2 : t < 1704067200000) :
      newYearZone.offset t = 0 := by
    rw [offset_newYear_2023 (by omega) h2, if_neg (by omega)]
  refine ⟨underADay_newYear, spaced_newYear, ?_⟩
  rw [toLocal_toUTC_iff underADay_newYear spaced_newYear
    (holds_ofInt (n := 1672626600000) (by decide)) (by decide)]
  rintro ⟨T₁, T₂, -, hchange, -, hT₂, hbetween⟩
  have hafter : HasLocal newYearZone.offset 1672626600000 1672626600000 := by
    rw [HasLocal, hlate _ (by decide) (by decide), add_zero]
  obtain ⟨-, hlt⟩ := hbetween _ hafter
  exact hchange ((hlate _ (by omega) (by omega)).trans (hlate _ (by omega) (by omega)).symm)

/-- The host's text for a zone whose offsets stay under a day and last for more than one, and noon
of 1 January 2023 there, whose instant is an hour before the one taken. -/
theorem toLocal_toUTC_new_year_noon :
    Zone.host (Rules.ofHost "AAA0BBB,0/0,1/3") = newYearZone
    ∧ UnderADay newYearZone.offset ∧ Spaced newYearZone.offset msPerDay
    ∧ HasLocal newYearZone.offset 1672574400000 1672570800000
    ∧ (newYearZone.toLocal (newYearZone.toUTC (.ofInt 1672574400000))).Holds 1672578000000
    ∧ ¬ (newYearZone.toLocal (newYearZone.toUTC (.ofInt 1672574400000))).Holds 1672574400000 := by
  have hnoon : newYearZone.offset 1672574400000 = 3600000 :=
    (offset_newYear_2023 (by decide) (by decide)).trans rfl
  have hinstant : newYearZone.offset 1672570800000 = 3600000 :=
    (offset_newYear_2023 (by decide) (by decide)).trans rfl
  have htaken : taken newYearZone.offset 1672574400000 = 1672574400000 - 0 := by
    apply taken_of_eq
    · exact offset_newYear_2022 (by decide) (by decide)
    · exact (offset_newYear_2023 (by decide) (by decide)).trans rfl
  have hutc := toUTC_holds underADay_newYear
    (holds_ofInt (n := 1672574400000) (by decide)) (by decide)
  rw [htaken, sub_zero] at hutc
  have hlocal := toLocal_holds underADay_newYear hutc (by decide)
  rw [hnoon] at hlocal
  refine ⟨by decide, underADay_newYear, spaced_newYear, ?_, hlocal, fun h => ?_⟩
  · rw [HasLocal, hinstant]
    rfl
  · exact absurd (hlocal.unique h) (by decide)

end ScriptDate.Zone
