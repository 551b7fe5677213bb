import ScriptDate.Proofs.YearSearch

/-!
# How far the search for the year goes

Wherever it starts, the search goes one round of a loop for each year between its start and the
year that holds the time (`yearSearch_iff`). Every year begins within two days of where it would
if all years had the mean length (`abs_yearStart_sub_lt`), so the estimate is at most a year off
and the search ends after at most one round (`yearSearch_rounds`).
-/

namespace ScriptDate.Calendar

/-! ## Rounds of a loop -/

/-- From `y` the loop that goes on to `next y` while `again y` holds stops at `z`, after `n`
rounds. -/
inductive LoopRun (again : Int → Prop) (next : Int → Int) : Int → Nat → Int → Prop
  | stop {y : Int} (h : ¬ again y) : LoopRun again next y 0 y
  | round {y z : Int} {n : Nat} (h : again y) (rest : LoopRun again next (next y) n z) :
      LoopRun again next y (n + 1) z

theorem LoopRun.unique {again : Int → Prop} {next : Int → Int} {y z z' : Int} {n n' : Nat}
    (h : LoopRun again next y n z) (h' : LoopRun again next y n' z') : n' = n ∧ z' = z := by
  induction h generalizing n' with
  | stop hstop =>
    cases h' with
    | stop _ => exact ⟨rfl, rfl⟩
    | round hagain _ => exact absurd hagain hstop
  | round hagain _ ih =>
    cases h' with
    | stop hstop => exact absurd hagain hstop
    | round _ rest =>
      obtain ⟨rfl, rfl⟩ := ih rest
      exact ⟨rfl, rfl⟩

/-- While a year has not begun at `t`, back to the year before. -/
def DownRun (t : Int) : Int → Nat → Int → Prop :=
  LoopRun (fun y => t < yearStart y) (fun y => y - 1)

/-- While the year after has begun at `t`, on to it. -/
def UpRun (t : Int) : Int → Nat → Int → Prop :=
  LoopRun (fun y => yearStart (y + 1) ≤ t) (fun y => y + 1)

/-- The search for the year of `t` ends at `y`, after `n` rounds of its two loops together. -/
def YearSearch (t : Int) (n : Nat) (y : Int) : Prop :=
  ∃ (z : Int) (down up : Nat), DownRun t (yearEstimate t) down z ∧ UpRun t z up y ∧ n = down + up

/-- The recursion back from `y` runs the loop, a round for each year that has not begun. -/
theorem downRun_yearDown (t y : Int) : DownRun t y (y - yearOf t).toNat (yearDown t y) := by
  fun_induction yearDown t y with
  | case1 y h ih =>
    have hy := lt_yearStart_iff.mp h
    have hcount : (y - yearOf t).toNat = (y - 1 - yearOf t).toNat + 1 := by omega
    rw [hcount]
    exact .round h ih
  | case2 y h =>
    have hy := yearStart_le_iff.mp (not_lt.mp h)
    have hcount : (y - yearOf t).toNat = 0 := by omega
    rw [hcount]
    exact .stop h

/-- The recursion on from `y` runs the loop, a round for each year more that has begun. -/
theorem upRun_yearUp (t y : Int) : UpRun t y (yearOf t - y).toNat (yearUp t y) := by
  fun_induction yearUp t y with
  | case1 y h ih =>
    have hy := yearStart_le_iff.mp h
    have hcount : (yearOf t - y).toNat = (yearOf t - (y + 1)).toNat + 1 := by omega
    rw [hcount]
    exact .round h ih
  | case2 y h =>
    have hy := lt_yearStart_iff.mp (not_le.mp h)
    have hcount : (yearOf t - y).toNat = 0 := by omega
    rw [hcount]
    exact .stop h

theorem yearDown_eq (t y : Int) : yearDown t y = min y (yearOf t) := by
  fun_induction yearDown t y with
  | case1 y h ih =>
    have hy := lt_yearStart_iff.mp h
    omega
  | case2 y h => exact (min_eq_left (yearStart_le_iff.mp (not_lt.mp h))).symm

/-- The search ends, at the year that holds the time, after a round for each year that the
estimate is off. -/
theorem yearSearch_iff {t y : Int} {n : Nat} :
    YearSearch t n y ↔ n = (yearEstimate t - yearOf t).natAbs ∧ y = yearOf t := by
  have hdown := downRun_yearDown t (yearEstimate t)
  have hup := upRun_yearUp t (yearDown t (yearEstimate t))
  have hmin := yearDown_eq t (yearEstimate t)
  constructor
  · rintro ⟨z, down, up, hdown', hup', rfl⟩
    obtain ⟨rfl, rfl⟩ := hdown.unique hdown'
    obtain ⟨rfl, rfl⟩ := hup.unique hup'
    exact ⟨by omega, rfl⟩
  · rintro ⟨rfl, rfl⟩
    exact ⟨_, _, _, hdown, hup, by omega⟩

/-! ## The drift of the years -/

/-- Leap years come early or late by less than two days against the mean. -/
theorem abs_yearStart_sub_lt (y : Int) :
    |yearStart y - msPerMeanYear * (y - 1970)| < 2 * msPerDay := by
  rw [abs_lt]
  unfold yearStart firstDay msPerMeanYear msPerDay
  omega

/-- Below `2 ^ 53` the rounded quotient gives the mean year that holds the time. -/
theorem yearEstimate_eq {t : Int} (h : t.natAbs < 2 ^ 53) :
    yearEstimate t = t / msPerMeanYear + 1970 := by
  rw [yearEstimate, Number.quotient_eq h (by decide) (by decide)]

/-- The drift is shorter than a mean year, so the year before the estimate has begun, and the one
after the next has not. -/
theorem natAbs_yearEstimate_sub_le {t : Int} (h : t.natAbs < 2 ^ 53) :
    (yearEstimate t - yearOf t).natAbs ≤ 1 := by
  have hestimate := yearEstimate_eq h
  have hbefore := abs_lt.mp (abs_yearStart_sub_lt (yearEstimate t - 1))
  have hafter := abs_lt.mp (abs_yearStart_sub_lt (yearEstimate t + 2))
  have hbegun : yearStart (yearEstimate t - 1) ≤ t := by
    unfold msPerMeanYear msPerDay at *
    omega
  have hover : t < yearStart (yearEstimate t + 2) := by
    unfold msPerMeanYear msPerDay at *
    omega
  rw [yearStart_le_iff] at hbegun
  rw [lt_yearStart_iff] at hover
  omega

/-- At a local time the search ends after one round or none, at the one year that has begun and
is not over. -/
theorem yearSearch_rounds {t : Int} (h : t.natAbs ≤ maxLocalTime) :
    (∃ n ≤ 1, ∀ m y, YearSearch t m y ↔ m = n ∧ y = yearOf t)
      ∧ ∀ y, yearStart y ≤ t ∧ t < yearStart (y + 1) ↔ y = yearOf t := by
  refine ⟨⟨_, natAbs_yearEstimate_sub_le (h.trans_lt (by decide)), fun m y => yearSearch_iff⟩,
    fun y => ⟨fun ⟨hlo, hhi⟩ => (yearOf_eq hlo hhi).symm, ?_⟩⟩
  rintro rfl
  exact yearOf_spec t

/-- The last year that local times reach starts a round up from its estimate, and the first one
ends a round down. -/
theorem yearSearch_rounds_both_ways :
    (∀ n y, YearSearch 8639977881600000 n y ↔ n = 1 ∧ y = 275760)
      ∧ ∀ n y, YearSearch (-8639977881600001) n y ↔ n = 1 ∧ y = -271821 := by
  obtain ⟨⟨n, -, hlast⟩, hyear⟩ := yearSearch_rounds (t := 8639977881600000) (by decide)
  obtain ⟨⟨m, -, hfirst⟩, hyear'⟩ := yearSearch_rounds (t := -8639977881600001) (by decide)
  rw [← (hyear 275760).mp (by decide)] at hlast
  rw [← (hyear' (-271821)).mp (by decide)] at hfirst
  have hearly : yearEstimate 8639977881600000 = 275759 := yearEstimate_eq (by decide)
  have hlate : yearEstimate (-8639977881600001) = -271820 := yearEstimate_eq (by decide)
  have hup : YearSearch 8639977881600000 1 275760 := by
    refine ⟨275759, 0, 1, ?_, .round (by decide) (.stop (by decide)), rfl⟩
    rw [hearly]
    exact .stop (by decide)
  have hdown : YearSearch (-8639977881600001) 1 (-271821) := by
    refine ⟨-271821, 1, 0, ?_, .stop (by decide), rfl⟩
    rw [hlate]
    exact .round (by decide) (.stop (by decide))
  obtain rfl := ((hlast 1 275760).mp hup).1
  obtain rfl := ((hfirst 1 (-271821)).mp hdown).1
  exact ⟨hlast, hfirst⟩

end ScriptDate.Calendar
