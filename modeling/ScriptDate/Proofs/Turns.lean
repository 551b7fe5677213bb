import Mathlib.Data.Int.Init
import ScriptDate.Proofs.YearSearch
import ScriptDate.Zone.Basic

/-!
# Turns in order

A list of turns in order has its latest one just before the first that is still to come
(`latest_append`). So where the daylight time of every year ends in that year, the rules give its
offset from the start to the end of it, and the standard offset from there to the next start
(`Rules.offsetAt_inOrder`).
-/

namespace ScriptDate.Zone

open Calendar

variable {s : Int} {turn : Turn} {before after : List Turn}

/-- One step of the search for the latest turn. -/
def laterOf (s : Int) (found : Option Turn) (turn : Turn) : Option Turn :=
  if s < turn.instant then found
  else
    match found with
    | some f => if turn.instant < f.instant then found else some turn
    | none => some turn

theorem latest_eq_foldl (s : Int) (turns : List Turn) :
    latest s turns = turns.foldl (laterOf s) none := rfl

theorem laterOf_eq_some {found : Option Turn} {u : Turn} (h : laterOf s found turn = some u) :
    u = turn ∨ found = some u := by
  unfold laterOf at h
  split_ifs at h
  · exact Or.inr h
  · split at h
    · split_ifs at h
      · exact Or.inr h
      · exact Or.inl (Option.some.inj h).symm
    · exact Or.inl (Option.some.inj h).symm

theorem mem_of_foldl {turns : List Turn} {found : Option Turn} {u : Turn}
    (h : turns.foldl (laterOf s) found = some u) : u ∈ turns ∨ found = some u := by
  induction turns generalizing found with
  | nil => exact Or.inr h
  | cons turn turns ih =>
    rcases ih h with hu | hu
    · exact Or.inl (List.mem_cons_of_mem _ hu)
    · rcases laterOf_eq_some hu with rfl | hu
      · exact Or.inl List.mem_cons_self
      · exact Or.inr hu

theorem foldl_to_come {found : Option Turn} (h : ∀ u ∈ after, s < u.instant) :
    after.foldl (laterOf s) found = found := by
  induction after with
  | nil => rfl
  | cons u after ih =>
    have hu : laterOf s found u = found := if_pos (h u List.mem_cons_self)
    rw [List.foldl_cons, hu]
    exact ih fun v hv => h v (List.mem_cons_of_mem _ hv)

theorem laterOf_of_le {found : Option Turn} (hs : turn.instant ≤ s)
    (hfound : ∀ f, found = some f → f.instant ≤ turn.instant) :
    laterOf s found turn = some turn := by
  unfold laterOf
  rw [if_neg (not_lt.mpr hs)]
  cases found with
  | none => rfl
  | some f => exact if_neg (not_lt.mpr (hfound f rfl))

theorem latest_append (hbefore : ∀ u ∈ before, u.instant ≤ turn.instant) (hs : turn.instant ≤ s)
    (hafter : ∀ u ∈ after, s < u.instant) : latest s (before ++ turn :: after) = some turn := by
  rw [latest_eq_foldl, List.foldl_append, List.foldl_cons, foldl_to_come hafter]
  refine laterOf_of_le hs fun f hfound => ?_
  rcases mem_of_foldl hfound with hf | hf
  · exact hbefore f hf
  · exact absurd hf (by simp)

/-! ## Years of turns -/

namespace Daylight

variable {d : Daylight} {standard y : Int}

/-- Daylight time ends in the year in which it starts, and before the start of the next. -/
def InOrder (d : Daylight) (standard : Int) : Prop :=
  ∀ y, d.starts.instant standard y ≤ d.ends.instant d.offset y
    ∧ d.ends.instant d.offset y ≤ d.starts.instant standard (y + 1)

theorem InOrder.starts_le (h : d.InOrder standard) {y z : Int} (hyz : y ≤ z) :
    d.starts.instant standard y ≤ d.starts.instant standard z := by
  induction z, hyz using Int.leInduction with
  | base => exact le_rfl
  | succ z _ ih => exact ih.trans ((h z).1.trans (h z).2)

theorem InOrder.ends_le_starts (h : d.InOrder standard) {y z : Int} (hyz : y < z) :
    d.ends.instant d.offset y ≤ d.starts.instant standard z :=
  (h y).2.trans (h.starts_le hyz)

theorem InOrder.mem_turns_le (h : d.InOrder standard) {z : Int} (hzy : z < y) {u : Turn}
    (hu : u ∈ d.turns standard z) : u.instant ≤ d.starts.instant standard y := by
  simp only [turns, List.mem_cons, List.not_mem_nil, or_false] at hu
  rcases hu with rfl | rfl
  · exact h.starts_le hzy.le
  · exact h.ends_le_starts hzy

theorem InOrder.le_mem_turns (h : d.InOrder standard) {z : Int} (hyz : y < z) {u : Turn}
    (hu : u ∈ d.turns standard z) : d.starts.instant standard (y + 1) ≤ u.instant := by
  simp only [turns, List.mem_cons, List.not_mem_nil, or_false] at hu
  rcases hu with rfl | rfl
  · exact h.starts_le hyz
  · exact (h.starts_le hyz).trans (h z).1

/-- Among the turns of some years in order, the latest is that of the one year around it. -/
theorem InOrder.latest_flatMap (h : d.InOrder standard) {years : List Int}
    (hsorted : years.Pairwise (· < ·)) (hy : y ∈ years)
    (hlo : d.starts.instant standard y ≤ s) (hhi : s < d.starts.instant standard (y + 1)) :
    (latest s (years.flatMap (d.turns standard))).map Turn.offset
      = some (if s < d.ends.instant d.offset y then d.offset else standard) := by
  obtain ⟨earlier, later, rfl⟩ := List.append_of_mem hy
  obtain ⟨-, hlater, hearlier⟩ := List.pairwise_append.mp hsorted
  have hbefore : ∀ u ∈ earlier.flatMap (d.turns standard),
      u.instant ≤ d.starts.instant standard y := by
    intro u hu
    obtain ⟨z, hz, hu⟩ := List.mem_flatMap.mp hu
    exact h.mem_turns_le (hearlier z hz y List.mem_cons_self) hu
  have hafter : ∀ u ∈ later.flatMap (d.turns standard), s < u.instant := by
    intro u hu
    obtain ⟨z, hz, hu⟩ := List.mem_flatMap.mp hu
    exact hhi.trans_le (h.le_mem_turns ((List.pairwise_cons.mp hlater).1 z hz) hu)
  rw [List.flatMap_append, List.flatMap_cons]
  split_ifs with hends
  · have hturns : earlier.flatMap (d.turns standard) ++ (d.turns standard y
        ++ later.flatMap (d.turns standard))
        = earlier.flatMap (d.turns standard) ++ ⟨d.starts.instant standard y, d.offset⟩
          :: (⟨d.ends.instant d.offset y, standard⟩ :: later.flatMap (d.turns standard)) := rfl
    rw [hturns, latest_append hbefore hlo]
    · rfl
    · rintro u (_ | ⟨_, hu⟩)
      · exact hends
      · exact hafter u hu
  · have hturns : earlier.flatMap (d.turns standard) ++ (d.turns standard y
        ++ later.flatMap (d.turns standard))
        = (earlier.flatMap (d.turns standard) ++ [⟨d.starts.instant standard y, d.offset⟩])
          ++ ⟨d.ends.instant d.offset y, standard⟩ :: later.flatMap (d.turns standard) := by
      simp [turns]
    rw [hturns, latest_append _ (not_lt.mp hends) hafter]
    · rfl
    · intro u hu
      rcases List.mem_append.mp hu with hu | hu
      · exact (hbefore u hu).trans (h y).1
      · rw [List.mem_singleton.mp hu]
        exact (h y).1

end Daylight

/-- The offset between two starts of daylight time, near the year of the first. -/
theorem Rules.offsetAt_inOrder {standard y : Int} {d : Daylight} (h : d.InOrder standard)
    (hy : y - 1 ≤ yearOfSecond s) (hy' : yearOfSecond s ≤ y + 2)
    (hlo : d.starts.instant standard y ≤ s) (hhi : s < d.starts.instant standard (y + 1)) :
    Rules.offsetAt ⟨standard, some d⟩ s
      = if s < d.ends.instant d.offset y then d.offset else standard := by
  simp only [Rules.offsetAt]
  rw [h.latest_flatMap _ _ hlo hhi]
  · rfl
  · simp only [List.pairwise_cons, List.mem_cons, List.not_mem_nil, or_false, List.Pairwise.nil]
    grind
  · simp only [List.mem_cons]
    omega

end ScriptDate.Zone
