import Mathlib.Data.Int.Init
import Mathlib.Order.Bounds.Basic
import ScriptDate.Calendar.Year

/-!
# The instant of a local time

The choice among the two offsets a day before and a day after a local time, in the integers, for
any offset that depends on the instant. Where the offset changes no more than once within that
day on either side, the choice is the earliest instant that has the local time
(`isLeast_taken`), and past a gap it is moved on by the width of the gap (`taken_of_gap`). In
general it is an instant of the local time unless all of these lie between two changes within
that day (`taken_hasLocal_iff`).
-/

namespace ScriptDate.Zone

open Calendar

/-- The instant taken for the local time `L`. -/
def taken (f : Int → Int) (L : Int) : Int :=
  if f (L - msPerDay) = f (L + msPerDay) ∨ f (L - f (L - msPerDay)) = f (L - msPerDay) then
    L - f (L - msPerDay)
  else if f (L - f (L + msPerDay)) = f (L + msPerDay) then L - f (L + msPerDay)
  else L - f (L - msPerDay)

/-- The local time `L` is read as one that no instant has. -/
def isGap (f : Int → Int) (L : Int) : Prop :=
  f (L - msPerDay) ≠ f (L + msPerDay) ∧ f (L - f (L - msPerDay)) ≠ f (L - msPerDay)
    ∧ f (L - f (L + msPerDay)) ≠ f (L + msPerDay)

/-- The instant `t` has the local time `L`. -/
def HasLocal (f : Int → Int) (L t : Int) : Prop := t + f t = L

/-- No offset comes to a day. -/
def UnderADay (f : Int → Int) : Prop := ∀ t, (f t).natAbs < 86400000

variable {f : Int → Int} {L t : Int}

theorem HasLocal.near (hf : UnderADay f) (h : HasLocal f L t) :
    L - msPerDay < t ∧ t < L + msPerDay := by
  have := hf t
  unfold HasLocal at h
  unfold msPerDay
  omega

/-! ## One change -/

/-- From a day before the local time `L` to a day after it, the offset is `A` up to the instant
`T` and `B` from it on. -/
structure ChangesOnce (f : Int → Int) (L A B T : Int) : Prop where
  before : ∀ t, L - msPerDay ≤ t → t ≤ L + msPerDay → t < T → f t = A
  after : ∀ t, L - msPerDay ≤ t → t ≤ L + msPerDay → T ≤ t → f t = B

variable {A B T : Int}

/-- An instant of the local time has one of the two offsets. -/
theorem ChangesOnce.hasLocal_iff (h : ChangesOnce f L A B T) (hf : UnderADay f) :
    HasLocal f L t ↔
      (L - msPerDay < t ∧ t < L + msPerDay) ∧ (t < T ∧ t = L - A ∨ T ≤ t ∧ t = L - B) := by
  constructor
  · intro ht
    have hnear := ht.near hf
    refine ⟨hnear, ?_⟩
    unfold HasLocal at ht
    rcases lt_or_ge t T with hT | hT
    · have := h.before t hnear.1.le hnear.2.le hT
      omega
    · have := h.after t hnear.1.le hnear.2.le hT
      omega
  · rintro ⟨hnear, ⟨hT, rfl⟩ | ⟨hT, rfl⟩⟩
    · rw [HasLocal, h.before _ hnear.1.le hnear.2.le hT]
      omega
    · rw [HasLocal, h.after _ hnear.1.le hnear.2.le hT]
      omega

/-- What the offsets at the ends of the two days are, by where the change lies. -/
theorem ChangesOnce.ends (h : ChangesOnce f L A B T) :
    (T ≤ L - msPerDay ∧ f (L - msPerDay) = B ∧ f (L + msPerDay) = B)
      ∨ (L + msPerDay < T ∧ f (L - msPerDay) = A ∧ f (L + msPerDay) = A)
      ∨ (L - msPerDay < T ∧ T ≤ L + msPerDay ∧ f (L - msPerDay) = A ∧ f (L + msPerDay) = B) := by
  have hday : (0 : Int) < msPerDay := by decide
  rcases le_or_gt T (L - msPerDay) with h1 | h1
  · exact Or.inl ⟨h1, h.after _ le_rfl (by omega) h1, h.after _ (by omega) le_rfl (by omega)⟩
  · rcases lt_or_ge (L + msPerDay) T with h2 | h2
    · exact Or.inr (Or.inl ⟨h2, h.before _ le_rfl (by omega) h1, h.before _ (by omega) le_rfl h2⟩)
    · exact Or.inr (Or.inr
        ⟨h1, h2, h.before _ le_rfl (by omega) h1, h.after _ (by omega) le_rfl h2⟩)

theorem taken_of_eq (h : f (L - msPerDay) = A) (h' : f (L + msPerDay) = A) : taken f L = L - A := by
  rw [taken, h, h', if_pos (Or.inl rfl)]

/-- Outside the gap the earliest instant of the local time is taken. -/
theorem isLeast_taken (h : ChangesOnce f L A B T) (hf : UnderADay f) (hgap : ¬ isGap f L) :
    IsLeast {t | HasLocal f L t} (taken f L) := by
  have hlo := hf (L - msPerDay)
  have hhi := hf (L + msPerDay)
  have hday : msPerDay = 86400000 := rfl
  simp only [IsLeast, lowerBounds, Set.mem_ofPred_eq, h.hasLocal_iff hf]
  rcases h.ends with ⟨hT, hl, hr⟩ | ⟨hT, hl, hr⟩ | ⟨hT, hT', hl, hr⟩
  · rw [taken_of_eq hl hr]
    rw [hl] at hlo
    constructor
    · omega
    · omega
  · rw [taken_of_eq hl hr]
    rw [hl] at hlo
    constructor
    · omega
    · omega
  · rw [hl] at hlo
    rw [hr] at hhi
    simp only [isGap, hl, hr] at hgap
    simp only [taken, hl, hr]
    rcases lt_or_ge (L - A) T with hA | hA
    · rw [h.before (L - A) (by omega) (by omega) hA, if_pos (Or.inr rfl)]
      constructor
      · omega
      · omega
    · rw [h.after (L - A) (by omega) (by omega) hA] at hgap ⊢
      rcases lt_or_ge (L - B) T with hB | hB
      · rw [h.before (L - B) (by omega) (by omega) hB] at hgap ⊢
        split_ifs
        all_goals constructor
        all_goals omega
      · rw [h.after (L - B) (by omega) (by omega) hB] at hgap ⊢
        rw [if_pos rfl]
        split_ifs
        all_goals constructor
        all_goals omega

/-- In the gap the offset before it is taken, and the local time is moved on by its width. -/
theorem taken_of_gap (h : ChangesOnce f L A B T) (hf : UnderADay f) (hgap : isGap f L) :
    (¬ ∃ t, HasLocal f L t) ∧ A < B ∧ taken f L = L - A ∧ T ≤ L - A ∧ f (L - A) = B := by
  have hlo := hf (L - msPerDay)
  have hhi := hf (L + msPerDay)
  have hday : msPerDay = 86400000 := rfl
  obtain ⟨hne, hearly, hlate⟩ := hgap
  rcases h.ends with ⟨hT, hl, hr⟩ | ⟨hT, hl, hr⟩ | ⟨hT, hT', hl, hr⟩
  · exact absurd (hl.trans hr.symm) hne
  · exact absurd (hl.trans hr.symm) hne
  · rw [hl] at hlo hne hearly
    rw [hr] at hhi hne hlate
    have hA : T ≤ L - A := by
      by_contra hlt
      exact hearly (h.before _ (by omega) (by omega) (by omega))
    have hB : L - B < T := by
      by_contra hge
      exact hlate (h.after _ (by omega) (by omega) (by omega))
    refine ⟨?_, by omega, ?_, hA, h.after _ (by omega) (by omega) hA⟩
    · rintro ⟨t, ht⟩
      have := (h.hasLocal_iff hf).mp ht
      omega
    · rw [taken, hl, hr, if_neg (not_or.mpr ⟨hne, hearly⟩), if_neg hlate]

theorem isGap_iff (h : ChangesOnce f L A B T) (hf : UnderADay f) :
    isGap f L ↔ ¬ ∃ t, HasLocal f L t := by
  constructor
  · exact fun hgap => (taken_of_gap h hf hgap).1
  · intro hnone
    by_contra hgap
    exact hnone ⟨_, (isLeast_taken h hf hgap).1⟩

/-! ## Any number of changes -/

/-- The offset changes at the instant `t`. -/
def ChangesAt (f : Int → Int) (t : Int) : Prop := f (t - 1) ≠ f t

/-- Any two changes are more than `gap` apart. -/
def Spaced (f : Int → Int) (gap : Int) : Prop :=
  ∀ t u, ChangesAt f t → ChangesAt f u → t < u → gap < u - t

theorem constant_or_first_change {a b : Int} (hab : a ≤ b) :
    (∀ s, a ≤ s → s ≤ b → f s = f a)
      ∨ ∃ t, a < t ∧ t ≤ b ∧ ChangesAt f t ∧ ∀ s, a ≤ s → s < t → f s = f a := by
  induction b, hab using Int.leInduction with
  | base => exact Or.inl fun s h1 h2 => by rw [le_antisymm h2 h1]
  | succ b hb ih =>
    rcases ih with hconst | ⟨t, h1, h2, h3⟩
    · by_cases hnext : f (b + 1) = f a
      · refine Or.inl fun s h1 h2 => ?_
        rcases h2.lt_or_eq with h | rfl
        · exact hconst s h1 (by omega)
        · exact hnext
      · refine Or.inr ⟨b + 1, by omega, le_rfl, ?_, fun s h1 h2 => hconst s h1 (by omega)⟩
        rw [ChangesAt, Int.add_sub_cancel, hconst b hb le_rfl]
        exact Ne.symm hnext
    · exact Or.inr ⟨t, h1, by omega, h3⟩

theorem constant_or_last_change {a b : Int} (hab : a ≤ b) :
    (∀ s, a ≤ s → s ≤ b → f s = f b)
      ∨ ∃ t, a < t ∧ t ≤ b ∧ ChangesAt f t ∧ ∀ s, t ≤ s → s ≤ b → f s = f b := by
  induction a, hab using Int.leInductionDown with
  | base => exact Or.inl fun s h1 h2 => by rw [le_antisymm h2 h1]
  | pred a ha ih =>
    rcases ih with hconst | ⟨t, h1, h2, h3⟩
    · by_cases hprev : f (a - 1) = f b
      · refine Or.inl fun s h1 h2 => ?_
        rcases h1.lt_or_eq with h | rfl
        · exact hconst s (by omega) h2
        · exact hprev
      · refine Or.inr ⟨a, by omega, ha, ?_, hconst⟩
        rw [ChangesAt, hconst a le_rfl ha]
        exact hprev
    · exact Or.inr ⟨t, by omega, h2, h3⟩

theorem eq_of_no_change {a b : Int} (hab : a ≤ b)
    (h : ∀ t, a < t → t ≤ b → ¬ ChangesAt f t) : f b = f a := by
  rcases constant_or_first_change (f := f) hab with hconst | ⟨t, h1, h2, h3, -⟩
  · exact hconst b hab le_rfl
  · exact absurd h3 (h t h1 h2)

theorem hasLocal_sub : HasLocal f L (L - A) ↔ f (L - A) = A := by
  unfold HasLocal
  omega

/-- The instant taken has the local time when one of the two offsets tried is in effect at the
instant that it gives. -/
theorem hasLocal_taken : HasLocal f L (taken f L) ↔
    f (L - f (L - msPerDay)) = f (L - msPerDay) ∨ f (L - f (L + msPerDay)) = f (L + msPerDay) := by
  unfold taken
  split_ifs with h1 h2
  · rw [hasLocal_sub]
    refine ⟨Or.inl, fun h => ?_⟩
    rcases h1 with h1 | h1
    · rcases h with h | h
      · exact h
      · rwa [← h1] at h
    · exact h1
  · rw [hasLocal_sub]
    exact ⟨Or.inr, fun _ => h2⟩
  · rw [hasLocal_sub]
    exact ⟨Or.inl, fun h => h.resolve_right h2⟩

theorem taken_eq_sub (f : Int → Int) (L : Int) :
    taken f L = L - f (L - msPerDay) ∨ taken f L = L - f (L + msPerDay) := by
  unfold taken
  split_ifs
  · exact Or.inl rfl
  · exact Or.inr rfl
  · exact Or.inl rfl

theorem offset_of_hasLocal (h : HasLocal f L t) (ht : t = L - A) : f t = A := by
  unfold HasLocal at h
  omega

/-- With two changes within a day of the local time there is no third. -/
theorem Spaced.three_offsets (hs : Spaced f msPerDay) {T₁ T₂ : Int} (h₁ : ChangesAt f T₁)
    (h₂ : ChangesAt f T₂) (hlo : L - msPerDay < T₁) (hlt : T₁ < T₂) (hhi : T₂ ≤ L + msPerDay) :
    f (L - msPerDay) = f (T₁ - 1) ∧ (∀ t, T₁ ≤ t → t < T₂ → f t = f T₁)
      ∧ f (L + msPerDay) = f T₂ := by
  have hgap := hs _ _ h₁ h₂ hlt
  refine ⟨?_, fun t ht ht' => ?_, ?_⟩
  · refine (eq_of_no_change (by omega) fun t ha hb hc => ?_).symm
    have := hs _ _ hc h₁ (by omega)
    omega
  · refine eq_of_no_change ht fun u ha hb hc => ?_
    have := hs _ _ h₁ hc ha
    have := hs _ _ hc h₂ (by omega)
    omega
  · refine eq_of_no_change hhi fun t ha hb hc => ?_
    have := hs _ _ h₂ hc ha
    omega

/-- The instant taken has the local time unless every instant that has it lies between two changes
that are both within a day of it. -/
theorem taken_hasLocal_iff (hf : UnderADay f) (hs : Spaced f msPerDay) :
    HasLocal f L (taken f L) ↔ ¬ ∃ T₁ T₂, ChangesAt f T₁ ∧ ChangesAt f T₂ ∧ L - msPerDay < T₁
      ∧ T₂ ≤ L + msPerDay ∧ ∀ t, HasLocal f L t → T₁ ≤ t ∧ t < T₂ := by
  have hlo := hf (L - msPerDay)
  have hhi := hf (L + msPerDay)
  have hday : msPerDay = 86400000 := rfl
  constructor
  · rintro htaken ⟨T₁, T₂, h₁, h₂, hT₁, hT₂, hbetween⟩
    obtain ⟨hr₁, hr₂⟩ := hbetween _ htaken
    obtain ⟨hfirst, hmid, hlast⟩ := hs.three_offsets h₁ h₂ hT₁ (by omega) hT₂
    have hprev := hmid (T₂ - 1) (by omega) (by omega)
    have hnow := hmid _ hr₁ hr₂
    unfold ChangesAt at h₁ h₂
    -- The offset in effect at the instant is that of one end, and between the changes it is not.
    rcases taken_eq_sub f L with h | h
    · have := offset_of_hasLocal htaken h
      omega
    · have := offset_of_hasLocal htaken h
      omega
  · intro hnone
    by_contra hmiss
    obtain ⟨hearly, hlate⟩ := not_or.mp (hasLocal_taken.not.mp hmiss)
    apply hnone
    rcases constant_or_first_change (f := f) (a := L - msPerDay) (b := L - f (L - msPerDay))
      (by omega) with hconst | ⟨T₁, ha₁, hb₁, h₁, hbefore⟩
    · exact absurd (hconst _ (by omega) le_rfl) hearly
    rcases constant_or_last_change (f := f) (a := L - f (L + msPerDay)) (b := L + msPerDay)
      (by omega) with hconst | ⟨T₂, ha₂, hb₂, h₂, hafter⟩
    · exact absurd (hconst _ le_rfl (by omega)) hlate
    refine ⟨T₁, T₂, h₁, h₂, ha₁, hb₂, fun t ht => ?_⟩
    have hnear := ht.near hf
    unfold HasLocal at ht
    constructor
    · by_contra hlt
      have := hbefore t hnear.1.le (by omega)
      omega
    · by_contra hge
      have := hafter t (by omega) hnear.2.le
      omega

/-- Changes more than two days apart never lie within a day of one local time both. -/
theorem hasLocal_taken_of_spaced (hf : UnderADay f) (hs : Spaced f (2 * msPerDay))
    (hex : ∃ t, HasLocal f L t) : HasLocal f L (taken f L) := by
  have hday : msPerDay = 86400000 := rfl
  have hspaced : Spaced f msPerDay := by
    intro t u ht hu htu
    have := hs t u ht hu htu
    omega
  rw [taken_hasLocal_iff hf hspaced]
  rintro ⟨T₁, T₂, h₁, h₂, hT₁, hT₂, hbetween⟩
  obtain ⟨t, ht⟩ := hex
  have hlt := hbetween t ht
  have hgap := hs T₁ T₂ h₁ h₂ (by omega)
  omega

end ScriptDate.Zone
