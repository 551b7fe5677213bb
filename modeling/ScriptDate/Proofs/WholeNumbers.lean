import ScriptDate.Proofs.Rounding

/-!
# Whole numbers

What a number is as a whole number, whichever zero it is (`Holds`), and how the operations act
on that: below `2 ^ 53` they are those of the integers, division to the floor among them
(`Holds.floor_div`).
-/

namespace ScriptDate.Number

/-- The number is the whole number `n`; a zero may have either sign. -/
def Holds (x : Number) (n : Int) : Prop := x.isFinite = true ∧ x.value = n

theorem holds_ofInt {n : Int} (h : n.natAbs < 2 ^ 53) : (ofInt n).Holds n := by
  rw [ofInt_eq h]
  exact ⟨rfl, rfl⟩

theorem holds_ofNat (n : Nat) (h : n < 2 ^ 53) : (OfNat.ofNat n : Number).Holds n :=
  holds_ofInt (by omega)

/-- No whole number but zero is rounded to a zero, and zero is not negative. -/
theorem ofInt_ne_negZero (n : Int) : ofInt n ≠ .negZero := by
  have hnear := abs_nearest_intCast_sub_le n
  rw [ofInt, round_eq]
  split_ifs with h0
  · rw [h0, zero_sub, abs_neg] at hnear
    have hn : |(n : Rat)| ≤ 0 := by linarith
    obtain rfl : n = 0 := by exact_mod_cast abs_nonpos_iff.mp hn
    simp [zero]
  · exact Number.noConfusion
  · exact Number.noConfusion

theorem ofInt_eq_nearest_of_finite {n : Int} (h : (ofInt n).isFinite = true) :
    ofInt n = .finite (nearest n) := by
  have hne := ofInt_ne_negZero n
  rw [ofInt, round_eq] at *
  split_ifs at * with h0 hlarge
  · rw [h0]
    unfold zero at *
    split_ifs at *
    · exact absurd rfl hne
    · rfl
  · simp [isFinite] at h
  · rfl

theorem ofInt_eq_nearest {n : Int} (h : n.natAbs < 2 ^ 64) : ofInt n = .finite (nearest n) := by
  have habs : |(n : Rat)| < 2 ^ 64 := by
    rw [← Int.cast_abs, Int.abs_eq_natAbs]
    exact_mod_cast h
  have h65 : |nearest n| < 2 ^ (65 : Int) := by
    have hnear := abs_nearest_intCast_sub_le n
    have htri := abs_sub_abs_le_abs_sub (nearest n) n
    norm_num
    linarith
  exact ofInt_eq_nearest_of_finite
    (value_round (h65.trans (zpow_lt_zpow_right₀ one_lt_two (by decide)))).1

theorem isFinite_ofInt {n : Int} (h : n.natAbs < 2 ^ 64) : (ofInt n).isFinite = true := by
  rw [ofInt_eq_nearest h]
  rfl

theorem holds_finite (n : Int) : (finite n).Holds n := ⟨rfl, rfl⟩

theorem holds_negZero : negZero.Holds 0 := ⟨rfl, Int.cast_zero.symm⟩

theorem holds_zero (s : Bool) : (zero s).Holds 0 := by
  cases s
  · exact holds_finite 0
  · exact holds_negZero

theorem holds_floor {x : Number} (h : x.isFinite = true) : x.floor.Holds x.value.floor := by
  cases x with
  | nan => simp [isFinite] at h
  | infinity s => simp [isFinite] at h
  | negZero => exact holds_negZero
  | finite q => exact holds_finite _

/-- The whole part of the value, toward zero. -/
def whole (x : Number) : Int := if x.value < 0 then -(-x.value).floor else x.value.floor

theorem holds_trunc {x : Number} (h : x.isFinite = true) : x.trunc.Holds x.whole := by
  cases x with
  | nan => simp [isFinite] at h
  | infinity s => simp [isFinite] at h
  | negZero => exact holds_negZero
  | finite q =>
    show (if q < 0 then (if -1 < q then .negZero else .finite (-(-q).floor)) else
      Number.finite q.floor).Holds (if q < 0 then -(-q).floor else q.floor)
    split_ifs with hneg hsmall
    · have hzero : (-q).floor = 0 :=
        le_antisymm (Int.lt_add_one_iff.mp (Rat.floor_lt_iff.mpr (by push_cast; linarith)))
          (Rat.le_floor_iff.mpr (by push_cast; linarith))
      rw [hzero]
      exact holds_negZero
    · rw [← Int.cast_neg]
      exact holds_finite _
    · exact holds_finite _

theorem whole_ofInt {n : Int} (h : n.natAbs < 2 ^ 53) : (ofInt n).whole = n := by
  rw [ofInt_eq h, whole]
  show (if (n : Rat) < 0 then -(-(n : Rat)).floor else (n : Rat).floor) = n
  split_ifs
  · rw [← Int.cast_neg, Rat.floor_intCast, neg_neg]
  · exact Rat.floor_intCast n

theorem isFinite_of_trunc {x : Number} (h : x.trunc.isFinite = true) : x.isFinite = true := by
  cases x with
  | finite q => rfl
  | _ => exact h

theorem natAbs_whole_le (x : Number) : (x.whole.natAbs : Rat) ≤ |x.value| := by
  unfold whole
  generalize x.value = q
  split_ifs with hneg
  · have hfloor : 0 ≤ (-q).floor := Rat.le_floor_iff.mpr (by push_cast; linarith)
    rw [Int.natAbs_neg, ← Int.cast_natCast, Int.natAbs_of_nonneg hfloor, abs_of_neg hneg]
    exact Rat.floor_le _
  · have hfloor : 0 ≤ q.floor := Rat.le_floor_iff.mpr (by push_cast; linarith)
    rw [← Int.cast_natCast, Int.natAbs_of_nonneg hfloor, abs_of_nonneg (not_lt.mp hneg)]
    exact Rat.floor_le _

namespace Holds

variable {x y : Number} {m n : Int}

theorem cases (h : x.Holds n) : x = .finite n ∨ n = 0 ∧ x = .negZero := by
  obtain ⟨hfin, hval⟩ := h
  cases x with
  | nan => simp [isFinite] at hfin
  | infinity s => simp [isFinite] at hfin
  | negZero =>
    have h0 : (0 : Rat) = n := hval
    exact Or.inr ⟨by exact_mod_cast h0.symm, rfl⟩
  | finite q => exact Or.inl (by rw [← hval]; rfl)

theorem unique (hm : x.Holds m) (hn : x.Holds n) : m = n := by
  have := hm.2.symm.trans hn.2
  exact_mod_cast this

theorem toInt (h : x.Holds n) : x.toInt = n := by
  rw [Number.toInt, h.2, Rat.floor_intCast]

theorem isNaN (h : x.Holds n) : x.isNaN = false := by
  rcases h.cases with rfl | ⟨-, rfl⟩ <;> rfl

theorem lt (hx : x.Holds m) (hy : y.Holds n) : x.lt y = decide (m < n) := by
  have hval : x.lt y = decide (x.value < y.value) := by
    rcases hx.cases with rfl | ⟨rfl, rfl⟩ <;> rcases hy.cases with rfl | ⟨rfl, rfl⟩ <;> rfl
  rw [hval, hx.2, hy.2]
  simp

theorem equals (hx : x.Holds m) (hy : y.Holds n) : x.equals y = decide (m = n) := by
  have hval : x.equals y = decide (x.value = y.value) := by
    rcases hx.cases with rfl | ⟨rfl, rfl⟩ <;> rcases hy.cases with rfl | ⟨rfl, rfl⟩ <;> rfl
  rw [hval, hx.2, hy.2]
  simp

/-! ## Operations -/

theorem neg (h : x.Holds n) : (-x).Holds (-n) := by
  rcases h.cases with rfl | ⟨rfl, rfl⟩
  · show (if (n : Rat) = 0 then negZero else finite (-(n : Rat))).Holds (-n)
    split_ifs with h0
    · obtain rfl : n = 0 := by exact_mod_cast h0
      exact holds_negZero
    · rw [← Int.cast_neg]
      exact holds_finite _
  · exact holds_finite 0

theorem abs (h : x.Holds n) : x.abs.Holds n.natAbs := by
  rcases h.cases with rfl | ⟨rfl, rfl⟩
  · refine ⟨rfl, ?_⟩
    show magnitude n = _
    rw [magnitude_eq_abs, ← Int.cast_abs, Int.abs_eq_natAbs]
  · exact holds_finite 0

theorem trunc (h : x.Holds n) : x.trunc.Holds n := by
  have htrunc := holds_trunc h.1
  rw [whole, h.2, Rat.floor_intCast, ← Int.cast_neg, Rat.floor_intCast, neg_neg, ite_self] at htrunc
  exact htrunc

theorem whole_eq (h : x.Holds n) : x.whole = n := (holds_trunc h.1).unique h.trunc

/-- Only two negative zeros have a sum that is not rounded. -/
theorem add_eq (hx : x.Holds m) (hy : y.Holds n) (hz : ¬ (x = .negZero ∧ y = .negZero)) :
    x + y = ofInt (m + n) := by
  have hval : x + y = round (x.value + y.value) := by
    rcases hx.cases with rfl | ⟨rfl, rfl⟩ <;> rcases hy.cases with rfl | ⟨rfl, rfl⟩
    · rfl
    · rfl
    · rfl
    · exact absurd ⟨rfl, rfl⟩ hz
  rw [hval, hx.2, hy.2, ← Int.cast_add]
  rfl

theorem add (hx : x.Holds m) (hy : y.Holds n) (h : (m + n).natAbs < 2 ^ 53) :
    (x + y).Holds (m + n) := by
  by_cases hz : x = .negZero ∧ y = .negZero
  · obtain ⟨rfl, rfl⟩ := hz
    rw [hx.unique holds_negZero, hy.unique holds_negZero]
    exact holds_negZero
  · rw [hx.add_eq hy hz]
    exact holds_ofInt h

theorem sub (hx : x.Holds m) (hy : y.Holds n) (h : (m - n).natAbs < 2 ^ 53) :
    (x - y).Holds (m - n) := hx.add hy.neg h

theorem mul (hx : x.Holds m) (hy : y.Holds n) (h : (m * n).natAbs < 2 ^ 53) :
    (x * y).Holds (m * n) := by
  show (Number.mul x y).Holds (m * n)
  simp only [Number.mul, hx.isNaN, hy.isNaN, hx.1, hy.1, hx.2, hy.2, Bool.or_self, Bool.and_self,
    Bool.false_eq_true, if_true, if_false, ← Int.cast_mul]
  split_ifs with h0
  · rw [Int.cast_eq_zero.mp h0]
    exact holds_zero _
  · exact holds_ofInt h

/-- A quotient has the value of the nearest number. -/
theorem div (hx : x.Holds m) (hy : y.Holds n) (hm : m.natAbs < 2 ^ 53) (hn : 0 < n)
    (hn' : n < 2 ^ 53) : (x / y).isFinite = true ∧ (x / y).value = nearest (m / n) := by
  have hn0 : (n : Rat) ≠ 0 := by exact_mod_cast hn.ne'
  show (Number.div x y).isFinite = true ∧ (Number.div x y).value = _
  simp only [Number.div, hx.isNaN, hy.isNaN, hx.1, hy.1, hx.2, hy.2, Bool.or_self,
    Bool.false_eq_true, if_false, hn0]
  split_ifs with h0
  · obtain rfl := Int.cast_eq_zero.mp h0
    rw [nearest_div_of_dvd (by decide) hn (Int.zero_emod n), h0, zero_div]
    cases (x.isNegative != y.isNegative) <;> exact ⟨rfl, rfl⟩
  · exact value_round (abs_nearest_div_lt hm hn hn')

theorem div_of_dvd (hx : x.Holds m) (hy : y.Holds n) (hm : m.natAbs < 2 ^ 53) (hn : 0 < n)
    (hn' : n < 2 ^ 53) (hr : m % n = 0) : (x / y).Holds (m / n) := by
  obtain ⟨hfin, hval⟩ := hx.div hy hm hn hn'
  rw [nearest_div_of_dvd hm hn hr, div_eq_ediv hn hr] at hval
  exact ⟨hfin, hval⟩

theorem floor_div (hx : x.Holds m) (hy : y.Holds n) (hm : m.natAbs < 2 ^ 53) (hn : 0 < n)
    (hn' : n < 2 ^ 53) : (x / y).floor.Holds (m / n) := by
  obtain ⟨hfin, hval⟩ := hx.div hy hm hn hn'
  have hfloor := holds_floor hfin
  rwa [hval, floor_nearest_div hm hn hn'] at hfloor

theorem trunc_div (hx : x.Holds m) (hy : y.Holds n) (hm : m.natAbs < 2 ^ 53) (hn : 0 < n)
    (hn' : n < 2 ^ 53) : (x / y).trunc.Holds (m.tdiv n) := by
  obtain ⟨hfin, hval⟩ := hx.div hy hm hn hn'
  have htrunc := holds_trunc hfin
  have hneg : nearest (m / n) < 0 ↔ m < 0 := by
    rw [← Int.cast_zero, ← Rat.floor_lt_iff, floor_nearest_div hm hn hn']
    exact Int.ediv_lt_iff_lt_mul hn |>.trans (by rw [zero_mul])
  rw [whole, hval, floor_nearest_div hm hn hn', floor_neg_nearest_div hm hn hn'] at htrunc
  have hdiv : (if nearest (m / n) < 0 then -(-m / n) else m / n) = m.tdiv n := by
    split_ifs with h
    · rw [hneg] at h
      rw [← Int.tdiv_eq_ediv_of_nonneg (by omega), Int.neg_tdiv, neg_neg]
    · rw [hneg] at h
      rw [Int.tdiv_eq_ediv_of_nonneg (by omega)]
  rwa [hdiv] at htrunc

end Holds

/-- A product with a positive number is a negative zero only if the other factor is. -/
theorem ofInt_mul_ofInt {m n : Int} (hm : m.natAbs < 2 ^ 53) (hn : 0 < n) (hn' : n < 2 ^ 53) :
    ofInt m * ofInt n = ofInt (m * n) := by
  have hn2 : n.natAbs < 2 ^ 53 := by omega
  have hn0 : ¬ (n : Rat) < 0 := not_lt.mpr (by exact_mod_cast hn.le)
  rw [ofInt_eq hm, ofInt_eq hn2]
  show Number.mul (finite m) (finite n) = ofInt (m * n)
  simp only [Number.mul, Number.isNaN, Number.isFinite, value, isNegative, ← Int.cast_mul, hn0]
  simp only [Bool.or_self, Bool.and_self, Bool.false_eq_true, if_true, if_false]
  split_ifs with h0
  · obtain rfl : m = 0 := (mul_eq_zero.mp (Int.cast_eq_zero.mp h0)).resolve_right hn.ne'
    simp [zero, ofInt_eq (n := 0) (by decide)]
  · rfl

theorem quotient_eq {k n : Int} (hk : k.natAbs < 2 ^ 53) (hn : 0 < n) (hn' : n < 2 ^ 53) :
    quotient k n = k / n := by
  have hn2 : n.natAbs < 2 ^ 53 := by omega
  have h := (holds_ofInt hk).floor_div (holds_ofInt hn2) hk hn hn'
  have hfloor : (ofInt k / ofInt n).floor.toInt = (ofInt k / ofInt n).toInt := by
    cases ofInt k / ofInt n <;> simp [floor, Number.toInt, value, Rat.floor_intCast]
  rw [quotient, ← hfloor, h.toInt]

theorem holds_remainder {k n : Int} (hn : 0 < n) (hn' : n < 2 ^ 53) :
    (remainder k n).Holds (k % n) := by
  unfold remainder
  split_ifs with h
  · rw [h]
    exact holds_zero _
  · have h0 := Int.emod_nonneg k hn.ne'
    have hlt := Int.emod_lt_of_pos k hn
    exact holds_ofInt (by omega)

end ScriptDate.Number
