import Mathlib.Algebra.Order.Field.Power
import Mathlib.Data.Rat.Floor
import Mathlib.Tactic.FieldSimp
import Mathlib.Tactic.Linarith
import Mathlib.Tactic.Positivity
import Mathlib.Tactic.Ring
import ScriptDate.Number.Basic

/-!
# Rounding

The value a quotient is rounded to is off by at most half the spacing of the format there, which
is a fraction `2 ^ -53` of the quotient. So a whole number below `2 ^ 53` is its own rounding
(`ofInt_eq`), and the quotient of two of them, rounded, lies between the same whole numbers as
before (`floor_nearest_div`).
-/

namespace ScriptDate.Number

theorem nearestEven_intCast (n : Int) : nearestEven n = n := by
  simp only [nearestEven, Rat.floor_intCast, sub_self]
  norm_num

theorem abs_nearestEven_sub_le (q : Rat) : |(nearestEven q : Rat) - q| ≤ 1 / 2 := by
  have hlo := Rat.floor_le q
  have hhi := Rat.lt_floor_add_one q
  push_cast at hhi
  simp only [nearestEven]
  split_ifs with hlt hgt
  · rw [abs_le]
    constructor <;> linarith
  · push_cast
    rw [abs_le]
    constructor <;> linarith
  · have hpart : q - q.floor = 1 / 2 := le_antisymm (not_lt.mp hgt) (not_lt.mp hlt)
    rcases Int.emod_two_eq_zero_or_one q.floor with h | h
    · rw [h, add_zero, abs_le]
      constructor <;> linarith
    · rw [h, abs_le]
      push_cast
      constructor <;> linarith

theorem magnitude_eq_abs (q : Rat) : magnitude q = |q| := by
  unfold magnitude
  split_ifs with h
  · exact (abs_of_neg h).symm
  · exact (abs_of_nonneg (not_lt.mp h)).symm

/-- The bits of numerator and denominator place a magnitude within two powers of two. -/
theorem abs_between_log2 {q : Rat} (hq : q ≠ 0) :
    (2 : Rat) ^ ((q.num.natAbs.log2 : Int) - q.den.log2 - 1) ≤ |q|
      ∧ |q| < (2 : Rat) ^ ((q.num.natAbs.log2 : Int) - q.den.log2 + 1) := by
  have hn : q.num.natAbs ≠ 0 := by simpa using hq
  have hden : (0 : Rat) < q.den := by exact_mod_cast q.den_pos
  have hn1 : (2 : Rat) ^ (q.num.natAbs.log2 : Int) ≤ q.num.natAbs := by
    rw [zpow_natCast]
    exact_mod_cast Nat.log2_self_le hn
  have hn2 : (q.num.natAbs : Rat) < 2 ^ ((q.num.natAbs.log2 : Int) + 1) := by
    rw [← Nat.cast_succ, zpow_natCast]
    exact_mod_cast Nat.lt_log2_self
  have hd1 : (2 : Rat) ^ (q.den.log2 : Int) ≤ q.den := by
    rw [zpow_natCast]
    exact_mod_cast Nat.log2_self_le q.den_nz
  have hd2 : (q.den : Rat) < 2 ^ ((q.den.log2 : Int) + 1) := by
    rw [← Nat.cast_succ, zpow_natCast]
    exact_mod_cast Nat.lt_log2_self
  have habs : |q| = (q.num.natAbs : Rat) / q.den := by
    rw [Rat.abs_def, Rat.divInt_eq_div, Int.cast_natCast, Int.cast_natCast]
  rw [habs]
  generalize (q.num.natAbs.log2 : Int) = a at *
  generalize (q.den.log2 : Int) = b at *
  constructor
  · rw [le_div_iff₀ hden]
    calc (2 : Rat) ^ (a - b - 1) * q.den
        ≤ 2 ^ (a - b - 1) * 2 ^ (b + 1) := by gcongr
      _ = 2 ^ a := by rw [← zpow_add₀ two_ne_zero]; congr 1; ring
      _ ≤ q.num.natAbs := hn1
  · rw [div_lt_iff₀ hden]
    calc (q.num.natAbs : Rat)
        < 2 ^ (a + 1) := hn2
      _ = 2 ^ (a - b + 1) * 2 ^ b := by rw [← zpow_add₀ two_ne_zero]; congr 1; ring
      _ ≤ 2 ^ (a - b + 1) * q.den := by gcongr

theorem binade_spec {q : Rat} (hq : q ≠ 0) :
    (2 : Rat) ^ binade q ≤ |q| ∧ |q| < (2 : Rat) ^ (binade q + 1) := by
  obtain ⟨hlo, hhi⟩ := abs_between_log2 hq
  simp only [binade, magnitude_eq_abs]
  split_ifs with h
  · exact ⟨h, hhi⟩
  · exact ⟨hlo, by simpa using not_le.mp h⟩

/-- The multiple of the spacing nearest to `q`, before it is tested for zero and overflow. -/
def nearest (q : Rat) : Rat := nearestEven (q / 2 ^ quantum q) * 2 ^ quantum q

theorem round_eq (q : Rat) :
    round q = if nearest q = 0 then zero (q < 0)
      else if (2 : Rat) ^ (1024 : Int) ≤ |nearest q| then .infinity (q < 0)
      else .finite (nearest q) := by
  simp only [round, nearest, magnitude_eq_abs]
  rfl

theorem abs_nearest_sub_le (q : Rat) : |nearest q - q| ≤ 2 ^ quantum q / 2 := by
  have hu : (0 : Rat) < 2 ^ quantum q := by positivity
  have hq : q / 2 ^ quantum q * 2 ^ quantum q = q := div_mul_cancel₀ q hu.ne'
  calc |nearest q - q|
      = |nearestEven (q / 2 ^ quantum q) - q / 2 ^ quantum q| * 2 ^ quantum q := by
        rw [← abs_of_pos hu, ← abs_mul, sub_mul, abs_of_pos hu, hq, nearest]
    _ ≤ 1 / 2 * 2 ^ quantum q := by
        gcongr
        exact abs_nearestEven_sub_le _
    _ = 2 ^ quantum q / 2 := by ring

/-- Above the subnormals a rounding is off by at most a `2 ^ -53`th of the value. -/
theorem abs_nearest_sub_le_abs {q : Rat} (hq : (2 : Rat) ^ (-1022 : Int) ≤ |q|) :
    |nearest q - q| ≤ |q| / 2 ^ 53 := by
  have h0 : q ≠ 0 := by
    rintro rfl
    rw [abs_zero] at hq
    exact absurd hq (not_le.mpr (by positivity))
  obtain ⟨hlo, hhi⟩ := binade_spec h0
  have hb : -1022 < binade q + 1 :=
    (zpow_lt_zpow_iff_right₀ (one_lt_two : (1 : Rat) < 2)).mp (hq.trans_lt hhi)
  have hquantum : quantum q = binade q + -52 := by unfold quantum; omega
  calc |nearest q - q|
      ≤ 2 ^ quantum q / 2 := abs_nearest_sub_le q
    _ = 2 ^ binade q / 2 ^ 53 := by
        rw [hquantum, zpow_add₀ two_ne_zero]
        norm_num
        ring
    _ ≤ |q| / 2 ^ 53 := by gcongr

/-! ## Whole numbers -/

theorem abs_intCast_lt {n : Int} (h : n.natAbs < 2 ^ 53) : |(n : Rat)| < 2 ^ 53 := by
  rw [← Int.cast_abs, Int.abs_eq_natAbs]
  exact_mod_cast h

theorem one_le_abs_intCast {n : Int} (h : n ≠ 0) : (1 : Rat) ≤ |(n : Rat)| := by
  exact_mod_cast Int.one_le_abs h

theorem nearest_zero : nearest 0 = 0 := by
  have h0 := nearestEven_intCast 0
  rw [Int.cast_zero] at h0
  simp [nearest, h0]

/-- The spacing at `n` divides what has no more than 53 bits above the power of two in it. -/
theorem nearest_intCast_of_dvd {n : Int} {j : Nat} (hd : 2 ^ j ∣ n)
    (h : n.natAbs < 2 ^ 53 * 2 ^ j) : nearest n = n := by
  rcases eq_or_ne n 0 with rfl | h0
  · rw [Int.cast_zero, nearest_zero]
  have habs : |(n : Rat)| < 2 ^ ((53 + j : Nat) : Int) := by
    rw [zpow_natCast, pow_add, ← Int.cast_abs, Int.abs_eq_natAbs]
    exact_mod_cast h
  have hb : binade n < (53 + j : Nat) :=
    (zpow_lt_zpow_iff_right₀ (one_lt_two : (1 : Rat) < 2)).mp
      ((binade_spec (Int.cast_ne_zero.mpr h0)).1.trans_lt habs)
  obtain ⟨k, hk⟩ : ∃ k : Nat, quantum n = j + -(k : Int) :=
    ⟨(j - quantum n).toNat, by unfold quantum; omega⟩
  obtain ⟨c, rfl⟩ := hd
  have hscaled : ((2 ^ j * c : Int) : Rat) / 2 ^ quantum ((2 ^ j * c : Int) : Rat)
      = ((c * 2 ^ k : Int) : Rat) := by
    rw [hk, zpow_add₀ two_ne_zero, zpow_neg, zpow_natCast, zpow_natCast]
    push_cast
    field_simp
  unfold nearest
  rw [hscaled, nearestEven_intCast, ← hscaled, div_mul_cancel₀]
  positivity

/-- A whole number below `2 ^ 53` needs no rounding. -/
theorem nearest_intCast {n : Int} (h : n.natAbs < 2 ^ 53) : nearest n = n :=
  nearest_intCast_of_dvd (j := 0) (one_dvd n) (by simpa using h)

theorem abs_nearest_intCast_sub_le (n : Int) : |nearest n - n| ≤ |(n : Rat)| / 2 ^ 53 := by
  rcases eq_or_ne n 0 with rfl | h0
  · simp [nearest_zero]
  · have hnormal : (2 : Rat) ^ (-1022 : Int) ≤ 1 := zpow_le_one_of_nonpos₀ one_le_two (by decide)
    exact abs_nearest_sub_le_abs (hnormal.trans (one_le_abs_intCast h0))

theorem value_round {q : Rat} (h : |nearest q| < 2 ^ (1024 : Int)) :
    (round q).isFinite = true ∧ (round q).value = nearest q := by
  rw [round_eq, if_neg (not_le.mpr h)]
  split_ifs with h0
  · rw [h0, zero]
    split_ifs <;> exact ⟨rfl, rfl⟩
  · exact ⟨rfl, rfl⟩

theorem two_pow_53_lt : (2 : Rat) ^ 53 < 2 ^ (1024 : Int) := by
  rw [← zpow_natCast]
  exact zpow_lt_zpow_right₀ one_lt_two (by norm_num)

theorem ofInt_eq_of_nearest {n : Int} (h : nearest n = n) (hn : |(n : Rat)| < 2 ^ (1024 : Int)) :
    ofInt n = .finite n := by
  rw [ofInt, round_eq, h, if_neg (not_le.mpr hn)]
  split_ifs with h0
  · obtain rfl : n = 0 := by exact_mod_cast h0
    rfl
  · rfl

theorem ofInt_eq {n : Int} (h : n.natAbs < 2 ^ 53) : ofInt n = .finite n :=
  ofInt_eq_of_nearest (nearest_intCast h) ((abs_intCast_lt h).trans two_pow_53_lt)

/-- The rounded quotient of whole numbers is off by less than one part in the divisor. -/
theorem abs_nearest_div_sub_lt {k n : Int} (hk0 : k ≠ 0) (hk : k.natAbs < 2 ^ 53) (hn : 0 < n)
    (hn' : n < 2 ^ 53) : |nearest (k / n) - k / n| < 1 / n := by
  have hnq : (0 : Rat) < n := by exact_mod_cast hn
  have habs : |(k : Rat) / n| = |(k : Rat)| / n := by rw [abs_div, abs_of_pos hnq]
  have hnormal : (2 : Rat) ^ (-1022 : Int) ≤ |(k : Rat) / n| := by
    have h1 := one_le_abs_intCast hk0
    have h2 : (n : Rat) ≤ 2 ^ (53 : Int) := by exact_mod_cast hn'.le
    calc (2 : Rat) ^ (-1022 : Int)
        ≤ 2 ^ (-53 : Int) := zpow_le_zpow_right₀ one_le_two (by norm_num)
      _ = 1 / 2 ^ (53 : Int) := by rw [zpow_neg, one_div]
      _ ≤ |(k : Rat)| / n := by gcongr
      _ = |(k : Rat) / n| := habs.symm
  refine (abs_nearest_sub_le_abs hnormal).trans_lt ?_
  rw [habs, div_right_comm]
  gcongr
  rw [div_lt_one (by positivity)]
  exact abs_intCast_lt hk

theorem div_eq_ediv {k n : Int} (hn : 0 < n) (hr : k % n = 0) :
    (k : Rat) / n = ((k / n : Int) : Rat) := by
  have hnq : (n : Rat) ≠ 0 := by exact_mod_cast hn.ne'
  rw [div_eq_iff hnq]
  exact_mod_cast (Int.ediv_mul_cancel (Int.dvd_of_emod_eq_zero hr)).symm

/-- What is less than one part away from a quotient of whole numbers, and is the quotient itself
where that is whole, has the same floor. -/
theorem floor_eq_ediv {q : Rat} {k n : Int} (hn : 0 < n) (hexact : k % n = 0 → q = k / n)
    (hnear : k % n ≠ 0 → |q - k / n| < 1 / n) : q.floor = k / n := by
  have hnq : (0 : Rat) < n := by exact_mod_cast hn
  by_cases hr : k % n = 0
  · rw [hexact hr, div_eq_ediv hn hr, Rat.floor_intCast]
  · obtain ⟨hl, hu⟩ := abs_lt.mp (hnear hr)
    have hpos : 0 < k % n := lt_of_le_of_ne (Int.emod_nonneg k hn.ne') (Ne.symm hr)
    have hlt := Int.emod_lt_of_pos k hn
    have hsplit : (k : Rat) / n = (k / n : Int) + (k % n : Int) / n := by
      have := Int.mul_ediv_add_emod k n
      field_simp
      exact_mod_cast this.symm
    have hlo : 1 / (n : Rat) ≤ (k % n : Int) / n := by
      gcongr
      exact_mod_cast hpos
    have hhi : ((k % n : Int) : Rat) / n + 1 / n ≤ 1 := by
      rw [← add_div, div_le_one hnq]
      exact_mod_cast hlt
    have h1 : (((k / n : Int)) : Rat) ≤ q := by linarith
    have h2 : q < ((k / n + 1 : Int) : Rat) := by
      push_cast
      linarith
    exact le_antisymm (Int.lt_add_one_iff.mp (Rat.floor_lt_iff.mpr h2)) (Rat.le_floor_iff.mpr h1)

theorem nearest_div_of_dvd {k n : Int} (hk : k.natAbs < 2 ^ 53) (hn : 0 < n) (hr : k % n = 0) :
    nearest (k / n) = k / n := by
  rw [div_eq_ediv hn hr, nearest_intCast ((Int.natAbs_ediv_le_natAbs k n).trans_lt hk)]

theorem ne_zero_of_emod {k n : Int} (hr : k % n ≠ 0) : k ≠ 0 := by
  rintro rfl
  exact hr (Int.zero_emod n)

/-- The rounded quotient of whole numbers lies between the same whole numbers as the quotient. -/
theorem floor_nearest_div {k n : Int} (hk : k.natAbs < 2 ^ 53) (hn : 0 < n) (hn' : n < 2 ^ 53) :
    (nearest (k / n)).floor = k / n :=
  floor_eq_ediv hn (nearest_div_of_dvd hk hn)
    fun hr => abs_nearest_div_sub_lt (ne_zero_of_emod hr) hk hn hn'

theorem floor_neg_nearest_div {k n : Int} (hk : k.natAbs < 2 ^ 53) (hn : 0 < n)
    (hn' : n < 2 ^ 53) : (-nearest (k / n)).floor = -k / n := by
  have hr : -k % n = 0 ↔ k % n = 0 := by
    rw [← Int.dvd_iff_emod_eq_zero, ← Int.dvd_iff_emod_eq_zero, Int.dvd_neg]
  have hneg : ((-k : Int) : Rat) / n = -(k / n) := by
    push_cast
    ring
  apply floor_eq_ediv hn
  · intro h
    rw [nearest_div_of_dvd hk hn (hr.mp h), hneg]
  · intro h
    rw [hneg, neg_sub_neg, abs_sub_comm]
    exact abs_nearest_div_sub_lt (ne_zero_of_emod (mt hr.mpr h)) hk hn hn'

theorem abs_nearest_div_lt {k n : Int} (hk : k.natAbs < 2 ^ 53) (hn : 0 < n) (hn' : n < 2 ^ 53) :
    |nearest (k / n)| < 2 ^ (1024 : Int) := by
  have hfloor := floor_nearest_div hk hn hn'
  have hsmall : (k / n).natAbs < 2 ^ 53 := (Int.natAbs_ediv_le_natAbs k n).trans_lt hk
  have hlo := Rat.floor_le (nearest (k / n))
  have hhi := Rat.lt_floor_add_one (nearest (k / n))
  rw [hfloor] at hlo hhi
  have h1 : -(2 : Rat) ^ 53 ≤ (k / n : Int) := by
    exact_mod_cast (by omega : -(2 : Int) ^ 53 ≤ k / n)
  have h2 : ((k / n + 1 : Int) : Rat) ≤ 2 ^ 53 := by
    exact_mod_cast (by omega : k / n + 1 ≤ (2 : Int) ^ 53)
  refine lt_of_le_of_lt ?_ two_pow_53_lt
  rw [abs_le]
  constructor <;> linarith

end ScriptDate.Number
