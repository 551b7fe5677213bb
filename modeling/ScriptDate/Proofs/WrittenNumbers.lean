import Mathlib.Data.List.Induction
import Mathlib.Tactic.Ring
import ScriptDate.Text.Blank
import ScriptDate.Text.Reader

/-!
# Written numbers

A number written in a fixed width is read back from the front of a text, with all that follows it
left over (`number?_padded`), and so is one of any width before a character that is no digit
(`number?_append`). A reader that looks for something else there fails.
-/

namespace ScriptDate.Text

variable {c : Char} {cs ds rest : List Char} {n v w least most : Nat}

/-! ## Digits -/

theorem isDigit_digit (n : Nat) : (digit n).isDigit = true := by
  have table : ∀ k < 10, (Char.ofNat ('0'.toNat + k)).isDigit = true := by decide
  exact table _ (Nat.mod_lt n (by omega))

/-- What holds of the ten digits holds of a digit. -/
theorem forall_isDigit {P : Char → Prop} (table : ∀ k < 10, P (Char.ofNat ('0'.toNat + k)))
    (h : c.isDigit = true) : P c := by
  have hc := Char.isDigit_iff_toNat.mp h
  have hk := table (c.toNat - '0'.toNat) (by simp at hc ⊢; omega)
  rwa [Nat.add_sub_cancel' hc.1, Char.ofNat_toNat] at hk

theorem toNat_digit (n : Nat) : (digit n).toNat - '0'.toNat = n % 10 := by
  have table : ∀ k < 10, (Char.ofNat ('0'.toNat + k)).toNat - '0'.toNat = k := by decide
  exact table _ (Nat.mod_lt n (by omega))

theorem digits_of_lt (h : n < 10) : digits n = [digit n] := by
  rw [digits, if_pos h]

theorem ofDigits_append_singleton (ds : List Char) (c : Char) :
    ofDigits (ds ++ [c]) = 10 * ofDigits ds + (c.toNat - '0'.toNat) := by
  simp [ofDigits]

theorem ofDigits_digits (n : Nat) : ofDigits (digits n) = n := by
  fun_induction digits n with
  | case1 n h =>
    rw [← List.nil_append [digit n], ofDigits_append_singleton, toNat_digit]
    simp [ofDigits]
    omega
  | case2 n h ih =>
    rw [ofDigits_append_singleton, ih, toNat_digit]
    omega

theorem ofDigits_lt (hds : ∀ c ∈ ds, c.isDigit = true) : ofDigits ds < 10 ^ ds.length := by
  induction ds using List.reverseRecOn with
  | nil => simp [ofDigits]
  | append_singleton ds c ih =>
    have hds' := ih fun d hd => hds d (List.mem_append_left _ hd)
    have hc := Char.isDigit_iff_toNat.mp (hds c (by simp))
    rw [ofDigits_append_singleton, List.length_append, List.length_singleton, pow_succ]
    simp at hc ⊢
    omega

theorem isDigit_of_mem_digits (h : c ∈ digits n) : c.isDigit = true := by
  fun_induction digits n with
  | case1 n hn =>
    rw [List.mem_singleton.mp h]
    exact isDigit_digit n
  | case2 n hn ih =>
    rcases List.mem_append.mp h with h | h
    · exact ih h
    · rw [List.mem_singleton.mp h]
      exact isDigit_digit n

theorem digits_ne_nil (n : Nat) : digits n ≠ [] := by
  unfold digits
  split_ifs <;> simp

theorem length_digits_le (hw : 0 < w) (h : n < 10 ^ w) : (digits n).length ≤ w := by
  fun_induction digits n generalizing w with
  | case1 n hn => exact hw
  | case2 n hn ih =>
    obtain ⟨v, rfl⟩ : ∃ v, w = v + 1 := ⟨w - 1, by omega⟩
    have hv : 0 < v := by
      rcases Nat.eq_zero_or_pos v with rfl | hv
      · simp at h
        omega
      · exact hv
    have := ih hv (by rw [pow_succ] at h; omega)
    simp
    omega

/-! ## Fixed widths -/

theorem ofDigits_zeros (k : Nat) (ds : List Char) :
    ofDigits (List.replicate k '0' ++ ds) = ofDigits ds := by
  induction k with
  | zero => rfl
  | succ k ih =>
    rw [List.replicate_succ, List.cons_append, ← ih]
    rfl

theorem ofDigits_padded (w n : Nat) : ofDigits (padded w n) = n := by
  rw [padded, padLeft, ofDigits_zeros, ofDigits_digits]

theorem isDigit_of_mem_padded (h : c ∈ padded w n) : c.isDigit = true := by
  rcases List.mem_append.mp h with h | h
  · rw [List.eq_of_mem_replicate h]
    rfl
  · exact isDigit_of_mem_digits h

theorem length_padded (hw : 0 < w) (h : n < 10 ^ w) : (padded w n).length = w := by
  have := length_digits_le hw h
  simp [padded, padLeft]
  omega

theorem padded_ne_nil (w n : Nat) : padded w n ≠ [] := by
  simp [padded, padLeft, digits_ne_nil]

theorem padded_zero (n : Nat) : padded 0 n = digits n := by
  simp [padded, padLeft]

theorem digit_mod (n : Nat) : digit (n % 10) = digit n := by
  rw [digit, Nat.mod_mod]
  rfl

theorem padded_succ (hw : 0 < w) (n : Nat) : padded (w + 1) n = padded w (n / 10) ++ [digit n] := by
  unfold padded padLeft
  rw [digits]
  split_ifs with h
  · obtain ⟨v, rfl⟩ : ∃ v, w = v + 1 := ⟨w - 1, by omega⟩
    have hzero : digits (n / 10) = ['0'] := by
      rw [Nat.div_eq_of_lt h, digits_of_lt (by decide)]
      rfl
    rw [hzero]
    simp [List.replicate_succ']
  · simp

/-- A width is that of the leading digits and that of the others. -/
theorem padded_add (hv : 0 < v) (hw : 0 < w) (n : Nat) :
    padded (v + w) n = padded v (n / 10 ^ w) ++ padded w (n % 10 ^ w) := by
  induction w, hw using Nat.le_induction generalizing n with
  | base =>
    have hone : padded 1 (n % 10 ^ 1) = [digit n] := by
      rw [pow_one, padded, digits_of_lt (Nat.mod_lt n (by decide)), digit_mod]
      rfl
    rw [padded_succ hv, hone, pow_one]
  | succ w hw ih =>
    rw [← Nat.add_assoc, padded_succ (by omega), ih, padded_succ hw, ← digit_mod (n % 10 ^ (w + 1)),
      Nat.div_div_eq_div_mul, ← pow_succ', Nat.pow_succ, Nat.mod_mul_left_mod,
      Nat.mod_mul_left_div_self, digit_mod, List.append_assoc]

theorem digit_ofDigits_append (h : c.isDigit = true) (ds : List Char) :
    digit (ofDigits (ds ++ [c])) = c := by
  have hlast : digit (c.toNat - '0'.toNat) = c :=
    forall_isDigit (P := fun c => digit (c.toNat - '0'.toNat) = c) (by decide) h
  rw [ofDigits_append_singleton, ← digit_mod, Nat.mul_add_mod, digit_mod, hlast]

/-- Digits are the number they write, in as many places. -/
theorem padded_ofDigits (hne : ds ≠ []) (hds : ∀ c ∈ ds, c.isDigit = true) :
    padded ds.length (ofDigits ds) = ds := by
  induction ds using List.reverseRecOn with
  | nil => exact absurd rfl hne
  | append_singleton ds c ih =>
    have hc := hds c (by simp)
    have hlt : ofDigits [c] < 10 ^ [c].length := ofDigits_lt (by simpa using hc)
    have hlast := digit_ofDigits_append hc ds
    rcases eq_or_ne ds [] with rfl | hds'
    · rw [List.nil_append] at hlast ⊢
      rw [List.length_singleton, padded, digits_of_lt (by simpa using hlt), hlast]
      rfl
    · have hfront : ofDigits (ds ++ [c]) / 10 = ofDigits ds := by
        rw [ofDigits_append_singleton]
        have hone : ofDigits [c] = c.toNat - '0'.toNat := by simp [ofDigits]
        simp at hlt
        omega
      rw [List.length_append, List.length_singleton, padded_succ (List.length_pos_iff.mpr hds'),
        hfront, hlast, ih hds' fun d hd => hds d (List.mem_append_left _ hd)]

theorem padded_ofDigits_of_length (hw : 0 < w) (hlength : ds.length = w)
    (hds : ∀ c ∈ ds, c.isDigit = true) : padded w (ofDigits ds) = ds := by
  subst hlength
  exact padded_ofDigits (List.ne_nil_of_length_pos hw) hds

/-- A written number starts with a digit. -/
theorem padded_append (w n : Nat) (rest : List Char) :
    ∃ c cs, c.isDigit = true ∧ padded w n ++ rest = c :: cs := by
  obtain ⟨c, cs, h⟩ := List.exists_cons_of_ne_nil (padded_ne_nil w n)
  exact ⟨c, cs ++ rest, isDigit_of_mem_padded (h ▸ List.mem_cons_self), by rw [h]; rfl⟩

/-! ## Reading them -/

/-- A reader goes on with what one of its steps has read. -/
theorem bind_of_eq_some {α β : Type} {o : Option α} {a : α} (h : o = some a) (f : α → Option β) :
    (o >>= f) = f a := by
  rw [h]
  rfl

theorem char?_self (c : Char) (rest : List Char) : char? c (c :: rest) = some rest := if_pos rfl

theorem char?_eq_some : char? c cs = some rest ↔ cs = c :: rest := by
  rcases cs with _ | ⟨d, cs⟩ <;> simp [char?]

theorem isBlank_of_isDigit (h : c.isDigit = true) : isBlank c = false :=
  forall_isDigit (P := fun c => isBlank c = false) (by decide) h

/-- The digits in front of a text end where its number does, or at the most that are read. -/
theorem takeWhile_take_append (hds : ∀ c ∈ ds, c.isDigit = true)
    (hrest : most ≤ ds.length ∨ ∀ c ∈ rest.head?, c.isDigit = false) :
    ((ds ++ rest).take most).takeWhile Char.isDigit = ds.take most := by
  have hstop : (rest.take (most - ds.length)).takeWhile Char.isDigit = [] := by
    rcases hrest with h | h
    · simp [Nat.sub_eq_zero_of_le h]
    · rcases rest with _ | ⟨c, rest⟩
      · simp
      · have hc : c.isDigit = false := by simpa using h
        rcases most - ds.length with _ | k
        · rfl
        · simp [hc]
  rw [List.take_append, List.takeWhile_append_of_pos fun c hc => hds c (List.mem_of_mem_take hc),
    hstop, List.append_nil]

theorem number?_append (hds : ∀ c ∈ ds, c.isDigit = true) (hleast : least ≤ ds.length)
    (hmost : ds.length ≤ most)
    (hrest : most ≤ ds.length ∨ ∀ c ∈ rest.head?, c.isDigit = false) :
    number? least most (ds ++ rest) = some (ofDigits ds, rest) := by
  simp only [number?, takeWhile_take_append hds hrest, List.take_of_length_le hmost]
  rw [if_neg (not_lt.mpr hleast), List.drop_left]

/-- Digits in front of `rest` that a reader of `least` to `most` digits takes, and no more. -/
structure TakesDigits (least most : Nat) (ds rest : List Char) : Prop where
  isDigit : ∀ c ∈ ds, c.isDigit = true
  least_le : least ≤ ds.length
  le_most : ds.length ≤ most
  stops : most ≤ ds.length ∨ ∀ c ∈ rest.head?, c.isDigit = false

theorem number?_eq_some : number? least most cs = some (n, rest)
    ↔ ∃ ds, cs = ds ++ rest ∧ TakesDigits least most ds rest ∧ n = ofDigits ds := by
  constructor
  · intro h
    obtain ⟨ds, hds⟩ : ∃ ds, (cs.take most).takeWhile Char.isDigit = ds := ⟨_, rfl⟩
    have hdigits : ∀ c ∈ ds, c.isDigit = true :=
      hds ▸ List.all_eq_true.mp List.all_takeWhile
    have hsplit : cs = ds ++ cs.drop ds.length := by
      have hprefix : ds <+: cs :=
        hds ▸ (List.takeWhile_prefix _).trans (List.take_prefix most cs)
      exact (List.prefix_iff_eq_append.mp hprefix).symm
    have hmost : ds.length ≤ most := by
      rw [← hds]
      exact (List.takeWhile_prefix _).length_le.trans (List.length_take_le _ _)
    simp only [number?, hds] at h
    split_ifs at h with hleast
    obtain ⟨rfl, rfl⟩ := Prod.mk.inj (Option.some.inj h)
    refine ⟨ds, hsplit, ⟨hdigits, not_lt.mp hleast, hmost, ?_⟩, rfl⟩
    rcases hrest : cs.drop ds.length with _ | ⟨c, rest⟩
    · simp
    · refine or_iff_not_imp_left.mpr fun hlong => ?_
      rw [hrest] at hsplit
      obtain ⟨k, hk⟩ : ∃ k, most - ds.length = k + 1 := ⟨most - ds.length - 1, by omega⟩
      rw [hsplit, List.take_append, List.take_of_length_le hmost,
        List.takeWhile_append_of_pos hdigits, hk, List.take_succ_cons] at hds
      simpa [List.takeWhile_cons] using hds
  · rintro ⟨ds, rfl, h, rfl⟩
    exact number?_append h.isDigit h.least_le h.le_most h.stops

theorem number?_eq_none (hds : ∀ c ∈ ds, c.isDigit = true) (hleast : ds.length < least)
    (hrest : ∀ c ∈ rest.head?, c.isDigit = false) : number? least most (ds ++ rest) = none := by
  simp only [number?, takeWhile_take_append hds (Or.inr hrest)]
  exact if_pos ((List.length_take_le' most ds).trans_lt hleast)

theorem number?_padded (hw : 0 < w) (hleast : least ≤ w) (h : n < 10 ^ w) (rest : List Char) :
    number? least w (padded w n ++ rest) = some (n, rest) := by
  have hlength := length_padded hw h
  rw [number?_append (fun c => isDigit_of_mem_padded) (by omega) hlength.le (Or.inl hlength.ge),
    ofDigits_padded]

theorem number?_two (h : n < 100) (rest : List Char) :
    number? 2 2 (padded 2 n ++ rest) = some (n, rest) := number?_padded (by decide) le_rfl h rest

theorem number?_four (h : n < 10000) (rest : List Char) :
    number? 4 4 (padded 4 n ++ rest) = some (n, rest) := number?_padded (by decide) le_rfl h rest

/-- The whole of a text that is a number. -/
theorem numeral?_append (hleast : least ≤ (padded w n).length)
    (hrest : ∀ c ∈ rest.head?, c.isDigit = false) :
    numeral? least (padded w n ++ rest) = some (n, rest) := by
  rw [numeral?, number?_append (fun c => isDigit_of_mem_padded) hleast (by simp) (Or.inr hrest),
    ofDigits_padded]

theorem wholeNumber?_padded (w n : Nat) : wholeNumber? (padded w n) = some n := by
  have hread : numeral? 1 (padded w n ++ []) = some (n, []) :=
    numeral?_append (List.length_pos_iff.mpr (padded_ne_nil w n)) (by simp)
  rw [List.append_nil] at hread
  simp [wholeNumber?, hread]

theorem wholeNumber?_digits (n : Nat) : wholeNumber? (digits n) = some n := by
  rw [← padded_zero, wholeNumber?_padded]

theorem trimStart_padded (w n : Nat) (rest : List Char) :
    trimStart (padded w n ++ rest) = padded w n ++ rest := by
  obtain ⟨c, cs, hc, heq⟩ := padded_append w n rest
  simp [heq, trimStart, isBlank_of_isDigit hc]

theorem sign?_padded (w n : Nat) (rest : List Char) : sign? (padded w n ++ rest) = none := by
  obtain ⟨c, cs, hc, heq⟩ := padded_append w n rest
  rw [heq]
  unfold sign?
  split <;> simp_all

theorem char?_padded (h : c.isDigit = false) (w n : Nat) (rest : List Char) :
    char? c (padded w n ++ rest) = none := by
  obtain ⟨d, cs, hd, heq⟩ := padded_append w n rest
  rw [heq, char?, if_neg]
  rintro rfl
  simp [h] at hd

end ScriptDate.Text
