import ScriptDate.Proofs.Forms

/-!
# Texts that begin with a number

A text that begins with a sign, or with digits before a mark, is no date by month name
(`monthName?_numeric`) and no mail date (`Rfc2822.instant?_numeric`), so that only a timestamp or a
pattern can read it. The fields of a pattern take up to so many digits (`ReadsUpTo`).
-/

namespace ScriptDate

namespace Text

variable {c : Char} {ds ds' rest rest' : List Char} {least most : Nat}

/-- Of digits before another character none are taken from beyond it. -/
theorem TakesDigits.exists_cons (h : TakesDigits least most ds rest) (hc : c.isDigit = false)
    (hds' : ∀ c ∈ ds', c.isDigit = true) (heq : ds' ++ c :: rest' = ds ++ rest) :
    ∃ d cs, rest = d :: cs ∧ (d.isDigit = true ∨ d = c) := by
  rcases List.append_eq_append_iff.mp heq with ⟨as, rfl, hrest⟩ | ⟨bs, rfl, hrest⟩
  · rcases as with _ | ⟨a, as⟩
    · exact ⟨c, rest', hrest.symm, Or.inr rfl⟩
    · obtain ⟨rfl, -⟩ := List.cons.inj hrest
      have hdigit := h.isDigit c (by simp)
      simp [hc] at hdigit
  · rcases bs with _ | ⟨b, bs⟩
    · exact ⟨c, rest', hrest, Or.inr rfl⟩
    · exact ⟨b, bs ++ c :: rest', hrest, Or.inl (hds' b (by simp))⟩

end Text

namespace Reading

open Calendar Text

variable {c d : Char} {ds cs rest : List Char} {item : Item} {w n : Nat}

/-! ## Fields -/

/-- A field of up to `w` digits, which sets a part. -/
structure ReadsUpTo (w : Nat) (item : Item) (set : Parts → Nat → Parts) : Prop where
  pos : 0 < w
  read (p : Parts) {c : Char} (hc : c.isDigit = true) (cs : List Char) :
    item.read? p (c :: cs) = (number? 1 w (c :: cs)).map fun r => (set p r.1, r.2)

theorem readsUpTo_short (field : ShortField) :
    ReadsUpTo 2 (.short field) fun p n => p.setShort n field where
  pos := by decide
  read p c hc cs := by simp [Item.read?, trimStart, isBlank_of_isDigit hc]

theorem readsUpTo_year : ReadsUpTo 4 .year fun p n => { p with year := n } where
  pos := by decide
  read p c hc cs := by
    have htrim : trimStart (c :: cs) = c :: cs := by simp [trimStart, isBlank_of_isDigit hc]
    have hsign : sign? (c :: cs) = none := by
      unfold sign?
      split <;> simp_all
    simp only [Item.read?, htrim, patternYear?, hsign, Option.map_map]
    rfl

/-- A number that has all the digits its field may have is read by the field. -/
theorem ReadsUpTo.read?_of_full {set : Parts → Nat → Parts} (h : ReadsUpTo w item set)
    (hn : number? w w cs = some (n, rest)) (p : Parts) :
    item.read? p cs = some (set p n, rest) := by
  obtain ⟨ds, rfl, htakes, rfl⟩ := number?_eq_some.mp hn
  have hpos : 1 ≤ ds.length := h.pos.trans_le htakes.least_le
  have hread := number?_append htakes.isDigit hpos htakes.le_most htakes.stops
  obtain ⟨c, ds, rfl⟩ := List.exists_cons_of_ne_nil (List.ne_nil_of_length_pos hpos)
  rw [List.cons_append] at hread ⊢
  rw [h.read p (htakes.isDigit c List.mem_cons_self), hread]
  rfl

/-! ## Texts -/

theorem exists_numeric_cons (hds : ∀ c ∈ ds, c.isDigit = true) (hc : c ∈ marks)
    (rest : List Char) : ∃ d cs, ds ++ c :: rest = d :: cs ∧ Numeric d := by
  rcases ds with _ | ⟨d, ds⟩
  · exact ⟨c, rest, rfl, Or.inr hc⟩
  · exact ⟨d, ds ++ c :: rest, rfl, Or.inl (hds d List.mem_cons_self)⟩

theorem monthName?_numeric (hds : ∀ c ∈ ds, c.isDigit = true) (hc : c ∈ marks)
    (rest : List Char) : monthName? (ds ++ c :: rest) = none := by
  obtain ⟨d, cs, heq, hd⟩ := exists_numeric_cons hds hc rest
  rw [heq]
  exact monthName?_of_numeric hd cs

/-- The day of a mail date is followed by a blank, and not by a mark. -/
theorem Rfc2822.instant?_numeric (hds : ∀ c ∈ ds, c.isDigit = true) (hc : c ∈ marks)
    (rest : List Char) : Rfc2822.instant? (ds ++ c :: rest) = none := by
  obtain ⟨d, cs, heq, hd⟩ := exists_numeric_cons hds hc rest
  rw [heq]
  refine Rfc2822.instant?_of_numeric hd fun r hr => ?_
  rw [← heq] at hr
  obtain ⟨ds', hsplit, htakes, -⟩ := number?_eq_some.mp hr
  obtain ⟨b, rest', hrest, hb⟩ := htakes.exists_cons (isDigit_of_mem_marks hc) hds hsplit
  have hnumeric : Numeric b := by
    rcases hb with hb | rfl
    · exact Or.inl hb
    · exact Or.inr hc
  simp [hrest, Rfc2822.blanks?, isBlank_of_numeric hnumeric]

/-- The year of a timestamp is followed by a hyphen. -/
theorem Rfc3339.instant?_numeric_slash (hds : ∀ c ∈ ds, c.isDigit = true) (rest : List Char) :
    Rfc3339.instant? (ds ++ '/' :: rest) = none := by
  refine Option.bind_eq_none_iff.mpr fun r hr => ?_
  obtain ⟨ds', hsplit, htakes, -⟩ := number?_eq_some.mp hr
  obtain ⟨b, rest', hrest, hb⟩ := htakes.exists_cons (c := '/') (by decide) hds hsplit
  have hne : b ≠ '-' := by
    rintro rfl
    revert hb
    decide
  show (char? '-' r.2).bind _ = none
  simp [hrest, char?, hne]

end Reading

end ScriptDate
