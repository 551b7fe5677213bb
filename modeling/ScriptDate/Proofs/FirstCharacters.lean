import ScriptDate.Proofs.Blanks
import ScriptDate.Reading.Basic

/-!
# The first character of a text

Dates by month name and the weekdays of mail dates begin with a name, and all other forms with a
number. So the first character of a text rules out the ones or the others: what stands in a number
(`Numeric`) begins no name, and what stands in a name (`InName`) begins no number.
-/

namespace ScriptDate.Reading

open Calendar Text

variable {c : Char} {cs rest : List Char} {names : List String} {k : Nat}

/-! ## Forms with names -/

theorem monthName?_of_words {w : List Char} {ws : List (List Char)} (hwords : words cs = w :: ws)
    (hname : ∀ name ∈ monthNames, name.toList ≠ w) : monthName? cs = none := by
  have hfind : monthNames.findIdx? (fun n => n.toList = w) = none := by
    simpa only [List.findIdx?_eq_none_iff, decide_eq_false_iff_not] using hname
  simp only [monthName?, hwords]
  split
  · rename_i h
    obtain ⟨rfl, -⟩ := List.cons.inj h
    simp [hfind]
  · rfl

theorem monthName?_eq_none (hb : isBlank c = false)
    (hname : ∀ name ∈ monthNames, name.toList.head? ≠ some c) (cs : List Char) :
    monthName? (c :: cs) = none := by
  obtain ⟨w, ws, hwords⟩ := exists_words hb cs
  refine monthName?_of_words hwords fun name hmem heq => hname name hmem ?_
  rw [heq]
  rfl

namespace Rfc2822

theorem name?_eq_none {names : List String}
    (h : ∀ name ∈ names, (name.toList.map Char.toLower).head? ≠ some c.toLower) (cs : List Char) :
    name? names (c :: cs) = none := by
  simp only [name?, Option.map_eq_none_iff, List.findIdx?_eq_none_iff, decide_eq_false_iff_not]
  intro name hmem heq
  exact h name hmem (by rw [heq]; rfl)

theorem weekDay?_of_name? (hname : name? weekDayNames cs = none) :
    weekDay? cs = some (none, cs) := by
  simp [weekDay?, hname]

/-- Without a weekday in front a date begins with the day of the month. -/
theorem instant?_of_number? (hblank : trimStart cs = cs) (hname : name? weekDayNames cs = none)
    (hday : ∀ r ∈ number? 1 2 cs, blanks? r.2 = none) : instant? cs = none := by
  rw [instant?, hblank, weekDay?_of_name? hname]
  show (number? 1 2 (trimStart cs)).bind _ = none
  rw [hblank]
  refine Option.bind_eq_none_iff.mpr fun r hr => ?_
  show (blanks? r.2).bind _ = none
  rw [hday r hr, Option.bind_none]

theorem instant?_of_head (hb : isBlank c = false) (hd : c.isDigit = false)
    (hname : name? weekDayNames (c :: cs) = none) : instant? (c :: cs) = none :=
  instant?_of_number? (by simp [trimStart, hb]) hname (by simp [number?, hd])

end Rfc2822

theorem Rfc3339.instant?_of_head (hd : c.isDigit = false) (cs : List Char) :
    instant? (c :: cs) = none := by
  have hyear : number? 4 4 (c :: cs) = none := by simp [number?, hd]
  show (number? 4 4 (c :: cs)).bind _ = none
  rw [hyear, Option.bind_none]

/-! ## Numbers -/

/-- The characters that stand before or after the numbers of a date. -/
def marks : List Char := ['+', '-', '/']

def Numeric (c : Char) : Prop := c.isDigit = true ∨ c ∈ marks

theorem forall_mem_marks {P : Char → Prop} : (∀ c ∈ marks, P c) ↔ P '+' ∧ P '-' ∧ P '/' := by
  simp [marks]

theorem isDigit_of_mem_marks (hc : c ∈ marks) : c.isDigit = false :=
  forall_mem_marks (P := fun c => c.isDigit = false).mpr (by decide) c hc

/-- What holds of the ten digits and of the marks holds of all that stands in a number. -/
theorem forall_numeric {P : Char → Prop} (table : ∀ k < 10, P (Char.ofNat ('0'.toNat + k)))
    (table' : P '+' ∧ P '-' ∧ P '/') (h : Numeric c) : P c := by
  rcases h with hc | hc
  · exact forall_isDigit table hc
  · exact forall_mem_marks.mpr table' c hc

theorem isBlank_of_numeric (h : Numeric c) : isBlank c = false :=
  forall_numeric (P := fun c => isBlank c = false) (by decide) (by decide) h

theorem monthName?_of_numeric (h : Numeric c) (cs : List Char) : monthName? (c :: cs) = none :=
  monthName?_eq_none (isBlank_of_numeric h) (forall_numeric (P := fun c =>
    ∀ name ∈ monthNames, name.toList.head? ≠ some c) (by decide) (by decide) h) cs

theorem Rfc2822.instant?_of_numeric (h : Numeric c)
    (hday : ∀ r ∈ number? 1 2 (c :: cs), blanks? r.2 = none) : instant? (c :: cs) = none := by
  have hname : name? weekDayNames (c :: cs) = none :=
    name?_eq_none (forall_numeric (P := fun c => ∀ name ∈ weekDayNames,
      (name.toList.map Char.toLower).head? ≠ some c.toLower) (by decide) (by decide) h) cs
  exact instant?_of_number? (by simp [trimStart, isBlank_of_numeric h]) hname hday

/-! ## Names -/

/-- No blank, and nothing that begins a number. -/
def InName (c : Char) : Prop := isBlank c = false ∧ c.isDigit = false ∧ c ≠ '+' ∧ c ≠ '-'

instance (c : Char) : Decidable (InName c) :=
  inferInstanceAs (Decidable (isBlank c = false ∧ c.isDigit = false ∧ c ≠ '+' ∧ c ≠ '-'))

/-- Names of three letters that differ from each other in whatever case. -/
def ThreeLetters (names : List String) : Prop := ∀ k < names.length,
  (names.getD k "").toList.length = 3 ∧ (names.getD k "").toList.all (InName ·) = true
    ∧ names.findIdx? (fun name => name.toList.map Char.toLower
      = (names.getD k "").toList.map Char.toLower) = some k

theorem threeLetters_weekDayNames : ThreeLetters weekDayNames := by
  unfold ThreeLetters
  decide

theorem threeLetters_monthNames : ThreeLetters monthNames := by
  unfold ThreeLetters
  decide

namespace ThreeLetters

theorem inName (h : ThreeLetters names) (hk : k < names.length) :
    ∀ c ∈ (names.getD k "").toList, InName c := fun c hc =>
  of_decide_eq_true (List.all_eq_true.mp (h k hk).2.1 c hc)

theorem exists_cons (h : ThreeLetters names) (hk : k < names.length) :
    ∃ c cs, (names.getD k "").toList = c :: cs ∧ InName c := by
  have hlength := (h k hk).1
  obtain ⟨c, cs, hname⟩ : ∃ c cs, (names.getD k "").toList = c :: cs :=
    List.exists_cons_of_ne_nil (List.ne_nil_of_length_pos (by omega))
  exact ⟨c, cs, hname, h.inName hk c (hname ▸ List.mem_cons_self)⟩

theorem name?_append (h : ThreeLetters names) (hk : k < names.length) (rest : List Char) :
    Rfc2822.name? names ((names.getD k "").toList ++ rest) = some (k, rest) := by
  obtain ⟨hlength, -, hfind⟩ := h k hk
  rw [Rfc2822.name?, ← hlength, List.take_left, List.drop_left, hfind]
  rfl

theorem isWord (h : ThreeLetters names) (hk : k < names.length) :
    IsWord (names.getD k "").toList where
  ne_nil := List.ne_nil_of_length_pos (by have := (h k hk).1; omega)
  visible c hc := (h.inName hk c hc).1

theorem startsVisible (h : ThreeLetters names) (hk : k < names.length) :
    StartsVisible (names.getD k "").toList := by
  obtain ⟨c, cs, hname, hc⟩ := h.exists_cons hk
  exact ⟨c, cs, hname, hc.1⟩

end ThreeLetters

end ScriptDate.Reading
