import Mathlib.Data.List.TakeWhile
import ScriptDate.Proofs.WrittenNumbers

/-!
# White space in texts

How a text falls into words, what is left of it without the blanks around it (`stripped_iff`), and
when there is nothing to trim (`trim_eq_self`).
-/

namespace ScriptDate.Text

variable {c : Char} {w v cs rest : List Char} {n : Nat}

/-! ## Words -/

theorem words_nil : words [] = [] := rfl

theorem exists_words (h : isBlank c = false) (cs : List Char) :
    ∃ w ws, words (c :: cs) = (c :: w) :: ws := by
  unfold words
  rw [if_neg (by simp [h])]
  split
  · exact ⟨_, _, rfl⟩
  · split_ifs
    · exact ⟨_, _, rfl⟩
    · split
      · exact ⟨_, _, rfl⟩
      · exact ⟨_, _, rfl⟩

theorem words_blank (hc : isBlank c = true) (cs : List Char) : words (c :: cs) = words cs := by
  rw [words.eq_def]
  exact if_pos hc

theorem words_spaces (k : Nat) (cs : List Char) :
    words (List.replicate k ' ' ++ cs) = words cs := by
  induction k with
  | zero => rfl
  | succ k ih =>
    rw [List.replicate_succ, List.cons_append, words_blank rfl, ih]

theorem words_append (hne : w ≠ []) (hw : ∀ c ∈ w, isBlank c = false)
    (hrest : ∀ b ∈ rest.head?, isBlank b = true) : words (w ++ rest) = w :: words rest := by
  induction w with
  | nil => exact absurd rfl hne
  | cons c w ih =>
    have hc := hw c List.mem_cons_self
    rcases w with _ | ⟨d, w⟩
    · rw [List.singleton_append, words.eq_def]
      rcases rest with _ | ⟨b, rest⟩
      · simp [hc]
        rfl
      · have hb : isBlank b = true := by simpa using hrest
        simp [hc, hb]
    · have hd := hw d (by simp)
      have hwords := ih (by simp) fun c hc => hw c (List.mem_cons_of_mem _ hc)
      rw [List.cons_append] at hwords
      rw [List.cons_append, List.cons_append, words.eq_def]
      simp [hc, hd, hwords]

theorem words_self (hne : w ≠ []) (hw : ∀ c ∈ w, isBlank c = false) : words w = [w] := by
  have h := words_append hne hw (show ∀ b ∈ ([] : List Char).head?, isBlank b = true by simp)
  rwa [List.append_nil] at h

/-- A text that is one word. -/
structure IsWord (w : List Char) : Prop where
  ne_nil : w ≠ []
  visible : ∀ c ∈ w, isBlank c = false

theorem isWord_iff : IsWord w ↔ w ≠ [] ∧ (w.all fun c => !isBlank c) = true := by
  simp only [List.all_eq_true, Bool.not_eq_true']
  exact ⟨fun h => ⟨h.ne_nil, h.visible⟩, fun h => ⟨h.1, h.2⟩⟩

instance (w : List Char) : Decidable (IsWord w) := decidable_of_iff _ isWord_iff.symm

theorem IsWord.words_space (hw : IsWord w) (rest : List Char) :
    words (w ++ ' ' :: rest) = w :: words rest := by
  have hblank : isBlank ' ' = true := rfl
  rw [words_append hw.ne_nil hw.visible (by simp [hblank]), words_blank hblank]

theorem IsWord.words (hw : IsWord w) : words w = [w] := words_self hw.ne_nil hw.visible

theorem IsWord.append (hw : IsWord w) (hv : IsWord v) : IsWord (w ++ v) where
  ne_nil := List.append_ne_nil_of_left_ne_nil hw.ne_nil v
  visible c hc := (List.mem_append.mp hc).elim (hw.visible c) (hv.visible c)

theorem IsWord.cons (hc : isBlank c = false) (hw : IsWord w) : IsWord (c :: w) where
  ne_nil := List.cons_ne_nil c w
  visible := List.forall_mem_cons.mpr ⟨hc, hw.visible⟩

theorem isWord_padded (w n : Nat) : IsWord (padded w n) where
  ne_nil := padded_ne_nil w n
  visible _ hc := isBlank_of_isDigit (isDigit_of_mem_padded hc)

/-! ## Ends -/

def StartsVisible (cs : List Char) : Prop := ∃ c rest, cs = c :: rest ∧ isBlank c = false

def EndsVisible (cs : List Char) : Prop := ∃ front c, cs = front ++ [c] ∧ isBlank c = false

theorem StartsVisible.append (h : StartsVisible cs) (rest : List Char) :
    StartsVisible (cs ++ rest) := by
  obtain ⟨c, middle, rfl, hc⟩ := h
  exact ⟨c, middle ++ rest, rfl, hc⟩

theorem EndsVisible.append (h : EndsVisible cs) (front : List Char) :
    EndsVisible (front ++ cs) := by
  obtain ⟨middle, c, rfl, hc⟩ := h
  exact ⟨front ++ middle, c, by simp, hc⟩

theorem EndsVisible.cons (h : EndsVisible cs) (c : Char) : EndsVisible (c :: cs) := h.append [c]

theorem startsVisible_padded (w n : Nat) : StartsVisible (padded w n) := by
  obtain ⟨c, cs, hc, heq⟩ := padded_append w n []
  rw [List.append_nil] at heq
  exact ⟨c, cs, heq, isBlank_of_isDigit hc⟩

theorem endsVisible_padded (w n : Nat) : EndsVisible (padded w n) :=
  ⟨_, _, (List.dropLast_concat_getLast (padded_ne_nil w n)).symm,
    isBlank_of_isDigit (isDigit_of_mem_padded (List.getLast_mem _))⟩

/-! ## Blanks around a text -/

/-- What is left of a text without the blanks before and after it. -/
structure Stripped (cs v : List Char) : Prop where
  around : ∃ before after, cs = before ++ v ++ after ∧ ∀ c ∈ before ++ after, isBlank c = true
  starts : ∀ c ∈ v.head?, isBlank c = false
  ends : ∀ c ∈ v.getLast?, isBlank c = false

theorem trimStart_of_blank (h : ∀ c ∈ cs, isBlank c = true) (rest : List Char) :
    trimStart (cs ++ rest) = trimStart rest :=
  List.dropWhile_append_of_pos h

theorem trimStart_of_visible (hne : v ≠ []) (h : ∀ c ∈ v.head?, isBlank c = false)
    (rest : List Char) : trimStart (v ++ rest) = v ++ rest := by
  obtain ⟨c, v, rfl⟩ := List.exists_cons_of_ne_nil hne
  have hc : isBlank c = false := h c rfl
  simp [trimStart, hc]

theorem head_trimStart (cs : List Char) : ∀ c ∈ (trimStart cs).head?, isBlank c = false := by
  intro c hc
  have h := List.head?_dropWhile_not isBlank cs
  rw [show (cs.dropWhile isBlank).head? = some c from hc] at h
  exact h

theorem exists_blanks_trimStart (cs : List Char) :
    ∃ before, cs = before ++ trimStart cs ∧ ∀ c ∈ before, isBlank c = true :=
  ⟨cs.takeWhile isBlank, List.takeWhile_append_dropWhile.symm, fun _ => List.mem_takeWhile_imp⟩

theorem stripped_trim (cs : List Char) : Stripped cs (trim cs) := by
  obtain ⟨before, hbefore, hblank⟩ := exists_blanks_trimStart cs
  obtain ⟨after, hafter, hblank'⟩ := exists_blanks_trimStart (trimStart cs).reverse
  have hend : trimStart cs = trim cs ++ after.reverse := by
    rw [trim, ← List.reverse_append, ← hafter, List.reverse_reverse]
  refine ⟨⟨before, after.reverse, ?_, ?_⟩, ?_, ?_⟩
  · rw [List.append_assoc, ← hend]
    exact hbefore
  · intro c hc
    rcases List.mem_append.mp hc with hc | hc
    · exact hblank c hc
    · exact hblank' c (List.mem_reverse.mp hc)
  · intro c hc
    apply head_trimStart cs
    rw [hend, List.head?_append, Option.mem_def.mp hc]
    rfl
  · intro c hc
    rw [trim, List.getLast?_reverse] at hc
    exact head_trimStart _ c hc

theorem trim_eq_of_stripped (h : Stripped cs v) : trim cs = v := by
  obtain ⟨before, after, rfl, hblank⟩ := h.around
  have hbefore : ∀ c ∈ before, isBlank c = true := fun c hc => hblank c (List.mem_append_left _ hc)
  have hafter : ∀ c ∈ after.reverse, isBlank c = true := fun c hc =>
    hblank c (List.mem_append_right _ (List.mem_reverse.mp hc))
  rcases eq_or_ne v [] with rfl | hv
  -- With nothing left between them, the blanks before take those after along.
  · have hnil : trimStart (before ++ [] ++ after) = [] := by
      rw [← List.append_nil (before ++ [] ++ after), List.append_nil before,
        trimStart_of_blank hblank]
      rfl
    rw [trim, hnil]
    rfl
  · have hends : ∀ c ∈ v.reverse.head?, isBlank c = false := by
      rw [List.head?_reverse]
      exact h.ends
    rw [trim, List.append_assoc, trimStart_of_blank hbefore, trimStart_of_visible hv h.starts,
      List.reverse_append, trimStart_of_blank hafter, ← List.append_nil v.reverse,
      trimStart_of_visible (by simpa using hv) hends, List.append_nil, List.reverse_reverse]

theorem stripped_iff : Stripped cs v ↔ trim cs = v :=
  ⟨trim_eq_of_stripped, fun h => h ▸ stripped_trim cs⟩

/-- A text that begins and ends with no blank is left as it is. -/
theorem trim_eq_self (h : StartsVisible cs) (h' : EndsVisible cs) : trim cs = cs := by
  refine trim_eq_of_stripped ⟨⟨[], [], by simp, by simp⟩, ?_, ?_⟩
  · obtain ⟨c, rest, rfl, hc⟩ := h
    simpa using hc
  · obtain ⟨front, c, rfl, hc⟩ := h'
    simpa using hc

end ScriptDate.Text
