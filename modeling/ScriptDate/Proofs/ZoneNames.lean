import Mathlib
import ScriptDate.Proofs.Blanks
import ScriptDate.Zone.Name

/-!
# The names of zones

A text names a zone when the name between its blanks is one of the words in any case, or a sign
with digits for hours or for hours and minutes, and colons anywhere among these (`Zone.ofText_iff`).
The layouts that are documented are those of them whose colons are in place: none, or one between
hours and minutes.
-/

namespace ScriptDate

open Text

namespace Text

variable {cs : List Char} {c w : Char}

/-! ## Words in any case -/

/-- A word, each of its letters as it is or as a capital. -/
def AnyCase (word : String) (cs : List Char) : Prop :=
  List.Forall₂ (fun w c => c = w ∨ c = w.toUpper) word.toList cs

theorem toLower_eq_iff (hw : w.isLower = true) : c.toLower = w ↔ c = w ∨ c = w.toUpper := by
  have hself : w.toLower = w := Char.toLower_eq_of_not_isUpper (Char.not_isUpper_of_isLower hw)
  constructor
  · rintro rfl
    by_cases hc : c.isUpper = true
    · right
      rw [Char.toUpper_toLower_eq_toUpper,
        Char.toUpper_eq_of_not_isLower (Char.not_isLower_of_isUpper hc)]
    · exact Or.inl (Char.toLower_eq_of_not_isUpper hc).symm
  · rintro (rfl | rfl)
    · exact hself
    · rw [Char.toLower_toUpper_eq_toLower, hself]

theorem map_toLower_eq_iff : ∀ {ws cs : List Char}, (∀ w ∈ ws, w.isLower = true) →
    (cs.map Char.toLower = ws ↔ List.Forall₂ (fun w c => c = w ∨ c = w.toUpper) ws cs)
  | [], cs, _ => by simp [List.forall₂_nil_left_iff]
  | w :: ws, [], _ => by simp [List.forall₂_nil_right_iff]
  | w :: ws, c :: cs, h => by
    rw [List.map_cons, List.cons.injEq, toLower_eq_iff (h w List.mem_cons_self),
      map_toLower_eq_iff fun x hx => h x (List.mem_cons_of_mem w hx), List.forall₂_cons]

theorem anyCase_iff {word : String} (h : ∀ w ∈ word.toList, w.isLower = true) :
    AnyCase word cs ↔ String.ofList (cs.map Char.toLower) = word := by
  rw [← String.toList_inj, String.toList_ofList, map_toLower_eq_iff h, AnyCase]

/-! ## Offsets -/

/-- The digits of hours, and of minutes when these are given. -/
def offsetDigits (hours : Nat) : Option Nat → List Char
  | none => padded 2 hours
  | some minutes => padded 2 hours ++ padded 2 minutes

/-- The layouts of an offset after its sign: hours, or hours and minutes with or without a colon
between them. -/
inductive Documented : List Char → Nat → Option Nat → Prop
  | hours (h : Nat) : Documented (padded 2 h) h none
  | joined (h m : Nat) : Documented (padded 2 h ++ padded 2 m) h (some m)
  | colon (h m : Nat) : Documented (padded 2 h ++ ':' :: padded 2 m) h (some m)

/-- The digits of an offset after its sign, and colons anywhere. -/
def WithColons (rest : List Char) (hours : Nat) (minutes : Option Nat) : Prop :=
  rest.filter (· != ':') = offsetDigits hours minutes

/-- A text has no colon, or one in the middle of what follows its sign. -/
def ColonsInPlace (cs : List Char) : Prop :=
  ':' ∉ cs ∨ ∃ s d₁ d₂ d₃ d₄ : Char, cs = [s, d₁, d₂, ':', d₃, d₄] ∧ ':' ∉ [s, d₁, d₂, d₃, d₄]

theorem colon_not_mem_padded (w n : Nat) : ':' ∉ padded w n := fun h =>
  absurd (isDigit_of_mem_padded h) (by decide)

theorem filter_colon (h : ':' ∉ cs) : cs.filter (· != ':') = cs := by
  rw [List.filter_eq_self]
  intro c hc
  have hne : c ≠ ':' := fun hcolon => h (hcolon ▸ hc)
  simpa using hne

theorem filter_padded (w n : Nat) : (padded w n).filter (· != ':') = padded w n :=
  filter_colon (colon_not_mem_padded w n)

theorem padded_two_eq {n : Nat} (h : n < 100) : padded 2 n = [digit (n / 10), digit n] := by
  rw [padded_succ Nat.one_pos, padded, digits_of_lt (by omega)]
  rfl

theorem isDigit_of_mem_offsetDigits {h : Nat} {m : Option Nat} {c : Char}
    (hc : c ∈ offsetDigits h m) : c.isDigit = true := by
  cases m with
  | none => exact isDigit_of_mem_padded hc
  | some m =>
    rcases List.mem_append.mp hc with hc | hc
    · exact isDigit_of_mem_padded hc
    · exact isDigit_of_mem_padded hc

theorem documented_of_withColons {rest : List Char} {h : Nat} {m : Option Nat} (hh : h ≤ 23)
    (hrest : WithColons rest h m) {s : Char} (hplace : ColonsInPlace (s :: rest)) :
    Documented rest h m := by
  have hdigits := hrest
  unfold WithColons at hdigits
  rcases hplace with hnone | ⟨s, d₁, d₂, d₃, d₄, hcs, hnone⟩
  · rw [filter_colon fun h => hnone (List.mem_cons_of_mem s h)] at hdigits
    subst hdigits
    cases m with
    | none => exact .hours h
    | some m => exact .joined h m
  · simp only [List.cons.injEq] at hcs
    obtain ⟨-, rfl⟩ := hcs
    have hfour : [d₁, d₂, d₃, d₄] = offsetDigits h m := by
      simp only [List.mem_cons, List.not_mem_nil, or_false, not_or] at hnone
      obtain ⟨-, h₁, h₂, h₃, h₄⟩ := hnone
      rw [← hdigits]
      simp [Ne.symm h₁, Ne.symm h₂, Ne.symm h₃, Ne.symm h₄]
    have htwo := padded_two_eq (n := h) (by omega)
    cases m with
    | none => simp [offsetDigits, htwo] at hfour
    | some m =>
      rw [offsetDigits, htwo] at hfour
      simp only [List.cons_append, List.nil_append, List.cons.injEq] at hfour
      obtain ⟨rfl, rfl, hminutes⟩ := hfour
      have hcolon := Documented.colon h m
      rw [htwo, ← hminutes] at hcolon
      exact hcolon

theorem withColons_of_documented {rest : List Char} {h : Nat} {m : Option Nat} (hh : h ≤ 23)
    (hm : m.getD 0 ≤ 59) (hrest : Documented rest h m) {s : Char} (hs : s ≠ ':') :
    WithColons rest h m ∧ ColonsInPlace (s :: rest) := by
  unfold WithColons
  cases hrest with
  | hours =>
    refine ⟨filter_padded 2 h, Or.inl ?_⟩
    simp [hs.symm, colon_not_mem_padded]
  | joined h m =>
    refine ⟨by simp [offsetDigits, filter_padded], Or.inl ?_⟩
    simp [hs.symm, colon_not_mem_padded]
  | colon h m =>
    refine ⟨by simp [offsetDigits, filter_padded], Or.inr ?_⟩
    have hh' := padded_two_eq (n := h) (by omega)
    have hm' := padded_two_eq (n := m) (by simp at hm; omega)
    have hnone : ':' ∉ s :: (padded 2 h ++ padded 2 m) := by
      simp [hs.symm, colon_not_mem_padded]
    rw [hh', hm'] at hnone ⊢
    exact ⟨s, _, _, _, _, rfl, hnone⟩

end Text

/-! ## Names -/

/-- A sign and its factor. -/
def IsSign (s : Char) (factor : Int) : Prop := s = '+' ∧ factor = 1 ∨ s = '-' ∧ factor = -1

theorem sign?_eq_some {cs rest : List Char} {factor : Int} :
    sign? cs = some (factor, rest) ↔ ∃ s, cs = s :: rest ∧ IsSign s factor := by
  constructor
  · intro h
    unfold sign? at h
    split at h <;> cases h
    · exact ⟨'+', rfl, Or.inl ⟨rfl, rfl⟩⟩
    · exact ⟨'-', rfl, Or.inr ⟨rfl, rfl⟩⟩
  · rintro ⟨s, rfl, ⟨rfl, rfl⟩ | ⟨rfl, rfl⟩⟩
    · rfl
    · rfl

namespace FixedOffset

variable {cs rest ds : List Char} {factor : Int} {hours minutes : Nat} {o : FixedOffset}

/-- An offset of whole minutes, east or west of UTC. -/
structure IsOffset (factor : Int) (h m : Nat) (o : FixedOffset) : Prop where
  hours : h ≤ 23
  minutes : m ≤ 59
  seconds : o.seconds = factor * (60 * (60 * h + m))

theorem ofParts?_eq_some (hfactor : factor.natAbs = 1) :
    ofParts? factor hours minutes = some o ↔ IsOffset factor hours minutes o := by
  have hseconds : factor * (3600 * (hours : Int) + 60 * minutes)
      = factor * (60 * (60 * hours + minutes)) := by
    congr 1
    omega
  unfold ofParts?
  constructor
  · intro h
    split at h
    · rename_i hbounds
      simp only [Bool.and_eq_true, decide_eq_true_eq] at hbounds
      dsimp only at h
      split at h <;> cases h
      exact ⟨hbounds.1, hbounds.2, hseconds⟩
    · cases h
  · intro h
    have hbounds : hours ≤ 23 ∧ minutes ≤ 59 := ⟨h.hours, h.minutes⟩
    have hday : (factor * (3600 * (hours : Int) + 60 * minutes)).natAbs < 86400 := by
      rw [Int.natAbs_mul, hfactor]
      omega
    rw [if_pos (by simpa using hbounds)]
    dsimp only
    rw [dif_pos hday]
    obtain ⟨seconds, hunder⟩ := o
    simp only [Option.some.injEq, FixedOffset.mk.injEq]
    exact hseconds.trans h.seconds.symm

/-- The offset of digits that write hours, or hours and minutes. -/
theorem ofDigits_eq_some (hfactor : factor.natAbs = 1) :
    (if !ds.all Char.isDigit then none
      else if ds.length = 2 then ofParts? factor (ofDigits ds) 0
      else if ds.length = 4 then
        ofParts? factor (ofDigits (ds.take 2)) (ofDigits (ds.drop 2))
      else none) = some o
    ↔ ∃ h m, ds = offsetDigits h m ∧ IsOffset factor h (m.getD 0) o := by
  constructor
  · intro h
    split at h
    · cases h
    · rename_i hall
      have hdigits : ∀ c ∈ ds, c.isDigit = true := by simpa using hall
      split at h
      · rename_i htwo
        exact ⟨ofDigits ds, none, (padded_ofDigits_of_length Nat.two_pos htwo hdigits).symm,
          (ofParts?_eq_some hfactor).mp h⟩
      · split at h
        · rename_i hfour
          have hhours : padded 2 (ofDigits (ds.take 2)) = ds.take 2 :=
            padded_ofDigits_of_length Nat.two_pos (by simp [hfour]) fun c hc =>
              hdigits c (List.mem_of_mem_take hc)
          have hminutes : padded 2 (ofDigits (ds.drop 2)) = ds.drop 2 :=
            padded_ofDigits_of_length Nat.two_pos (by simp [hfour]) fun c hc =>
              hdigits c (List.mem_of_mem_drop hc)
          refine ⟨ofDigits (ds.take 2), some (ofDigits (ds.drop 2)), ?_,
            (ofParts?_eq_some hfactor).mp h⟩
          rw [offsetDigits, hhours, hminutes, List.take_append_drop]
        · cases h
  · rintro ⟨h, m, rfl, ho⟩
    have hh := ho.hours
    have hhours : (padded 2 h).length = 2 := length_padded (by decide) (by omega)
    have hall : (offsetDigits h m).all Char.isDigit = true := by
      rw [List.all_eq_true]
      exact fun c => isDigit_of_mem_offsetDigits
    rw [hall]
    cases m with
    | none =>
      simp only [offsetDigits, hhours, ofDigits_padded]
      exact (ofParts?_eq_some hfactor).mpr ho
    | some m =>
      have hm := ho.minutes
      have hminutes : (padded 2 m).length = 2 := length_padded (by decide) (by simp at hm; omega)
      simp only [offsetDigits, List.length_append, hhours, hminutes]
      rw [List.take_left' hhours, List.drop_left' hhours, ofDigits_padded, ofDigits_padded]
      exact (ofParts?_eq_some hfactor).mpr ho

theorem ofText?_eq_some : ofText? cs = some o ↔ ∃ s factor rest h m, cs = s :: rest
    ∧ IsSign s factor ∧ WithColons rest h m ∧ IsOffset factor h (m.getD 0) o := by
  have hfactor {s : Char} {factor : Int} (h : IsSign s factor) : factor.natAbs = 1 := by
    rcases h with ⟨-, rfl⟩ | ⟨-, rfl⟩
    · rfl
    · rfl
  unfold ofText?
  constructor
  · intro h
    obtain ⟨⟨factor, rest⟩, hsign, hparts⟩ := Option.bind_eq_some_iff.mp h
    obtain ⟨s, rfl, hs⟩ := sign?_eq_some.mp hsign
    obtain ⟨hours, minutes, hds, ho⟩ := (ofDigits_eq_some (hfactor hs)).mp hparts
    exact ⟨s, factor, rest, hours, minutes, rfl, hs, hds, ho⟩
  · rintro ⟨s, factor, rest, h, m, rfl, hs, hrest, ho⟩
    refine Option.bind_eq_some_iff.mpr ⟨_, sign?_eq_some.mpr ⟨s, rfl, hs⟩, ?_⟩
    exact (ofDigits_eq_some (hfactor hs)).mpr ⟨h, m, hrest, ho⟩

end FixedOffset

namespace Zone

variable {host : Zone.Rules} {cs v : List Char} {zone : Zone}

/-- The names of zones, with a layout for the offsets among them. -/
inductive Named (host : Zone.Rules) (layout : List Char → Nat → Option Nat → Prop) :
    List Char → Zone → Prop
  | host {cs : List Char} (h : AnyCase "local" cs ∨ AnyCase "system" cs) :
    Named host layout cs (.host host)
  | utc {cs : List Char} (h : AnyCase "utc" cs ∨ AnyCase "gmt" cs ∨ AnyCase "z" cs) :
    Named host layout cs utc
  | offset {s : Char} {factor : Int} {rest : List Char} {h : Nat} {m : Option Nat}
    {o : FixedOffset} (hs : IsSign s factor) (hrest : layout rest h m)
    (ho : FixedOffset.IsOffset factor h (m.getD 0) o) : Named host layout (s :: rest) (.fixed o)

def zoneWords : List String := ["local", "system", "utc", "gmt", "z"]

theorem anyCase_zoneWord {word : String} (h : word ∈ zoneWords) :
    AnyCase word cs ↔ String.ofList (cs.map Char.toLower) = word := by
  have hlower : ∀ word ∈ zoneWords, word.toList.all Char.isLower = true := by decide
  exact anyCase_iff (List.all_eq_true.mp (hlower word h))

theorem not_anyCase_of_isSign {s : Char} {factor : Int} (hs : IsSign s factor) (rest : List Char) :
    ∀ word ∈ zoneWords, String.ofList ((s :: rest).map Char.toLower) ≠ word := by
  have table : ∀ word ∈ zoneWords,
      word.toList.head? ≠ some '+' ∧ word.toList.head? ≠ some '-' := by decide
  rintro word hword rfl
  rcases hs with ⟨rfl, -⟩ | ⟨rfl, -⟩
  · exact (table _ hword).1 (by simp)
  · exact (table _ hword).2 (by simp)

theorem ofName?_eq_some : ofName? host cs = some zone ↔ Named host WithColons cs zone := by
  have hword {word : String} (h : word ∈ zoneWords) :
      AnyCase word cs ↔ String.ofList (cs.map Char.toLower) = word := anyCase_zoneWord h
  unfold ofName?
  dsimp only
  constructor
  · intro h
    split at h
    · rename_i hlocal
      cases h
      refine .host ?_
      rw [hword (by decide), hword (by decide)]
      simpa using hlocal
    · split at h
      · rename_i hutc
        cases h
        refine .utc ?_
        rw [hword (by decide), hword (by decide), hword (by decide)]
        simpa [or_assoc] using hutc
      · obtain ⟨o, ho, rfl⟩ := Option.map_eq_some_iff.mp h
        obtain ⟨s, factor, rest, hours, minutes, rfl, hs, hrest, ho⟩ :=
          FixedOffset.ofText?_eq_some.mp ho
        exact .offset hs hrest ho
  · intro h
    cases h with
    | host h =>
      rw [hword (by decide), hword (by decide)] at h
      rw [if_pos (by simpa using h)]
    | utc h =>
      rw [hword (by decide), hword (by decide), hword (by decide)] at h
      rcases h with h | h | h <;> simp [h]
    | @offset s factor rest hours minutes o hs hrest ho =>
      have hnot := not_anyCase_of_isSign hs rest
      rw [if_neg, if_neg]
      · have htext : FixedOffset.ofText? (s :: rest) = some o :=
          FixedOffset.ofText?_eq_some.mpr ⟨s, factor, rest, hours, minutes, rfl, hs, hrest, ho⟩
        rw [htext]
        rfl
      · simp only [hnot "utc" (by decide), hnot "gmt" (by decide), hnot "z" (by decide),
          decide_false, Bool.or_self, Bool.false_eq_true, not_false_eq_true]
      · simp only [hnot "local" (by decide), hnot "system" (by decide), decide_false,
          Bool.or_self, Bool.false_eq_true, not_false_eq_true]

theorem ofText_eq_ok {text : String} :
    ofText host text = .ok zone ↔ ofName? host (trim text.toList) = some zone := by
  unfold ofText
  split
  · rename_i found hfound
    rw [hfound, Except.ok.injEq, Option.some.injEq]
  · rename_i hnone
    simp [hnone]

theorem colon_not_mem_of_anyCase {word : String} (hword : word ∈ zoneWords)
    (h : AnyCase word cs) : ':' ∉ cs := by
  have table : ∀ word ∈ zoneWords, Char.toLower ':' ∉ word.toList := by decide
  rw [anyCase_zoneWord hword] at h
  intro hmem
  refine table word hword ?_
  rw [← h, String.toList_ofList]
  exact List.mem_map_of_mem hmem

/-- The documented names are those that are read and have their colons in place. -/
theorem named_documented_iff :
    Named host Documented cs zone ↔ Named host WithColons cs zone ∧ ColonsInPlace cs := by
  constructor
  · intro h
    cases h with
    | host h =>
      refine ⟨.host h, Or.inl ?_⟩
      rcases h with h | h <;> exact colon_not_mem_of_anyCase (by decide) h
    | utc h =>
      refine ⟨.utc h, Or.inl ?_⟩
      rcases h with h | h | h <;> exact colon_not_mem_of_anyCase (by decide) h
    | @offset s factor rest hours minutes o hs hrest ho =>
      have hs' : s ≠ ':' := by
        rcases hs with ⟨rfl, -⟩ | ⟨rfl, -⟩ <;> decide
      obtain ⟨hcolons, hplace⟩ := withColons_of_documented ho.hours ho.minutes hrest hs'
      exact ⟨.offset hs hcolons ho, hplace⟩
  · rintro ⟨h, hplace⟩
    cases h with
    | host h => exact .host h
    | utc h => exact .utc h
    | offset hs hrest ho =>
      exact .offset hs (documented_of_withColons ho.hours hrest hplace) ho

/-- A text names a zone exactly when the name between its blanks is read as one, and is an error
as it stands otherwise. The documented names are those with their colons in place. -/
theorem ofText_iff (host : Zone.Rules) (text : String) :
    (∀ zone, ofText host text = .ok zone
      ↔ ∃ v, Stripped text.toList v ∧ Named host WithColons v zone)
    ∧ ((∃ zone, ofText host text = .ok zone) ∨ ofText host text = .error (.invalidZone text))
    ∧ ∀ v, Stripped text.toList v → ∀ zone,
      (Named host Documented v zone ↔ ofText host text = .ok zone ∧ ColonsInPlace v) := by
  refine ⟨fun zone => ?_, ?_, fun v hv zone => ?_⟩
  · rw [ofText_eq_ok, ofName?_eq_some]
    constructor
    · exact fun h => ⟨_, stripped_trim _, h⟩
    · rintro ⟨v, hv, h⟩
      rwa [trim_eq_of_stripped hv]
  · unfold ofText
    split
    · rename_i zone _
      exact Or.inl ⟨zone, rfl⟩
    · exact Or.inr rfl
  · rw [named_documented_iff, ofText_eq_ok, ofName?_eq_some, trim_eq_of_stripped hv]

theorem ofText_iff_west_of_utc :
    Stripped " -05:30 ".toList "-05:30".toList
    ∧ ofText ⟨0, none⟩ " -05:30 " = .ok (.fixed ⟨-19800, by decide⟩)
    ∧ Named ⟨0, none⟩ Documented "-05:30".toList (.fixed ⟨-19800, by decide⟩) := by
  have hv : Stripped " -05:30 ".toList "-05:30".toList := stripped_iff.mpr (by decide)
  have hok : ofText ⟨0, none⟩ " -05:30 " = .ok (.fixed ⟨-19800, by decide⟩) := by decide
  have hplace : ColonsInPlace "-05:30".toList :=
    Or.inr ⟨'-', '0', '5', '3', '0', by decide, by decide⟩
  exact ⟨hv, hok, ((ofText_iff ⟨0, none⟩ " -05:30 ").2.2 _ hv _).mpr ⟨hok, hplace⟩⟩

/-- A colon among the digits of the hours is no documented layout, and yet the text is read. -/
theorem ofText_stray_colon :
    ofText ⟨0, none⟩ "+1:2" = .ok (.fixed ⟨43200, by decide⟩)
    ∧ ∀ v zone, Stripped "+1:2".toList v → ¬ Named ⟨0, none⟩ Documented v zone := by
  refine ⟨by decide, fun v zone hv h => ?_⟩
  have htext : v = ['+', '1', ':', '2'] := (trim_eq_of_stripped hv).symm.trans (by decide)
  subst htext
  rcases (named_documented_iff.mp h).2 with hnone | ⟨s, d₁, d₂, d₃, d₄, hcs, -⟩
  · exact hnone (by decide)
  · simp at hcs

end Zone

end ScriptDate
