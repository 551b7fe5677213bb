import ScriptDate.Proofs.AnyZone
import ScriptDate.Proofs.NumericTexts

/-!
# The designator of UTC

A local date and time in the ISO form, with a `Z` after it, is the same date and time in UTC,
however its numbers are written (`Date.parse_designator`). A pattern with one more character reads
what the pattern reads before that character (`Reading.patternParts?_concat`). Where the text with
the `Z` is a timestamp as well, every field has its full width, and both forms read the same.
-/

namespace ScriptDate

open Calendar Text

namespace Text

variable {c : Char} {cs ds rest : List Char} {n least most : Nat}

/-! ## One more character -/

/-- A character that no number, no blank and no fraction goes on with. -/
structure Closing (c : Char) : Prop where
  isDigit : c.isDigit = false
  isBlank : isBlank c = false
  ne_point : c ≠ '.'

theorem closing_Z : Closing 'Z' := by
  constructor <;> decide

theorem forall_head?_concat {P : Char → Prop} (hc : P c) (h : ∀ d ∈ cs.head?, P d) :
    ∀ d ∈ (cs ++ [c]).head?, P d := by
  rcases cs with _ | ⟨d, cs⟩
  · simpa using hc
  · exact h

theorem number?_concat (hc : c.isDigit = false) (h : number? least most cs = some (n, rest)) :
    number? least most (cs ++ [c]) = some (n, rest ++ [c]) := by
  obtain ⟨ds, rfl, htakes, rfl⟩ := number?_eq_some.mp h
  rw [List.append_assoc]
  exact number?_append htakes.isDigit htakes.least_le htakes.le_most
    (htakes.stops.imp_right (forall_head?_concat hc))

theorem numeral?_concat (hc : c.isDigit = false) (h : numeral? least cs = some (n, rest)) :
    numeral? least (cs ++ [c]) = some (n, rest ++ [c]) := by
  obtain ⟨ds, rfl, htakes, rfl⟩ := number?_eq_some.mp h
  have hstops : ∀ d ∈ rest.head?, d.isDigit = false := by
    rcases htakes.stops with hlength | hstops
    · simp at hlength
      simp [hlength]
    · exact hstops
  rw [List.append_assoc, numeral?]
  exact number?_append htakes.isDigit htakes.least_le (by simp)
    (Or.inr (forall_head?_concat hc hstops))

/-- A run ends at the latest before a character that is not of its kind. -/
theorem while_concat {f : Char → Bool} (hc : f c = false) (cs : List Char) :
    (cs ++ [c]).takeWhile f = cs.takeWhile f
      ∧ (cs ++ [c]).dropWhile f = cs.dropWhile f ++ [c] := by
  induction cs with
  | nil => simp [hc]
  | cons d cs ih => by_cases hd : f d = true <;> simp [hd, ih]

theorem trimStart_concat (hc : isBlank c = false) (cs : List Char) :
    trimStart (cs ++ [c]) = trimStart cs ++ [c] := (while_concat hc cs).2

theorem trim_concat (hc : isBlank c = false) (h : trim cs = cs) : trim (cs ++ [c]) = cs ++ [c] :=
  trim_eq_of_stripped ⟨⟨[], [], by simp, by simp⟩,
    forall_head?_concat hc (stripped_iff.mpr h).starts, by simpa using hc⟩

theorem sign?_concat (hne : cs ≠ []) (c : Char) :
    sign? (cs ++ [c]) = (sign? cs).map fun r => (r.1, r.2 ++ [c]) := by
  obtain ⟨d, cs, rfl⟩ := List.exists_cons_of_ne_nil hne
  by_cases hplus : d = '+'
  · simp [hplus, sign?]
  · by_cases hminus : d = '-'
    · simp [hminus, sign?]
    · simp [sign?, hplus, hminus]

end Text

namespace Reading

variable {p q : Parts} {c : Char} {item : Item} {items : List Item} {cs rest : List Char}
  {m : Moment}

theorem patternYear?_concat (hc : c.isDigit = false) {y : Int}
    (h : patternYear? cs = some (y, rest)) : patternYear? (cs ++ [c]) = some (y, rest ++ [c]) := by
  have hne : cs ≠ [] := by
    rintro rfl
    simp [patternYear?, sign?, number?] at h
  unfold patternYear? at h ⊢
  rw [sign?_concat hne]
  cases hsign : sign? cs with
  | none =>
    rw [hsign] at h
    obtain ⟨⟨n, rest⟩, hread, hy⟩ := Option.map_eq_some_iff.mp h
    cases hy
    simp [number?_concat hc hread]
  | some r =>
    rw [hsign] at h
    obtain ⟨⟨n, rest⟩, hread, hy⟩ := Option.map_eq_some_iff.mp h
    cases hy
    simp [numeral?_concat hc hread]

theorem fraction?_concat (hc : Closing c) {ms : Nat} (h : fraction? cs = some (ms, rest)) :
    fraction? (cs ++ [c]) = some (ms, rest ++ [c]) := by
  rcases cs with _ | ⟨d, cs⟩
  · cases h
    simp [fraction?, hc.ne_point]
  · by_cases hd : d = '.'
    · subst hd
      obtain ⟨htake, hdrop⟩ := while_concat hc.isDigit cs
      simp only [fraction?] at h
      split_ifs at h with hnil
      cases h
      simp only [List.cons_append, fraction?, htake, hdrop, if_neg hnil]
    · have hnone (rest : List Char) : fraction? (d :: rest) = some (0, d :: rest) := by
        simp [fraction?, hd]
      cases (hnone cs).symm.trans h
      exact hnone (cs ++ [c])

/-- What an item reads does not depend on a character that comes later. -/
theorem read?_concat (hc : Closing c) (h : item.read? p cs = some (q, rest)) :
    item.read? p (cs ++ [c]) = some (q, rest ++ [c]) := by
  have htrim := trimStart_concat hc.isBlank cs
  cases item with
  | char d =>
    obtain ⟨rest, hread, hq⟩ := Option.map_eq_some_iff.mp h
    cases hq
    obtain rfl := char?_eq_some.mp hread
    exact read?_char p d (rest ++ [c])
  | blanks =>
    cases h
    simp only [Item.read?, htrim]
  | year =>
    obtain ⟨⟨y, rest⟩, hread, hq⟩ := Option.map_eq_some_iff.mp h
    cases hq
    simp [Item.read?, htrim, patternYear?_concat hc.isDigit hread]
  | short field =>
    obtain ⟨⟨n, rest⟩, hread, hq⟩ := Option.map_eq_some_iff.mp h
    cases hq
    simp [Item.read?, htrim, number?_concat hc.isDigit hread]
  | fraction =>
    obtain ⟨⟨ms, rest⟩, hread, hq⟩ := Option.map_eq_some_iff.mp h
    cases hq
    simp [Item.read?, fraction?_concat hc hread]

theorem patternParts?_concat (hc : Closing c) : ∀ {items : List Item} {p : Parts} {cs : List Char},
    patternParts? items p cs = some q →
      patternParts? (items ++ [.char c]) p (cs ++ [c]) = some q
  | [], p, [], h => by
    simpa using h
  | [], p, d :: cs, h => by simp at h
  | item :: items, p, cs, h => by
    rw [patternParts?_cons] at h
    obtain ⟨⟨p', rest⟩, hread, h⟩ := Option.bind_eq_some_iff.mp h
    rw [List.cons_append, patternParts?_cons, read?_concat hc hread]
    exact patternParts?_concat hc h

/-- A pattern that reads a text to its end looks for one more character in vain. -/
theorem patternParts?_char_of_end (c : Char) : ∀ {items : List Item} {p : Parts} {cs : List Char},
    patternParts? items p cs = some q → patternParts? (items ++ [.char c]) p cs = none
  | [], p, [], _ => rfl
  | [], p, d :: cs, h => by simp at h
  | item :: items, p, cs, h => by
    rw [patternParts?_cons] at h
    obtain ⟨⟨p', rest⟩, hread, h⟩ := Option.bind_eq_some_iff.mp h
    rw [List.cons_append, patternParts?_cons, hread]
    exact patternParts?_char_of_end c h

/-! ## Timestamps

Where a timestamp and the ISO form both read a text, they read the same fields. -/

theorem patternParts?_of_char? (h : char? c cs = some rest) (items : List Item) (p : Parts) :
    patternParts? (.char c :: items) p cs = patternParts? items p rest := by
  rw [patternParts?_cons, Item.read?, h]
  rfl

theorem patternParts?_of_full {w n : Nat} {set : Parts → Nat → Parts} (hitem : ReadsUpTo w item set)
    (h : number? w w cs = some (n, rest)) (items : List Item) (p : Parts) :
    patternParts? (item :: items) p cs = patternParts? items (set p n) rest := by
  rw [patternParts?_cons, hitem.read?_of_full h]
  rfl

theorem patternParts?_timestamp_day (h : Rfc3339.instant? cs = some m) :
    ∃ (year month date : Nat) (rest rest' : List Char),
      (∀ items p, patternParts? (Pattern.yearFirst '-' ++ items) p cs
        = patternParts? items { p with year := year, month := month, date := date } rest)
      ∧ Rfc3339.joint? rest = some rest' ∧ Rfc3339.timeOn? year month date rest' = some m := by
  obtain ⟨⟨year, cs₁⟩, hyear, h⟩ := Option.bind_eq_some_iff.mp h
  obtain ⟨cs₂, hdash, h⟩ := Option.bind_eq_some_iff.mp h
  obtain ⟨⟨month, cs₃⟩, hmonth, h⟩ := Option.bind_eq_some_iff.mp h
  obtain ⟨cs₄, hdash', h⟩ := Option.bind_eq_some_iff.mp h
  obtain ⟨⟨date, rest⟩, hdate, h⟩ := Option.bind_eq_some_iff.mp h
  obtain ⟨rest', hjoint, h⟩ := Option.bind_eq_some_iff.mp h
  refine ⟨year, month, date, rest, rest', fun items p => ?_, hjoint, h⟩
  simp only [Pattern.yearFirst, List.cons_append, List.nil_append]
  rw [patternParts?_of_full readsUpTo_year hyear, patternParts?_of_char? hdash,
    patternParts?_of_full (readsUpTo_short .month) hmonth, patternParts?_of_char? hdash',
    patternParts?_of_full (readsUpTo_short .date) hdate]
  rfl

theorem patternParts?_timestamp_clock {year month date : Nat}
    (h : Rfc3339.timeOn? year month date cs = some m) :
    ∃ (hour minute second ms : Nat) (rest : List Char) (offset : Int) (written : Moment),
      (∀ items p, patternParts? (Pattern.fullClock ++ .fraction :: items) p cs
        = patternParts? items
          { p with hour := hour, minute := minute, second := second, ms := ms } rest)
      ∧ Rfc3339.zone? rest = some offset
      ∧ Parts.moment? ⟨year, month, date, hour, minute, second, ms⟩ = some written
      ∧ written.behind offset = m := by
  obtain ⟨⟨hour, cs₁⟩, hhour, h⟩ := Option.bind_eq_some_iff.mp h
  obtain ⟨cs₂, hcolon, h⟩ := Option.bind_eq_some_iff.mp h
  obtain ⟨⟨minute, cs₃⟩, hminute, h⟩ := Option.bind_eq_some_iff.mp h
  obtain ⟨cs₄, hcolon', h⟩ := Option.bind_eq_some_iff.mp h
  obtain ⟨⟨second, cs₅⟩, hsecond, h⟩ := Option.bind_eq_some_iff.mp h
  obtain ⟨⟨ms, rest⟩, hms, h⟩ := Option.bind_eq_some_iff.mp h
  obtain ⟨offset, hzone, h⟩ := Option.bind_eq_some_iff.mp h
  obtain ⟨written, hwritten, h⟩ := Option.bind_eq_some_iff.mp h
  refine ⟨hour, minute, second, ms, rest, offset, written, fun items p => ?_, hzone, hwritten,
    Option.some.inj h⟩
  have hread (p : Parts) : Item.read? p cs₅ .fraction = some ({ p with ms := ms }, rest) := by
    simp [Item.read?, hms]
  simp only [Pattern.fullClock, Pattern.clock, List.cons_append, List.nil_append]
  rw [patternParts?_of_full (readsUpTo_short .hour) hhour, patternParts?_of_char? hcolon,
    patternParts?_of_full (readsUpTo_short .minute) hminute, patternParts?_of_char? hcolon',
    patternParts?_of_full (readsUpTo_short .second) hsecond, patternParts?_cons, hread]
  rfl

theorem patternParts?_of_joint (h : Rfc3339.joint? cs = some rest)
    (hq : patternParts? (.char 'T' :: items) p cs = some q) :
    patternParts? items p rest = some q := by
  -- A timestamp may have a small letter or a blank there, which the pattern does not read.
  unfold Rfc3339.joint? at h
  split at h
  · cases h
    simpa using hq
  · rw [patternParts?_char_of_ne (by decide)] at hq
    cases hq
  · rw [patternParts?_char_of_ne (by decide)] at hq
    cases hq
  · cases h

/-- Of a timestamp the ISO form reads all that the timestamp gives, up to the offset. -/
theorem patternParts?_of_timestamp (h : Rfc3339.instant? cs = some m)
    (hq : patternParts? (Pattern.iso ++ items) {} cs = some q) :
    ∃ (p : Parts) (rest : List Char) (offset : Int) (written : Moment),
      patternParts? items p rest = some q ∧ Rfc3339.zone? rest = some offset
        ∧ p.moment? = some written ∧ written.behind offset = m := by
  obtain ⟨year, month, date, rest, rest', hday, hjoint, htime⟩ := patternParts?_timestamp_day h
  obtain ⟨hour, minute, second, ms, end', offset, written, hclock, hzone, hwritten, hm⟩ :=
    patternParts?_timestamp_clock htime
  have hiso : Pattern.iso ++ items
      = Pattern.yearFirst '-' ++ .char 'T' :: (Pattern.fullClock ++ .fraction :: items) := by
    simp [Pattern.iso]
  rw [hiso, hday] at hq
  have hq' := patternParts?_of_joint hjoint hq
  rw [hclock] at hq'
  exact ⟨_, end', offset, written, hq', hzone, hwritten, hm⟩

/-- A local date and time is no timestamp, as it says no offset. -/
theorem instant?_of_iso (hq : patternParts? Pattern.iso {} cs = some q) :
    Rfc3339.instant? cs = none := by
  rw [← List.append_nil Pattern.iso] at hq
  cases h : Rfc3339.instant? cs with
  | none => rfl
  | some m =>
    obtain ⟨p, rest, offset, written, hend, hzone, -, -⟩ := patternParts?_of_timestamp h hq
    rcases rest with _ | ⟨c, rest⟩
    · cases hzone
    · cases hend

theorem instant?_of_iso_Z (hq : patternParts? (Pattern.iso ++ [.char 'Z']) {} cs = some q)
    (h : Rfc3339.instant? cs = some m) : q.moment? = some m := by
  obtain ⟨p, rest, offset, written, hend, hzone, hwritten, rfl⟩ := patternParts?_of_timestamp h hq
  obtain ⟨rfl, rfl⟩ := patternParts?_last hend
  obtain rfl : 0 = offset := Option.some.inj hzone
  rw [hwritten, Moment.behind, sub_zero]

/-! ## The form that decides -/

/-- A date with its year first begins with a sign, or with digits before a hyphen. -/
theorem exists_numeric (hb : ∀ c ∈ cs.head?, isBlank c = false)
    (hq : patternParts? (Pattern.yearFirst '-' ++ items) p cs = some q) :
    ∃ (ds : List Char) (c : Char) (rest : List Char),
      cs = ds ++ c :: rest ∧ (∀ d ∈ ds, d.isDigit = true) ∧ c ∈ marks := by
  have htrim : trimStart cs = cs := by
    rcases cs with _ | ⟨c, cs⟩
    · rfl
    · simp [trimStart, hb c rfl]
  simp only [Pattern.yearFirst, List.cons_append] at hq
  obtain ⟨⟨p', rest⟩, hyear, hq⟩ := Option.bind_eq_some_iff.mp hq
  obtain ⟨⟨p'', rest'⟩, hdash, -⟩ := Option.bind_eq_some_iff.mp hq
  obtain ⟨⟨y, rest⟩, hread, heq⟩ := Option.map_eq_some_iff.mp hyear
  cases heq
  obtain ⟨rest', hchar, heq⟩ := Option.map_eq_some_iff.mp hdash
  cases heq
  obtain rfl := char?_eq_some.mp hchar
  rw [htrim, patternYear?] at hread
  cases hsign : sign? cs with
  | some r =>
    obtain ⟨s, hcs, hs⟩ : ∃ s, cs = s :: r.2 ∧ s ∈ marks := by
      unfold sign? at hsign
      split at hsign <;> cases hsign
      · exact ⟨'+', rfl, by decide⟩
      · exact ⟨'-', rfl, by decide⟩
    exact ⟨[], s, r.2, hcs, by simp, hs⟩
  | none =>
    rw [hsign] at hread
    obtain ⟨⟨n, rest⟩, hnumber, heq⟩ := Option.map_eq_some_iff.mp hread
    cases heq
    obtain ⟨ds, hcs, htakes, -⟩ := number?_eq_some.mp hnumber
    exact ⟨ds, '-', _, hcs, htakes.isDigit, by decide⟩

/-- The ISO form decides about a text that has it, with and without the designator. -/
theorem ofText?_iso (hb : ∀ c ∈ cs.head?, isBlank c = false)
    (h : patternMoment? Pattern.iso cs = some m) :
    ofText? cs = some (.localTime m.time) ∧ ofText? (cs ++ ['Z']) = some (.instant m.time) := by
  obtain ⟨q, hq, hm⟩ := Option.bind_eq_some_iff.mp h
  have hq' := patternParts?_concat closing_Z hq
  have hiso : Pattern.iso
      = Pattern.yearFirst '-' ++ (.char 'T' :: Pattern.fullClock ++ [.fraction]) := rfl
  obtain ⟨ds, c, rest, rfl, hds, hc⟩ := exists_numeric hb (hiso ▸ hq)
  constructor
  · rw [ofText?_of_none (instant?_of_iso hq) (Rfc2822.instant?_numeric hds hc rest)
      (monthName?_numeric hds hc rest)]
    simp [wholeTexts, zoneTexts, Pattern.localForms, patternParts?_char_of_end 'Z' hq, hq, hm]
  -- With every field at its full width the text is a timestamp, and that form comes first.
  · rw [List.append_assoc, List.cons_append] at hq' ⊢
    cases hstamp : Rfc3339.instant? (ds ++ c :: (rest ++ ['Z'])) with
    | some m' =>
      refine ofText?_of_timestamp ?_
      have hm' := (instant?_of_iso_Z hq' hstamp).symm.trans hm
      rw [instantForm, hstamp, hm']
      rfl
    | none =>
      rw [ofText?_of_none hstamp (Rfc2822.instant?_numeric hds hc _)
        (monthName?_numeric hds hc _)]
      simp [wholeTexts, hq', hm]

end Reading

namespace Date

open Reading TimeValue

/-- A text in the ISO form is read as a local time, and with a `Z` after it as the instant at which
clocks at UTC show that time. -/
theorem parse_designator {text : String} {m : Moment}
    (hmatch : patternMoment? Pattern.iso text.toList = some m)
    (htrim : trim text.toList = text.toList) (zone : Zone) :
    (parse zone (text ++ "Z")).value = some (.finite m.time)
      ∧ (parse zone text).value = some (clip (zone.toUTC (.finite m.time))) := by
  have htext : trim (text ++ "Z").toList = text.toList ++ ['Z'] := by
    rw [String.toList_append]
    exact trim_concat closing_Z.isBlank htrim
  obtain ⟨hlocal, hinstant⟩ := ofText?_iso (stripped_iff.mpr htrim).starts hmatch
  have hfinite : Number.ofInt m.time = .finite m.time := by
    have hnear := near_patternMoment? hmatch
    unfold Near at hnear
    exact Number.ofInt_eq (by omega)
  rw [value_parse_trim, value_parse_trim, htrim, htext, hlocal, hinstant, ← hfinite]
  exact ⟨rfl, rfl⟩

/-- Half a second into a leap second, with a sign before the year and a blank before the day. -/
theorem parse_designator_leap_second :
    patternMoment? Pattern.iso "+2016-12- 31T23:59:60.5".toList = some ⟨1483228799, 1500⟩
    ∧ (parse (.fixed oneAhead) "+2016-12- 31T23:59:60.5Z").value = some (.finite 1483228800500)
    ∧ (parse (.fixed oneAhead) "+2016-12- 31T23:59:60.5").value
      = some (.finite 1483225200500) := by
  have hmatch : patternMoment? Pattern.iso "+2016-12- 31T23:59:60.5".toList
      = some ⟨1483228799, 1500⟩ := rfl
  have htrim : trim "+2016-12- 31T23:59:60.5".toList = "+2016-12- 31T23:59:60.5".toList := by decide
  obtain ⟨hinstant, hlocal⟩ := parse_designator hmatch htrim (.fixed oneAhead)
  exact ⟨hmatch, hinstant, hlocal.trans (by decide +kernel)⟩

end Date

end ScriptDate
