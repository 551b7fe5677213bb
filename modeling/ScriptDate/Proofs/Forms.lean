import ScriptDate.Date.Parse
import ScriptDate.Proofs.FirstCharacters
import ScriptDate.Proofs.Patterns

/-!
# The form that decides

The text of a year begins none of the forms that start in another way (`YearText`), so the form
that decides about a text can be told from its separators: `ofText?_dashed`, `ofText?_slashed` and
`ofText?_monthFirst` leave only what may follow the date.
-/

namespace ScriptDate.Reading

open Calendar Text

variable {p q : Parts} {c d : Char} {items : List Item} {cs rest : List Char} {n : Nat}

/-! ## Month names -/

theorem monthName?_padded (w n : Nat) (rest : List Char) :
    monthName? (padded w n ++ rest) = none := by
  obtain ⟨c, cs, hc, heq⟩ := padded_append w n rest
  rw [heq]
  exact monthName?_of_numeric (Or.inl hc) cs

/-! ## Mail dates -/

namespace Rfc2822

/-- A day of the month must be followed by a blank. -/
theorem instant?_padded (h : n < 100) (hrest : blanks? rest = none) :
    instant? (padded 2 n ++ rest) = none := by
  obtain ⟨c, cs, hc, heq⟩ := padded_append 2 n rest
  rw [heq]
  refine instant?_of_numeric (Or.inl hc) ?_
  rw [← heq]
  simp [number?_padded, h, hrest]

end Rfc2822

/-! ## Timestamps -/

namespace Rfc3339

theorem instant?_date (h : n < 10000) (hp : p.Fits) (rest : List Char) :
    instant? (padded 4 n ++ (p.afterYear '-' ++ rest))
      = (joint? rest).bind (timeOn? n p.month p.date) := by
  simp only [Parts.afterYear, List.cons_append, List.append_assoc]
  refine (bind_of_eq_some (number?_four h _) _).trans ?_
  refine (bind_of_eq_some (char?_self '-' _) _).trans ?_
  refine (bind_of_eq_some (number?_two hp.month _) _).trans ?_
  refine (bind_of_eq_some (char?_self '-' _) _).trans ?_
  exact bind_of_eq_some (number?_two hp.date _) _

theorem timeOn?_clock (hp : p.Fits) {year : Int} {month date : Nat}
    (hrest : char? ':' rest = none) : timeOn? year month date (p.clock ++ rest) = none := by
  simp only [Parts.clock, List.cons_append, List.append_assoc]
  refine (bind_of_eq_some (number?_two hp.hour _) _).trans ?_
  refine (bind_of_eq_some (char?_self ':' _) _).trans ?_
  refine (bind_of_eq_some (number?_two hp.minute _) _).trans ?_
  show (char? ':' rest).bind _ = none
  rw [hrest, Option.bind_none]

theorem timeOn?_fullClock (hp : p.Fits) (year : Int) (month date : Nat) (rest : List Char) :
    timeOn? year month date (p.fullClock ++ rest)
      = (fraction? rest).bind fun r => (zone? r.2).bind fun offset =>
          (Parts.moment? ⟨year, month, date, p.hour, p.minute, p.second, r.1⟩).bind
            fun m => some (m.behind offset) := by
  simp only [Parts.fullClock, Parts.clock, List.cons_append, List.append_assoc]
  refine (bind_of_eq_some (number?_two hp.hour _) _).trans ?_
  refine (bind_of_eq_some (char?_self ':' _) _).trans ?_
  refine (bind_of_eq_some (number?_two hp.minute _) _).trans ?_
  refine (bind_of_eq_some (char?_self ':' _) _).trans ?_
  exact bind_of_eq_some (number?_two hp.second _) _

theorem instant?_slashed (h : n < 10000) (p : Parts) (rest : List Char) :
    instant? (padded 4 n ++ (p.afterYear '/' ++ rest)) = none :=
  (bind_of_eq_some (number?_four h _) _).trans rfl

/-- A timestamp begins with four digits. -/
theorem instant?_padded (h : n < 100) (hc : c.isDigit = false) (rest : List Char) :
    instant? (padded 2 n ++ c :: rest) = none := by
  show (number? 4 4 (padded 2 n ++ c :: rest)).bind _ = none
  have hlength := length_padded (w := 2) (by decide) h
  rw [number?_eq_none (fun c => isDigit_of_mem_padded) (by omega) (by simpa using hc),
    Option.bind_none]

theorem instant?_T_clock (h : n < 10000) (hp : p.Fits) :
    instant? (padded 4 n ++ (p.afterYear '-' ++ 'T' :: p.clock)) = none := by
  rw [instant?_date h hp, ← List.append_nil p.clock]
  exact timeOn?_clock hp rfl

/-- A timestamp does not end without its offset. -/
theorem instant?_fullClock (h : n < 10000) (hp : p.Fits)
    (hjoint : joint? cs = some p.fullClock) :
    instant? (padded 4 n ++ (p.afterYear '-' ++ cs)) = none := by
  rw [instant?_date h hp, hjoint, Option.bind_some, ← List.append_nil p.fullClock,
    timeOn?_fullClock hp]
  rfl

theorem instant?_Z {y ms : Nat} (h : y < 10000) (hp : p.Fits)
    (hrest : fraction? rest = some (ms, ['Z'])) :
    instant? (padded 4 y ++ (p.afterYear '-' ++ 'T' :: (p.fullClock ++ rest)))
      = ({ p with year := y, ms := ms } : Parts).moment? := by
  have hzero (m : Moment) : m.behind 0 = m := by
    rw [Moment.behind, sub_zero]
  have hzone : zone? ['Z'] = some 0 := rfl
  have hjoint : joint? ('T' :: (p.fullClock ++ rest)) = some (p.fullClock ++ rest) := rfl
  rw [instant?_date h hp, hjoint, Option.bind_some, timeOn?_fullClock hp, hrest]
  simp only [Option.bind_some, hzone, hzero, Option.bind_fun_some]

end Rfc3339

/-! ## Years -/

/-- Where a year is looked for the text gives `y`, and it begins no form that starts in another
way. -/
structure YearText (yr : List Char) (y : Int) : Prop where
  read (p : Parts) {c : Char} (hc : c.isDigit = false) (rest : List Char) :
    Item.read? p (yr ++ c :: rest) .year = some ({ p with year := y }, c :: rest)
  monthFirst (items : List Item) (p : Parts) (rest : List Char) :
    patternParts? (Pattern.monthFirst ++ items) p (yr ++ rest) = none
  monthName (rest : List Char) : monthName? (yr ++ rest) = none
  rfc2822 (rest : List Char) : Rfc2822.instant? (yr ++ rest) = none

variable {yr : List Char}

theorem yearText_padded (h : n < 10000) : YearText (padded 4 n) n where
  read p _ _ rest := read?_year h p (_ :: rest)
  monthFirst _ _ rest := patternParts?_monthFirst_year h rest
  monthName rest := monthName?_padded 4 n rest
  rfc2822 rest := by
    obtain ⟨c, cs, hc, heq⟩ := padded_append 2 (n % 100) rest
    rw [padded_four]
    apply Rfc2822.instant?_padded (by omega)
    rw [heq]
    simp [Rfc2822.blanks?, isBlank_of_isDigit hc]

theorem numeric_yearSign (y : Int) : Numeric (yearSign y) := by
  unfold Numeric yearSign
  split_ifs <;> decide

theorem yearText_signed (y : Int) (w : Nat) : YearText (yearSign y :: padded w y.natAbs) y where
  read p _ hc rest := read?_year_signed hc y w p rest
  monthFirst items p rest := by
    simp [Pattern.monthFirst, patternParts?_cons,
      read?_short_of_head (isBlank_yearSign y) (isDigit_yearSign y)]
  monthName rest := monthName?_of_numeric (numeric_yearSign y) _
  rfc2822 rest :=
    Rfc2822.instant?_of_numeric (numeric_yearSign y) (by simp [number?, isDigit_yearSign])

/-! ## The form that decides -/

/-- What is to follow in a text, and how the time that it gives is meant. -/
abbrev Tail : Type := List Item × (Int → Reading)

/-- What a text says by the first of the tails that it has, after the parts already read. -/
def goOn? (tails : List Tail) (p : Parts) (cs : List Char) : Option Reading :=
  tails.findSome? fun tail =>
    ((patternParts? tail.1 p cs).bind Parts.moment?).map fun m => tail.2 m.time

/-- The forms by pattern that are not for UTC alone. One that ends with the date goes on with
nothing. -/
def zoneTexts : List Tail :=
  Pattern.localForms.map (·, .localTime) ++
    [(Pattern.yearFirst '-' ++ [], .instant), (Pattern.monthFirst ++ [], .localTime),
      (Pattern.yearFirst '/' ++ [], .localTime)]

/-- The forms by pattern, but for the second form in UTC. -/
def wholeTexts : List Tail := (Pattern.iso ++ [.char 'Z'], .instant) :: zoneTexts

def dashedTails : List Tail :=
  [(.char 'T' :: Pattern.fullClock ++ [.fraction] ++ [.char 'Z'], .instant),
    (.char 'T' :: Pattern.fullClock ++ [.fraction], .localTime),
    (.char 'T' :: Pattern.clock, .localTime), (.blanks :: Pattern.fullClock, .localTime),
    ([], .instant)]

/-- The forms by pattern that begin with slashes. -/
def slashedTexts : List Tail :=
  [(Pattern.yearFirst '/' ++ .blanks :: Pattern.fullClock, .localTime),
    (Pattern.monthFirst ++ .blanks :: Pattern.fullClock, .localTime),
    (Pattern.monthFirst ++ [], .localTime), (Pattern.yearFirst '/' ++ [], .localTime)]

def slashedTails : List Tail := [(.blanks :: Pattern.fullClock, .localTime), ([], .localTime)]

@[simp]
theorem goOn?_nil (p : Parts) (cs : List Char) : goOn? [] p cs = none := rfl

@[simp]
theorem goOn?_cons (tail : Tail) (tails : List Tail) (p : Parts) (cs : List Char) :
    goOn? (tail :: tails) p cs
      = (((patternParts? tail.1 p cs).bind Parts.moment?).map fun m => tail.2 m.time).or
          (goOn? tails p cs) := by
  rw [goOn?, List.findSome?_cons]
  split <;> rename_i h <;> rw [h]
  · rfl
  · rfl

theorem ofText?_of_timestamp {r : Reading} (h : instantForm Rfc3339.instant? cs = some r) :
    ofText? cs = some r := by
  simp only [ofText?, forms, List.cons_append, List.findSome?_cons, h]

theorem ofText?_of_monthName {r : Reading} (hstamp : Rfc3339.instant? cs = none)
    (hmail : Rfc2822.instant? cs = none) (hname : localForm monthName? cs = some r) :
    ofText? cs = some r := by
  simp only [ofText?, forms, List.cons_append, List.findSome?_cons, instantForm, hstamp, hmail,
    hname, Option.map_none]

/-- The second form in UTC reads no text that the first does not, so that it decides nothing. -/
theorem goOn?_utcForms (cs : List Char) :
    goOn? (Pattern.utcForms.map (·, instant) ++ zoneTexts) {} cs = goOn? wholeTexts {} cs := by
  simp only [Pattern.utcForms, List.map_cons, List.map_nil, List.cons_append, List.nil_append,
    wholeTexts, goOn?_cons]
  cases hsecond : patternParts?
      (Pattern.yearFirst '-' ++ .char 'T' :: Pattern.fullClock ++ [.char 'Z']) {} cs with
  | none => rw [Option.bind_none, Option.map_none, Option.none_or]
  | some q =>
    have hfirst : patternParts? (Pattern.iso ++ [.char 'Z']) {} cs = some q :=
      patternParts?_fraction_left_out (by decide) (by decide) rfl hsecond
    rw [hfirst, ← Option.or_assoc, Option.or_self]

theorem ofText?_of_none (hstamp : Rfc3339.instant? cs = none) (hmail : Rfc2822.instant? cs = none)
    (hname : monthName? cs = none) : ofText? cs = goOn? wholeTexts {} cs := by
  have hforms : forms = [instantForm Rfc3339.instant?, instantForm Rfc2822.instant?,
      localForm monthName?] ++ (Pattern.utcForms.map (·, instant) ++ zoneTexts).map fun tail cs =>
        ((patternParts? tail.1 {} cs).bind Parts.moment?).map fun m => tail.2 m.time := rfl
  rw [← goOn?_utcForms, ofText?, hforms, List.findSome?_append, List.findSome?_map]
  simp only [List.findSome?_cons, List.findSome?_nil, instantForm, localForm, hstamp, hmail, hname,
    Option.map_none, Option.none_or]
  rfl

/-- Where no form with hyphens can begin, those with slashes are left. -/
theorem goOn?_wholeTexts
    (hdash : ∀ items, patternParts? (Pattern.yearFirst '-' ++ items) {} cs = none) :
    goOn? wholeTexts {} cs = goOn? slashedTexts {} cs := by
  simp only [wholeTexts, zoneTexts, slashedTexts, Pattern.localForms, Pattern.iso, List.map_cons,
    List.map_nil, List.cons_append, List.append_assoc, List.nil_append, goOn?_cons, hdash,
    Option.bind_none, Option.map_none, Option.none_or]

/-- The forms that begin with another separator or with the month fail. -/
theorem ofText?_dashed (hyear : YearText yr p.year) (hp : p.Fits)
    (hstamp : Rfc3339.instant? (yr ++ (p.afterYear '-' ++ rest)) = none) :
    ofText? (yr ++ (p.afterYear '-' ++ rest)) = goOn? dashedTails p.day rest := by
  have hread := hyear.read {} (c := '-') (by decide)
  have hdash (items : List Item) := patternParts?_yearFirst hp hread items rest
  have hslash (items : List Item) :=
    patternParts?_yearFirst_of_ne (d := '/') (by decide) hread items rest
  have hmonth := fun items => hyear.monthFirst items {} (p.afterYear '-' ++ rest)
  rw [ofText?_of_none hstamp (hyear.rfc2822 _) (hyear.monthName _)]
  simp only [wholeTexts, zoneTexts, dashedTails, Pattern.localForms, Pattern.iso, List.map_cons,
    List.map_nil, List.cons_append, List.append_assoc, List.nil_append, goOn?_cons, goOn?_nil,
    hdash, hslash, hmonth, Option.bind_none, Option.map_none, Option.none_or, Option.or_none,
    Parts.day]

theorem ofText?_slashed {y : Nat} (hy : y < 10000) (hyear : p.year = y) (hp : p.Fits)
    (rest : List Char) :
    ofText? (padded 4 y ++ (p.afterYear '/' ++ rest)) = goOn? slashedTails p.day rest := by
  have htext : YearText (padded 4 y) p.year := hyear ▸ yearText_padded hy
  have hread := htext.read {} (c := '/') (by decide)
  have hslash (items : List Item) := patternParts?_yearFirst hp hread items rest
  have hdash (items : List Item) :=
    patternParts?_yearFirst_of_ne (d := '-') (by decide) hread items rest
  have hmonth := fun items => htext.monthFirst items {} (p.afterYear '/' ++ rest)
  rw [ofText?_of_none (Rfc3339.instant?_slashed hy p rest) (htext.rfc2822 _) (htext.monthName _),
    goOn?_wholeTexts hdash]
  simp only [slashedTexts, slashedTails, goOn?_cons, goOn?_nil, hslash, hmonth, Option.bind_none,
    Option.map_none, Option.none_or, Parts.day]

theorem ofText?_monthFirst {y : Nat} (hy : y < 10000) (hyear : p.year = y) (hp : p.Fits)
    (hrest : char? ':' rest = none) :
    ofText? (p.beforeYear ++ (padded 4 y ++ rest)) = goOn? slashedTails p.day rest := by
  have hmonth (items : List Item) := patternParts?_monthFirst (q := {}) hy hp items rest
  have hread := read?_year_short hp.month (c := '/') (by decide) {}
  have hslash (items : List Item) : patternParts? (Pattern.yearFirst '/' ++ items) {}
      (padded 2 p.month ++ ((p.misread y).afterYear '/' ++ (padded 2 (y % 100) ++ rest)))
        = patternParts? items (p.misread y) (padded 2 (y % 100) ++ rest) :=
    patternParts?_yearFirst (hp.misread hy) hread items _
  have hdash (items : List Item) := patternParts?_yearFirst_of_ne (p := p.misread y) (d := '-')
    (by decide) hread items (padded 2 (y % 100) ++ rest)
  obtain ⟨hclock, hnil⟩ := patternParts?_misread (q := p.misread y) (n := y % 100) (by omega) hrest
  rw [← beforeYear_eq_afterYear] at hslash hdash
  have hnone : ofText? (p.beforeYear ++ (padded 4 y ++ rest))
      = goOn? wholeTexts {} (p.beforeYear ++ (padded 4 y ++ rest)) := by
    simp only [Parts.beforeYear, List.append_assoc, List.cons_append]
    exact ofText?_of_none (Rfc3339.instant?_padded hp.month (by decide) _)
      (Rfc2822.instant?_padded hp.month rfl) (monthName?_padded _ _ _)
  rw [hnone, goOn?_wholeTexts hdash]
  simp only [slashedTexts, slashedTails, goOn?_cons, goOn?_nil, hslash, hmonth, hclock, hnil,
    Option.bind_none, Option.map_none, Option.none_or, Option.or_none, Parts.day, hyear]

/-! ## After the date -/

theorem goOn?_T_fullClock_Z (hp : p.Fits) :
    goOn? dashedTails p.day ('T' :: (p.fullClock ++ '.' :: (padded 3 p.ms ++ ['Z'])))
      = p.moment?.map fun m => .instant m.time := by
  have hZ : 'Z'.isDigit = false := by decide
  simp [dashedTails, patternParts?_fullClock hp, patternParts?_clock_fullClock hp,
    patternParts?_fraction hp.ms hZ, Parts.day]

theorem goOn?_T_fullClock (hp : p.Fits) :
    goOn? dashedTails p.day ('T' :: p.fullClock)
      = p.atSecond.moment?.map fun m => .localTime m.time := by
  have hfull (items : List Item) := patternParts?_fullClock hp items p.day []
  have hclock := patternParts?_clock_fullClock (q := p.day) hp []
  simp only [List.append_nil] at hfull hclock
  have hsecond : p.atSecond
      = { p.day with hour := p.hour, minute := p.minute, second := p.second, ms := 0 } := rfl
  simp [dashedTails, hfull, hclock, hsecond]

theorem goOn?_T_clock (hp : p.Fits) :
    goOn? dashedTails p.day ('T' :: p.clock)
      = p.atMinute.moment?.map fun m => .localTime m.time := by
  have hclock := patternParts?_clock hp [] p.day []
  rw [List.append_nil, List.append_nil] at hclock
  have hminute : p.atMinute = { p.day with hour := p.hour, minute := p.minute } := rfl
  simp [dashedTails, hclock, patternParts?_fullClock_clock hp, hminute]

theorem goOn?_dashed_blank (hp : p.Fits) :
    goOn? dashedTails p.day (' ' :: p.fullClock)
      = p.atSecond.moment?.map fun m => .localTime m.time := by
  simp [dashedTails, patternParts?_char_of_ne, patternParts?_blanks_fullClock hp, Parts.day,
    Parts.atSecond]

theorem goOn?_dashed_nil (p : Parts) :
    goOn? dashedTails p.day [] = p.day.moment?.map fun m => .instant m.time := by
  simp [dashedTails]

theorem goOn?_slashed_blank (hp : p.Fits) :
    goOn? slashedTails p.day (' ' :: p.fullClock)
      = p.atSecond.moment?.map fun m => .localTime m.time := by
  simp [slashedTails, patternParts?_blanks_fullClock hp, Parts.day, Parts.atSecond]

theorem goOn?_slashed_nil (p : Parts) :
    goOn? slashedTails p.day [] = p.day.moment?.map fun m => .localTime m.time := by
  simp [slashedTails]

end ScriptDate.Reading

namespace ScriptDate.Date

open Text

theorem value_parse_trim (zone : Zone) (text : String) :
    (parse zone text).value
      = (Reading.ofText? (trim text.toList)).map fun r => (r.timeValue zone).value := by
  rw [parse]
  cases Reading.ofText? (trim text.toList) <;> rfl

/-- A text that neither begins nor ends with a blank is read as it is. -/
theorem value_parse {cs : List Char} (h : StartsVisible cs) (h' : EndsVisible cs) (zone : Zone) :
    (parse zone (String.ofList cs)).value
      = (Reading.ofText? cs).map fun r => (r.timeValue zone).value := by
  rw [value_parse_trim, String.toList_ofList, trim_eq_self h h']

end ScriptDate.Date
