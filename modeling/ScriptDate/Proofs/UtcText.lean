import ScriptDate.Proofs.IsoText
import ScriptDate.Proofs.LocalTime

/-!
# The UTC text of a date

The UTC text is a mail date with a weekday, a year of four digits or more, and `GMT`. It is read
back as the start of its second wherever its year is one that mail dates have, up to the last year
that dates are read in, and no form reads it otherwise (`parse_utcText`).
-/

namespace ScriptDate

open Calendar Number Text

namespace Reading

variable {p : Parts} {c : Char} {cs rest : List Char} {n : Nat}

/-! ## Other forms -/

/-- All forms by pattern begin with a number. -/
theorem goOn?_of_inName (hc : InName c) (cs : List Char) :
    goOn? wholeTexts {} (c :: cs) = none := by
  obtain ⟨hb, hd, hplus, hminus⟩ := hc
  have hsign : sign? (c :: cs) = none := by
    unfold sign?
    split <;> simp_all
  have hyear : Item.read? {} (c :: cs) .year = none := by
    simp [Item.read?, patternYear?, trimStart, hb, hsign, number?, hd]
  have hmonth := read?_short_of_head hb hd {} .month cs
  simp [wholeTexts, zoneTexts, Pattern.localForms, Pattern.iso, Pattern.yearFirst,
    Pattern.monthFirst, patternParts?_cons, hyear, hmonth]

theorem ofText?_of_mail {r : Reading} (hstamp : Rfc3339.instant? cs = none)
    (hmail : instantForm Rfc2822.instant? cs = some r) : ofText? cs = some r := by
  have hstamp' : instantForm Rfc3339.instant? cs = none := by
    rw [instantForm, hstamp, Option.map_none]
  simp only [ofText?, forms, List.cons_append, List.findSome?_cons, hstamp', hmail]

/-! ## Mail dates -/

namespace Rfc2822

theorem blanks?_space (h : StartsVisible cs) : blanks? (' ' :: cs) = some cs := by
  obtain ⟨c, rest, rfl, hc⟩ := h
  have hspace : isBlank ' ' = true := rfl
  simp [blanks?, hspace, trimStart, hc]

theorem instant?_weekDay {d m : Nat} (hd : d < 7) (hm : m < 12) (hn : n < 100)
    (hrest : StartsVisible rest) :
    instant? ((weekDayNames.getD d "").toList ++ ',' :: ' ' :: (padded 2 n ++
        ' ' :: ((monthNames.getD m "").toList ++ ' ' :: rest)))
      = inYear? (some d) n m rest := by
  have hday (rest : List Char) := threeLetters_weekDayNames.name?_append hd rest
  have hmonth (rest : List Char) := threeLetters_monthNames.name?_append hm rest
  have hstart := (threeLetters_weekDayNames.startsVisible hd).append
    (',' :: ' ' :: (padded 2 n ++ ' ' :: ((monthNames.getD m "").toList ++ ' ' :: rest)))
  have hweek (rest : List Char) : weekDay? ((weekDayNames.getD d "").toList ++ ',' :: rest)
      = some (some d, rest) := by
    simp only [weekDay?, hday, char?_self, Option.map_some]
  have hdate (rest : List Char) : number? 1 2 (trimStart (' ' :: (padded 2 n ++ rest)))
      = some (n, rest) := by
    have hspace : trimStart (' ' :: (padded 2 n ++ rest)) = padded 2 n ++ rest :=
      trimStart_padded 2 n rest
    rw [hspace, number?_padded (by decide) (by decide) hn]
  have hname := threeLetters_monthNames.startsVisible hm
  obtain ⟨c, cs, htext, hc⟩ := hstart
  have htrim : trimStart (c :: cs) = c :: cs := by
    simp [trimStart, hc]
  rw [← htext] at htrim
  unfold instant?
  rw [htrim]
  refine (bind_of_eq_some (hweek _) _).trans ?_
  refine (bind_of_eq_some (hdate _) _).trans ?_
  refine (bind_of_eq_some (blanks?_space (hname.append _)) _).trans ?_
  refine (bind_of_eq_some (hmonth _) _).trans ?_
  exact bind_of_eq_some (blanks?_space hrest) _

theorem inYear?_of_head (hc : c.isDigit = false) (weekDay : Option Nat) (date month : Nat)
    (cs : List Char) : inYear? weekDay date month (c :: cs) = none := by
  have hyear : year? (c :: cs) = none := by
    simp [year?, numeral?, number?, hc]
  show (year? (c :: cs)).bind _ = none
  rw [hyear, Option.bind_none]

/-- A year of four digits or more is no short one. -/
theorem year?_padded (n : Nat) (hc : c.isDigit = false) (rest : List Char) :
    year? (padded 4 n ++ c :: rest) = some (n, c :: rest) := by
  have hlength : 4 ≤ (padded 4 n).length := by
    simp [padded, padLeft]
    omega
  have hread : numeral? 2 (padded 4 n ++ c :: rest) = some (n, c :: rest) :=
    numeral?_append (by omega) (by simp [hc])
  have hwidth : yearOf n (padded 4 n).length = n := by
    rw [yearOf, if_neg (by omega), if_neg (by omega)]
  simp [year?, hread, hwidth]

theorem inYear?_GMT (hp : p.Fits) (weekDay : Option Nat) (date month y : Nat) :
    inYear? weekDay date month (padded 4 y ++ ' ' :: (p.fullClock ++ " GMT".toList))
      = (Parts.moment? ⟨y, month + 1, date, p.hour, p.minute, p.second, 0⟩).bind fun m =>
          if (weekDay.all fun d => (d : Int) = Calendar.weekDay (m.seconds * msPerSecond))
            && timeInSpan (m.seconds * msPerSecond) then some m else none := by
  have hclock : StartsVisible (p.fullClock ++ " GMT".toList) := by
    simp only [Parts.fullClock, Parts.clock, List.append_assoc]
    exact (startsVisible_padded 2 p.hour).append _
  have hminute (rest : List Char) : number? 2 2 (trimStart (padded 2 p.minute ++ rest))
      = some (p.minute, rest) := by
    rw [trimStart_padded, number?_two hp.minute]
  have hsecond : second? (':' :: (padded 2 p.second ++ " GMT".toList))
      = some (p.second, " GMT".toList) := number?_two hp.second _
  have hzone : zone? "GMT".toList = some (0, []) := by decide
  have hzero (m : Moment) : m.behind 0 = m := by
    rw [Moment.behind, sub_zero]
  unfold inYear?
  refine (bind_of_eq_some (year?_padded y (by decide) _) _).trans ?_
  refine (bind_of_eq_some (blanks?_space hclock) _).trans ?_
  simp only [Parts.fullClock, Parts.clock, List.append_assoc, List.cons_append]
  refine (bind_of_eq_some (number?_two hp.hour _) _).trans ?_
  refine (bind_of_eq_some (char?_self ':' _) _).trans ?_
  refine (bind_of_eq_some (hminute _) _).trans ?_
  refine (bind_of_eq_some hsecond _).trans ?_
  refine (bind_of_eq_some (blanks?_space ⟨'G', _, rfl, rfl⟩) _).trans ?_
  refine (bind_of_eq_some hzone _).trans ?_
  simp [hzero, onlyComments]

end Rfc2822

end Reading

/-! ## The text -/

namespace Calendar.CivilTime

open Reading

variable {f : CivilTime} {t : Int}

theorem utcText_eq (f : CivilTime) :
    f.utcText = (weekDayNames.getD f.weekDay.toNat "").toList ++ ',' :: ' ' ::
      (padded 2 f.parts.date ++ ' ' :: ((monthNames.getD f.month "").toList ++ ' ' ::
        (f.yearText ++ ' ' :: (f.parts.fullClock ++ " GMT".toList)))) := by
  simp [utcText, weekDayName, monthName, CivilTime.clock, Parts.fullClock, Parts.clock,
    CivilTime.parts]

theorem yearText_cases (f : CivilTime) :
    f.year < 0 ∧ f.yearText = '-' :: padded 4 f.year.natAbs
      ∨ ∃ y : Nat, f.year = y ∧ f.yearText = padded 4 y := by
  by_cases h : f.year < 0
  · exact Or.inl ⟨h, if_pos h⟩
  · exact Or.inr ⟨f.year.natAbs, by omega, if_neg h⟩

theorem startsVisible_yearText (f : CivilTime) : StartsVisible f.yearText := by
  rcases yearText_cases f with ⟨-, htext⟩ | ⟨y, -, htext⟩
  · exact ⟨'-', _, htext, by decide⟩
  · rw [htext]
    exact startsVisible_padded 4 y

theorem lt_length_weekDayNames (hweek : 0 ≤ f.weekDay ∧ f.weekDay ≤ 6) :
    f.weekDay.toNat < weekDayNames.length := by
  show f.weekDay.toNat < 7
  omega

/-- The weekday is no month, if only for its comma. -/
theorem monthName?_utcText (hweek : 0 ≤ f.weekDay ∧ f.weekDay ≤ 6) :
    monthName? f.utcText = none := by
  have hday := lt_length_weekDayNames hweek
  have hlength := (threeLetters_weekDayNames f.weekDay.toNat hday).1
  have hchars := threeLetters_weekDayNames.inName hday
  have hsplit : f.utcText = ((weekDayNames.getD f.weekDay.toNat "").toList ++ [',']) ++ ' ' ::
      (padded 2 f.parts.date ++ ' ' :: ((monthNames.getD f.month "").toList ++ ' ' ::
        (f.yearText ++ ' ' :: (f.parts.fullClock ++ " GMT".toList)))) := by
    rw [utcText_eq, List.append_assoc]
    rfl
  have hword : ∀ c ∈ (weekDayNames.getD f.weekDay.toNat "").toList ++ [','], isBlank c = false := by
    intro c hc
    rcases List.mem_append.mp hc with hc | hc
    · exact (hchars c hc).1
    · rw [List.mem_singleton.mp hc]
      rfl
  rw [hsplit]
  refine monthName?_of_words (words_append (by simp) hword (by simp; decide)) ?_
  have table : ∀ name ∈ monthNames, name.toList.length = 3 := by decide
  intro name hmem heq
  have := table name hmem
  rw [heq, List.length_append, hlength] at this
  simp at this

/-- A mail date reads the text of a whole second, from the year zero to the last of the span. -/
theorem mail_utcText (ht : t.natAbs ≤ maxLocalTime) (hsecond : t % msPerSecond = 0) :
    instantForm Rfc2822.instant? (ofTime t).utcText
      = if 0 ≤ yearOf t ∧ yearOf t ≤ 262142 then some (.instant t) else none := by
  have hf := proper_ofTime ht
  have hweek := weekDay_bounds t
  have hstart := (startsVisible_yearText (ofTime t)).append
    (' ' :: ((ofTime t).parts.fullClock ++ " GMT".toList))
  have hread := Rfc2822.instant?_weekDay (d := (ofTime t).weekDay.toNat) (m := (ofTime t).month)
    (lt_length_weekDayNames hweek) (Nat.lt_succ_of_le hf.month) hf.parts.fits.date hstart
  rw [instantForm, utcText_eq, hread]
  rcases yearText_cases (ofTime t) with ⟨hneg, htext⟩ | ⟨y, hy, htext⟩
  · have hneg' : ¬ (0 ≤ yearOf t ∧ yearOf t ≤ 262142) := fun h => absurd h.1 (not_le.mpr hneg)
    rw [htext, List.cons_append, Rfc2822.inYear?_of_head (by decide), if_neg hneg', Option.map_none]
  · have hyear : yearOf t = y := hy
    have hzero : (ofTime t).parts.ms = 0 := by
      simp [CivilTime.parts, ofTime, msOf, hsecond]
    obtain ⟨m, htime, hms, hm⟩ := hf.parts.moment?_eq
    rw [time_parts hf, time_ofTime ht] at htime
    have hseconds : m.seconds * msPerSecond = t := by
      rw [← htime, Moment.time, hms, hzero]
      simp
    have hparts : (⟨y, (ofTime t).month + 1, (ofTime t).parts.date, (ofTime t).parts.hour,
        (ofTime t).parts.minute, (ofTime t).parts.second, 0⟩ : Parts) = (ofTime t).parts := by
      rw [← hy, ← hzero]
      rfl
    have hday : (((ofTime t).weekDay.toNat : Nat) : Int) = Calendar.weekDay t :=
      Int.toNat_of_nonneg hweek.1
    have hspan : inSpan (ofTime t).parts.year = inSpan y := congrArg inSpan hy
    rw [htext, Rfc2822.inYear?_GMT hf.parts.fits, hparts, hm, hspan]
    by_cases h : inSpan y = true
    · have hin : timeInSpan t = true := by
        rw [Zone.timeInSpan_eq, hyear, h]
      have hbounds := inSpan_iff.mp h
      rw [if_pos h, if_pos (by omega), Option.bind_some, hseconds]
      simp [hday, hin, htime]
    · have hout := mt inSpan_iff.mpr h
      rw [if_neg h, if_neg (by omega), Option.bind_none, Option.map_none]

/-- No form but the mail date reads the text. -/
theorem ofText?_utcText (ht : t.natAbs ≤ maxLocalTime) (hsecond : t % msPerSecond = 0) :
    ofText? (ofTime t).utcText
      = if 0 ≤ yearOf t ∧ yearOf t ≤ 262142 then some (.instant t) else none := by
  have hweek := weekDay_bounds t
  have hday := lt_length_weekDayNames hweek
  have hmail := mail_utcText ht hsecond
  obtain ⟨c, cs, hname, hc⟩ := threeLetters_weekDayNames.exists_cons hday
  obtain ⟨rest, htext⟩ : ∃ rest, (ofTime t).utcText = c :: rest := by
    rw [utcText_eq, hname]
    exact ⟨_, rfl⟩
  have hstamp : Rfc3339.instant? (ofTime t).utcText = none := by
    rw [htext]
    exact Rfc3339.instant?_of_head hc.2.1 rest
  split_ifs at hmail ⊢ with hyear
  · exact ofText?_of_mail hstamp hmail
  · rw [ofText?_of_none hstamp (Option.map_eq_none_iff.mp hmail) (monthName?_utcText hweek), htext,
      goOn?_of_inName hc]

/-- The start of a second has the fields of the times in it, but for the milliseconds. -/
theorem ofTime_second (ht : t.natAbs ≤ maxLocalTime) :
    ofTime (1000 * (t / 1000)) = { ofTime t with ms := 0 } := by
  have hf := proper_ofTime ht
  have hf' : { ofTime t with ms := 0 : CivilTime }.Proper := { hf with ms := ⟨le_rfl, by simp⟩ }
  have htime : { ofTime t with ms := 0 : CivilTime }.time = 1000 * (t / 1000) := by
    have hwhole : (ofTime t).time = { ofTime t with ms := 0 : CivilTime }.time + (ofTime t).ms := by
      simp only [time]
      ring
    have hms : (ofTime t).ms = t % 1000 := rfl
    rw [time_ofTime ht] at hwhole
    omega
  have hday : day (1000 * (t / 1000)) = day t := by
    have hsecond : (1000 * (t / 1000)).natAbs < 2 ^ 53 := by
      unfold maxLocalTime at ht
      omega
    rw [day_eq hsecond, day_eq (small_of_local ht)]
    unfold msPerDay
    omega
  have hweek : Calendar.weekDay (1000 * (t / 1000)) = (ofTime t).weekDay := by
    rw [Calendar.weekDay, hday]
    rfl
  rw [← htime, ofTime_time hf', htime, hweek]

end Calendar.CivilTime

namespace Date

variable {zone : Zone} {d : Date}

theorem toUTCString_finite {t : Int} (h : d.timeValue = .finite t) :
    d.toUTCString = String.ofList (CivilTime.ofTime t).utcText := by
  rw [toUTCString, utcTime?_finite h]

theorem visible_utcText (t : Int) :
    StartsVisible (CivilTime.ofTime t).utcText ∧ EndsVisible (CivilTime.ofTime t).utcText := by
  have hday := CivilTime.lt_length_weekDayNames (CivilTime.weekDay_bounds t)
  have hend : EndsVisible " GMT".toList := ⟨" GM".toList, 'T', rfl, by decide⟩
  rw [CivilTime.utcText_eq]
  exact ⟨(Reading.threeLetters_weekDayNames.startsVisible hday).append _,
    ((((((hend.append _).cons ' ').append _).cons ' ').append _).cons ' ' |>.append _).cons ' '
      |>.cons ',' |>.append _⟩

/-- The UTC text of a valid date is read back, in any zone, as the start of its second when its
year is one that a mail date can have, and not at all otherwise. -/
theorem parse_utcText (h : Reached zone d) (hvalid : d.isValid = true) :
    ∃ t : Int, d.timeValue = .finite t ∧ ∀ reader : Zone,
      (parse reader d.toUTCString).value
        = if 0 ≤ yearOf t ∧ yearOf t ≤ 262142 then some (.finite (1000 * (t / 1000) : Int))
          else none := by
  rcases h.isTimeValue with hnan | ⟨t, hrange, ht⟩
  · simp [isValid, hnan, isNaN] at hvalid
  refine ⟨t, ht, fun reader => ?_⟩
  have hsmall := small_time hrange
  have hsecond : (1000 * (t / 1000)).natAbs ≤ 8640000000000000 := by omega
  have hfields := CivilTime.ofTime_second hsmall
  have htext : (CivilTime.ofTime t).utcText = (CivilTime.ofTime (1000 * (t / 1000))).utcText := by
    rw [hfields]
    rfl
  have hyear : yearOf (1000 * (t / 1000)) = yearOf t := congrArg CivilTime.year hfields
  obtain ⟨hstart, hend⟩ := visible_utcText (1000 * (t / 1000))
  rw [toUTCString_finite ht, htext, value_parse hstart hend,
    CivilTime.ofText?_utcText (small_time hsecond) (by unfold msPerSecond; omega), hyear,
    ← ofInt_eq (CivilTime.small_of_local (small_time hsecond))]
  split_ifs <;> rfl

/-- Half a second into the year 99, which a mail date must not take for 1999. -/
def yearNinetyNine : Date := ofTime Zone.utc (.ofInt (-59042995199500))

theorem parse_utcText_early_years :
    yearNinetyNine.isValid = true ∧ yearMinusOne.isValid = true
      ∧ yearNinetyNine.toUTCString = "Thu, 01 Jan 0099 00:00:00 GMT"
      ∧ (parse Zone.newYearZone "Thu, 01 Jan 0099 00:00:00 GMT").value
        = some (.finite (-59042995200000))
      ∧ yearMinusOne.toUTCString = "Fri, 01 Jan -0001 00:00:00 GMT"
      ∧ (parse Zone.newYearZone "Fri, 01 Jan -0001 00:00:00 GMT").value = none := by
  have htime : yearNinetyNine.timeValue = .finite (-59042995199500 : Int) :=
    (TimeValue.clip_ofInt _).trans (if_pos (by decide))
  have htime' : yearMinusOne.timeValue = .finite (-62198755200000 : Int) :=
    (TimeValue.clip_ofInt _).trans (if_pos (by decide))
  have hfields : CivilTime.ofTime (-59042995199500) = ⟨99, 0, 1, 4, 0, 0, 0, 500⟩ :=
    Gregorian.ofTime_of_proper (by constructor <;> decide) (by decide) (by decide)
  have hfields' : CivilTime.ofTime (-62198755200000) = ⟨-1, 0, 1, 5, 0, 0, 0, 0⟩ :=
    Gregorian.ofTime_of_proper (by constructor <;> decide) (by decide) (by decide)
  have htext : yearNinetyNine.toUTCString = "Thu, 01 Jan 0099 00:00:00 GMT" := by
    rw [toUTCString_finite htime, hfields]
    decide +kernel
  have htext' : yearMinusOne.toUTCString = "Fri, 01 Jan -0001 00:00:00 GMT" := by
    rw [toUTCString_finite htime', hfields']
    decide +kernel
  have hvalid : yearNinetyNine.isValid = true := by
    rw [isValid, htime]
    rfl
  have hvalid' : yearMinusOne.isValid = true := by
    rw [isValid, htime']
    rfl
  refine ⟨hvalid, hvalid', htext, ?_, htext', ?_⟩
  · obtain ⟨t, ht, hread⟩ := parse_utcText (d := yearNinetyNine) (.time _) hvalid
    obtain rfl : -59042995199500 = t := Int.cast_inj.mp (finite.inj (htime.symm.trans ht))
    have hyear : yearOf (-59042995199500) = 99 := congrArg CivilTime.year hfields
    rw [← htext, hread, hyear]
    rfl
  · obtain ⟨t, ht, hread⟩ := parse_utcText (d := yearMinusOne) (.time _) hvalid'
    obtain rfl : -62198755200000 = t := Int.cast_inj.mp (finite.inj (htime'.symm.trans ht))
    have hyear : yearOf (-62198755200000) = -1 := congrArg CivilTime.year hfields'
    rw [← htext', hread, hyear]
    rfl

end Date

end ScriptDate
