import ScriptDate.Proofs.Components
import ScriptDate.Proofs.Forms

/-!
# Spellings of a date

The texts that spell one civil date and time give the instant that its components give, in
whatever zone (`parse_spellings`).
-/

namespace ScriptDate

open Calendar Number Text

namespace Reading

variable {p : Parts} {rest : List Char} {n : Nat}

namespace Parts

/-! ## Texts -/

def yearText (p : Parts) : List Char := padded 4 p.year.natAbs

/-- As in `2020-01-31`. -/
def dashed (p : Parts) : List Char := p.yearText ++ p.afterYear '-'

/-- As in `2020/01/31`. -/
def slashed (p : Parts) : List Char := p.yearText ++ p.afterYear '/'

/-- As in `01/31/2020`. -/
def monthFirst (p : Parts) : List Char := p.beforeYear ++ p.yearText

def monthText (p : Parts) : List Char := (monthNames.getD (p.month - 1) "").toList

/-- As in `Jan 31, 2020`; the day has at least `width` digits. -/
def named (p : Parts) (width : Nat) : List Char :=
  p.monthText ++ ' ' :: padded width p.date ++ ", ".toList ++ p.yearText

/-- The texts of a local date and time. -/
def dateTimeTexts (p : Parts) : List (List Char) :=
  [p.dashed ++ 'T' :: p.fullClock, p.dashed ++ ' ' :: p.fullClock, p.slashed ++ ' ' :: p.fullClock,
    p.monthFirst ++ ' ' :: p.fullClock]

/-- The texts of a local date. -/
def dateTexts (p : Parts) (width : Nat) : List (List Char) :=
  [p.named width, p.monthFirst, p.slashed]

/-- The components of the date, with the month from zero. -/
def dateFields (p : Parts) : List Int := [p.year, p.month - 1, p.date]

/-- The components of the date and the time, down to seconds. -/
def fields (p : Parts) : List Int := [p.year, p.month - 1, p.date, p.hour, p.minute, p.second]

end Parts

/-! ## Month names -/

/-- A month's name is a word of three letters, its own and no weekday's. -/
theorem monthText_spec (hp : p.Proper) : p.monthText.length = 3
    ∧ (∀ c ∈ p.monthText, isBlank c = false ∧ c.isDigit = false)
    ∧ monthNames.findIdx? (fun name => name.toList = p.monthText) = some (p.month - 1)
    ∧ weekDayNames.findIdx? (fun name => name.toList.map Char.toLower
      = p.monthText.map Char.toLower) = none := by
  have table : ∀ m < 12,
      monthNames.findIdx? (fun name => name.toList = (monthNames.getD m "").toList) = some m
        ∧ weekDayNames.findIdx? (fun name => name.toList.map Char.toLower
          = (monthNames.getD m "").toList.map Char.toLower) = none := by
    decide
  have hmonth := hp.month
  have hindex : p.month - 1 < monthNames.length := by
    show p.month - 1 < 12
    omega
  obtain ⟨hmonths, hdays⟩ := table (p.month - 1) hindex
  refine ⟨(threeLetters_monthNames _ hindex).1, fun c hc => ?_, hmonths, hdays⟩
  obtain ⟨hb, hd, -⟩ := threeLetters_monthNames.inName hindex c hc
  exact ⟨hb, hd⟩

theorem exists_monthText (hp : p.Proper) :
    ∃ c cs, p.monthText = c :: cs ∧ isBlank c = false ∧ c.isDigit = false := by
  obtain ⟨hlength, hchars, -⟩ := monthText_spec hp
  obtain ⟨c, cs, hname⟩ : ∃ c cs, p.monthText = c :: cs :=
    List.exists_cons_of_ne_nil fun h => by simp [h] at hlength
  exact ⟨c, cs, hname, hchars c (hname ▸ List.mem_cons_self)⟩

theorem dropCommas_padded (w n : Nat) : dropCommas (padded w n ++ [',']) = padded w n := by
  obtain ⟨front, d, heq, hd⟩ : ∃ front d, padded w n = front ++ [d] ∧ d ≠ ',' := by
    refine ⟨_, _, (List.dropLast_concat_getLast (padded_ne_nil w n)).symm, fun h => ?_⟩
    have := isDigit_of_mem_padded (List.getLast_mem (padded_ne_nil w n))
    rw [h] at this
    exact absurd this (by decide)
  simp [dropCommas, heq, hd]

theorem plusNumber?_padded (w n : Nat) : plusNumber? (padded w n) = some n := by
  rw [← wholeNumber?_padded w n]
  obtain ⟨c, cs, hc, heq⟩ := padded_append w n []
  rw [List.append_nil] at heq
  rw [heq]
  unfold plusNumber?
  split <;> simp_all

theorem wholeInt?_padded (w n : Nat) : wholeInt? (padded w n) = some (n : Int) := by
  have hsign := sign?_padded w n []
  rw [List.append_nil] at hsign
  simp [wholeInt?, hsign, wholeNumber?_padded]

theorem words_named (hp : p.Proper) (w : Nat) :
    words (p.named w) = [p.monthText, padded w p.date ++ [','], p.yearText] := by
  obtain ⟨hlength, hchars, -⟩ := monthText_spec hp
  have hname : IsWord p.monthText :=
    ⟨List.ne_nil_of_length_pos (by omega), fun c hc => (hchars c hc).1⟩
  have hcomma : IsWord [','] := ⟨by simp, by simp; decide⟩
  have htext : p.named w
      = p.monthText ++ ' ' :: ((padded w p.date ++ [',']) ++ ' ' :: p.yearText) := by
    simp [Parts.named]
  rw [htext, hname.words_space, ((isWord_padded w p.date).append hcomma).words_space,
    Parts.yearText, (isWord_padded 4 _).words]

theorem monthName?_named (hp : p.Proper) (w : Nat) (hyear : 0 ≤ p.year) :
    monthName? (p.named w) = p.day.moment? := by
  obtain ⟨-, -, hmonth, -⟩ := monthText_spec hp
  simp [monthName?, words_named hp, hmonth, dropCommas_padded, plusNumber?_padded, Parts.yearText,
    wholeInt?_padded, Parts.day, hp.month.1, abs_of_nonneg hyear]

/-- A text that begins with a month's name is no timestamp and no mail date. -/
theorem instant?_named (hp : p.Proper) (w : Nat) :
    Rfc3339.instant? (p.named w) = none ∧ Rfc2822.instant? (p.named w) = none := by
  obtain ⟨hlength, -, -, hweek⟩ := monthText_spec hp
  obtain ⟨c, cs, hname, hb, hd⟩ := exists_monthText hp
  have hfirst : p.named w = c :: (cs ++ ' ' :: padded w p.date ++ ", ".toList ++ p.yearText) := by
    simp [Parts.named, hname]
  have hnone : Rfc2822.name? weekDayNames (p.named w) = none := by
    have htake : (p.named w).take 3 = p.monthText := by
      simp only [Parts.named, List.append_assoc]
      rw [List.take_append_of_le_length hlength.ge, List.take_of_length_le hlength.le]
    rw [Rfc2822.name?, htake, hweek]
    rfl
  rw [hfirst] at hnone ⊢
  exact ⟨Rfc3339.instant?_of_head hd _, Rfc2822.instant?_of_head hb hd hnone⟩

/-! ## Ends -/

theorem startsVisible_texts (p : Parts) :
    StartsVisible p.dashed ∧ StartsVisible p.slashed ∧ StartsVisible p.monthFirst := by
  have hyear : StartsVisible p.yearText := startsVisible_padded 4 _
  have hmonth : StartsVisible p.beforeYear := (startsVisible_padded 2 p.month).append _ |>.append _
  exact ⟨hyear.append _, hyear.append _, hmonth.append _⟩

theorem endsVisible_clock (p : Parts) : EndsVisible p.clock :=
  ((endsVisible_padded 2 p.minute).cons ':').append _

theorem endsVisible_fullClock (p : Parts) : EndsVisible p.fullClock :=
  ((endsVisible_padded 2 p.second).cons ':').append _

theorem visible_dateTimeTexts (p : Parts) :
    ∀ text ∈ p.dateTimeTexts, StartsVisible text ∧ EndsVisible text := by
  obtain ⟨hdashed, hslashed, hmonth⟩ := startsVisible_texts p
  have hend := fun (c : Char) => (endsVisible_fullClock p).cons c
  simp only [Parts.dateTimeTexts, List.forall_mem_cons]
  exact ⟨⟨hdashed.append _, (hend 'T').append _⟩, ⟨hdashed.append _, (hend ' ').append _⟩,
    ⟨hslashed.append _, (hend ' ').append _⟩, ⟨hmonth.append _, (hend ' ').append _⟩, by simp⟩

theorem visible_dateTexts (hp : p.Proper) (w : Nat) :
    ∀ text ∈ p.dashed :: p.dateTexts w, StartsVisible text ∧ EndsVisible text := by
  obtain ⟨hdashed, hslashed, hmonth⟩ := startsVisible_texts p
  obtain ⟨c, cs, hname, hb, -⟩ := exists_monthText hp
  have hnamed : StartsVisible p.monthText := ⟨c, cs, hname, hb⟩
  have hyear : EndsVisible p.yearText := endsVisible_padded 4 _
  have hday (c : Char) : EndsVisible (p.afterYear c) :=
    ((endsVisible_padded 2 p.date).cons c).append (padded 2 p.month) |>.cons c
  simp only [Parts.dateTexts, List.forall_mem_cons]
  exact ⟨⟨hdashed, (hday '-').append _⟩, ⟨((hnamed.append _).append _).append _, hyear.append _⟩,
    ⟨hmonth, hyear.append _⟩, ⟨hslashed, (hday '/').append _⟩, by simp⟩

/-! ## What the texts say -/

variable (hp : p.Proper) (hyear : 0 ≤ p.year ∧ p.year ≤ 9999)
include hp hyear

omit hp in
theorem exists_yearText : ∃ y : Nat, y < 10000 ∧ p.year = y ∧ p.yearText = padded 4 y :=
  ⟨p.year.natAbs, by omega, by omega, rfl⟩

theorem Parts.Proper.map_moment?_some (f : Int → Reading) :
    (p.moment?.map fun m => f m.time) = some (f p.time) := by
  rw [hp.map_moment?, if_pos (inSpan_iff.mpr (by omega))]

theorem ofText?_dashed_append (hstamp : ∀ y < 10000,
      Rfc3339.instant? (padded 4 y ++ (p.afterYear '-' ++ rest)) = none) :
    ofText? (p.dashed ++ rest) = goOn? dashedTails p.day rest := by
  obtain ⟨y, hy, hyear', htext⟩ := exists_yearText hyear
  rw [Parts.dashed, htext, List.append_assoc,
    ofText?_dashed (hyear' ▸ yearText_padded hy) hp.fits (hstamp y hy)]

theorem ofText?_slashed_append (rest : List Char) :
    ofText? (p.slashed ++ rest) = goOn? slashedTails p.day rest := by
  obtain ⟨y, hy, hyear', htext⟩ := exists_yearText hyear
  rw [Parts.slashed, htext, List.append_assoc, ofText?_slashed hy hyear' hp.fits]

theorem ofText?_monthFirst_append (hrest : char? ':' rest = none) :
    ofText? (p.monthFirst ++ rest) = goOn? slashedTails p.day rest := by
  obtain ⟨y, hy, hyear', htext⟩ := exists_yearText hyear
  rw [Parts.monthFirst, htext, List.append_assoc, ofText?_monthFirst hy hyear' hp.fits hrest]

/-- The texts of a local date and time say that time. -/
theorem ofText?_dateTime :
    ∀ text ∈ p.dateTimeTexts, ofText? text = some (.localTime p.atSecond.time) := by
  have hread := hp.atSecond.map_moment?_some hyear .localTime
  simp only [Parts.dateTimeTexts, List.forall_mem_cons]
  refine ⟨?_, ?_, ?_, ?_, by simp⟩
  · rw [ofText?_dashed_append hp hyear fun y hy => Rfc3339.instant?_fullClock hy hp.fits rfl,
      goOn?_T_fullClock hp.fits, hread]
  · rw [ofText?_dashed_append hp hyear fun y hy => Rfc3339.instant?_fullClock hy hp.fits rfl,
      goOn?_dashed_blank hp.fits, hread]
  · rw [ofText?_slashed_append hp hyear, goOn?_slashed_blank hp.fits, hread]
  · rw [ofText?_monthFirst_append hp hyear rfl, goOn?_slashed_blank hp.fits, hread]

theorem ofText?_minute : ofText? (p.dashed ++ 'T' :: p.clock)
    = some (.localTime p.atMinute.time) := by
  rw [ofText?_dashed_append hp hyear fun y hy => Rfc3339.instant?_T_clock hy hp.fits,
    goOn?_T_clock hp.fits, hp.atMinute.map_moment?_some hyear]

theorem ofText?_named (w : Nat) : ofText? (p.named w) = some (.localTime p.day.time) := by
  obtain ⟨hstamp, hmail⟩ := instant?_named hp w
  refine ofText?_of_monthName hstamp hmail ?_
  rw [localForm, monthName?_named hp w hyear.1, hp.day.map_moment?_some hyear]

/-- The texts of a date alone say the start of that day; with dashes they mean UTC. -/
theorem ofText?_date (w : Nat) :
    (∀ text ∈ p.dateTexts w, ofText? text = some (.localTime p.day.time))
    ∧ ofText? p.dashed = some (.instant p.day.time) := by
  have hread := fun f => hp.day.map_moment?_some hyear f
  simp only [Parts.dateTexts, List.forall_mem_cons]
  refine ⟨⟨ofText?_named hp hyear w, ?_, ?_, by simp⟩, ?_⟩
  · rw [← List.append_nil p.monthFirst, ofText?_monthFirst_append hp hyear rfl,
      goOn?_slashed_nil, hread]
  · rw [← List.append_nil p.slashed, ofText?_slashed_append hp hyear, goOn?_slashed_nil, hread]
  · rw [← List.append_nil p.dashed, ofText?_dashed_append hp hyear, goOn?_dashed_nil, hread]
    exact fun y hy => Rfc3339.instant?_date hy hp.fits []

/-- With a `Z` the text is a timestamp. -/
theorem ofText?_instant : ofText? (p.dashed ++ 'T' :: (p.fullClock ++ ['Z']))
    = some (.instant p.atSecond.time) := by
  obtain ⟨y, hy, hyear', htext⟩ := exists_yearText hyear
  have hread := hp.atSecond.map_moment?_some hyear .instant
  have hzero : fraction? ['Z'] = some (0, ['Z']) := rfl
  have hstamp := Rfc3339.instant?_Z hy hp.fits hzero
  rw [← hyear'] at hstamp
  rw [Parts.dashed, htext, List.append_assoc]
  refine ofText?_of_timestamp ?_
  rw [instantForm, hstamp]
  exact hread

end Reading

/-! ## What the components say -/

namespace Reading.Parts

variable {p : Parts}

theorem small_fields (hp : p.Proper) (hyear : 100 ≤ p.year ∧ p.year ≤ 9999) :
    (∀ n ∈ p.fields, n.natAbs ≤ 10 ^ 9) ∧ ∀ n ∈ p.dateFields, n.natAbs ≤ 10 ^ 9 := by
  have hmonth := hp.month
  have hdate := hp.date_le
  obtain ⟨-, -, hhour, hminute, hsecond, -⟩ := hp
  simp only [fields, dateFields, List.forall_mem_cons]
  refine ⟨⟨?_, ?_, ?_, ?_, ?_, ?_, by simp⟩, ?_, ?_, ?_, by simp⟩ <;> omega

/-- The components of proper parts stand for their time, and those of the date for its start. -/
theorem ofComponents_fields (hp : p.Proper) (hyear : 100 ≤ p.year ∧ p.year ≤ 9999) :
    TimeValue.ofComponents (p.fields.map .ofInt) = .ofInt p.atSecond.time
      ∧ TimeValue.ofComponents (p.dateFields.map .ofInt) = .ofInt p.day.time := by
  have hmonth := hp.month
  obtain ⟨hsmall, hsmall'⟩ := small_fields hp hyear
  have hindex : ((p.month : Int) - 1).toNat = p.month - 1 := by omega
  constructor
  · obtain ⟨hyear', htime⟩ := TimeValue.exactTime_ofInt hsmall hyear.1 (by simp [fields]; omega)
    rw [TimeValue.ofComponents_eq (by simp [fields]) (TimeValue.moderate_ofInt hsmall), htime,
      hyear', if_neg (by simp [fields]; omega)]
    simp [fields, time, atSecond, hindex]
  · obtain ⟨hyear', htime⟩ :=
      TimeValue.exactTime_ofInt hsmall' hyear.1 (by simp [dateFields]; omega)
    rw [TimeValue.ofComponents_eq (by simp [dateFields]) (TimeValue.moderate_ofInt hsmall'), htime,
      hyear', if_neg (by simp [dateFields]; omega)]
    simp [dateFields, time, day, hindex]

/-- These years are well inside the range of time values. -/
theorem natAbs_time_le (hp : p.Proper) (hyear : 100 ≤ p.year ∧ p.year ≤ 9999) :
    p.time.natAbs ≤ 8640000000000000 := by
  have hmonth := hp.month
  have hdate := hp.date
  have hdate' := hp.date_le
  have hbefore := TimeValue.daysBeforeMonth_bounds (m := p.month - 1) (by omega) (isLeap p.year)
  obtain ⟨-, -, hhour, hminute, hsecond, hms⟩ := hp
  rw [time, ← Gregorian.dayOfDate_eq (by omega), dayOfDate, firstDay]
  omega

end Reading.Parts

namespace Date

open Reading

variable {p : Parts}

theorem value_localTime {cs : List Number} (h : TimeValue.acceptable cs = true) {l : Int}
    (hcs : TimeValue.ofComponents cs = .ofInt l) (zone : Zone) :
    ((Reading.localTime l).timeValue zone).value = (ofComponents zone cs).value.timeValue := by
  rw [timeValue_ofComponents h, hcs]
  rfl

theorem value_instant {cs : List Number} (h : TimeValue.acceptable cs = true) {t : Int}
    (hcs : TimeValue.ofComponents cs = .ofInt t) (ht : t.natAbs ≤ 8640000000000000) (zone : Zone) :
    ((Reading.instant t).timeValue zone).value = TimeValue.utc cs := by
  rw [TimeValue.utc, if_pos h, hcs, TimeValue.clip_ofInt, if_pos ht]
  exact ofInt_eq (by omega)

/-- Every spelling of a date and a time gives what its components give: a local time in the zone
it is read in, or an instant in any zone when it has a `Z` or is a date with dashes. -/
theorem parse_spellings (zone : Zone) {p : Parts} (hp : p.Proper)
    (hyear : 100 ≤ p.year ∧ p.year ≤ 9999) :
    (∀ text ∈ p.dateTimeTexts, (parse zone (String.ofList text)).value
        = some (ofComponents zone (p.fields.map .ofInt)).value.timeValue)
    ∧ (parse zone (String.ofList (p.dashed ++ 'T' :: p.clock))).value
        = some (ofComponents zone (p.atMinute.fields.map .ofInt)).value.timeValue
    ∧ (∀ width, ∀ text ∈ p.dateTexts width, (parse zone (String.ofList text)).value
        = some (ofComponents zone (p.dateFields.map .ofInt)).value.timeValue)
    ∧ (parse zone (String.ofList (p.dashed ++ 'T' :: (p.fullClock ++ ['Z'])))).value
        = some (TimeValue.utc (p.fields.map .ofInt))
    ∧ (parse zone (String.ofList p.dashed)).value
        = some (TimeValue.utc (p.dateFields.map .ofInt)) := by
  have hyear' : 0 ≤ p.year ∧ p.year ≤ 9999 := by omega
  obtain ⟨hfields, hdate⟩ := Parts.ofComponents_fields hp hyear
  have hminute : TimeValue.ofComponents (p.atMinute.fields.map .ofInt) = .ofInt p.atMinute.time :=
    (Parts.ofComponents_fields hp.atMinute hyear).1
  obtain ⟨hdashed, -⟩ := startsVisible_texts p
  have hZ : EndsVisible (p.dashed ++ 'T' :: (p.fullClock ++ ['Z'])) :=
    ((EndsVisible.append ⟨[], 'Z', rfl, by decide⟩ p.fullClock).cons 'T').append _
  refine ⟨fun text htext => ?_, ?_, fun width text htext => ?_, ?_, ?_⟩
  · obtain ⟨hstart, hend⟩ := visible_dateTimeTexts p text htext
    rw [value_parse hstart hend, ofText?_dateTime hp hyear' text htext, Option.map_some,
      value_localTime rfl hfields]
  · rw [value_parse (hdashed.append _) (((endsVisible_clock p).cons 'T').append _),
      ofText?_minute hp hyear', Option.map_some, value_localTime rfl hminute]
  · obtain ⟨hstart, hend⟩ := visible_dateTexts hp width text (List.mem_cons_of_mem _ htext)
    rw [value_parse hstart hend, (ofText?_date hp hyear' width).1 text htext, Option.map_some,
      value_localTime rfl hdate]
  · rw [value_parse (hdashed.append _) hZ, ofText?_instant hp hyear', Option.map_some,
      value_instant rfl hfields (Parts.natAbs_time_le hp.atSecond hyear)]
  · obtain ⟨hstart, hend⟩ := visible_dateTexts hp 2 p.dashed List.mem_cons_self
    rw [value_parse hstart hend, (ofText?_date hp hyear' 2).2, Option.map_some,
      value_instant rfl hdate (Parts.natAbs_time_le hp.day hyear)]

/-- Two seconds before the end of a leap day. -/
def leapDay : Parts :=
  { year := 2000, month := 2, date := 29, hour := 23, minute := 59, second := 58 }

/-- Nine hours ahead of UTC. -/
def nineAhead : Zone := .fixed ⟨32400, by decide⟩

theorem parse_spellings_leap_day : leapDay.Proper
    ∧ (parse nineAhead "02/29/2000 23:59:58").value = some (.finite 951836398000)
    ∧ (parse nineAhead "Feb 29, 2000").value = some (.finite 951750000000)
    ∧ (parse nineAhead "2000-02-29T23:59:58Z").value = some (.finite 951868798000) := by
  have hleap : leapDay.Proper := by constructor <;> decide
  obtain ⟨hlocal, -, hdate, hinstant, -⟩ := parse_spellings nineAhead hleap (by decide)
  have hfirst := hlocal _ (List.mem_of_getElem? (i := 3) rfl)
  have hnamed := hdate 1 _ (List.mem_of_getElem? (i := 0) rfl)
  have htext : String.ofList (leapDay.monthFirst ++ ' ' :: leapDay.fullClock)
      = "02/29/2000 23:59:58" := by decide +kernel
  have htext' : String.ofList (leapDay.named 1) = "Feb 29, 2000" := by decide +kernel
  have htext'' : String.ofList (leapDay.dashed ++ 'T' :: (leapDay.fullClock ++ ['Z']))
      = "2000-02-29T23:59:58Z" := by decide +kernel
  rw [htext] at hfirst
  rw [htext'] at hnamed
  rw [htext''] at hinstant
  refine ⟨hleap, hfirst.trans ?_, hnamed.trans ?_, hinstant.trans ?_⟩
  · decide +kernel
  · decide +kernel
  · decide +kernel

end Date

end ScriptDate
