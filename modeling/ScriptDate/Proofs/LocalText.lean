import ScriptDate.Proofs.Spellings
import ScriptDate.Proofs.UtcText

/-!
# The local texts of a date

The texts of the local fields fall into words, and each word is read back as the field it shows: a
name as its place in the list, a year with its sign, the offset with its own. So the text of a date
with its offset tells the instant to the second, in years of any sign and size, and the texts
without the offset show the same fields (`localTexts_tell_second`).
-/

namespace ScriptDate

open Calendar Number Reading Text

/-! ## Reading back -/

/-- The weekday from Sunday, the month from January, the day and the year that a text shows. -/
structure ShownDay where
  weekDay : Nat
  month : Nat
  date : Nat
  year : Int
  deriving DecidableEq

/-- The clock that a text shows. -/
structure ShownClock where
  hour : Nat
  minute : Nat
  second : Nat
  deriving DecidableEq

/-- What a text of local fields shows; the offset is in minutes east of UTC. -/
structure Shown where
  day : Option ShownDay := none
  clock : Option ShownClock := none
  offset : Option Int := none
  deriving DecidableEq

namespace Shown

/-- The place of a name in its list. -/
def name? (names : List String) (w : List Char) : Option Nat :=
  names.findIdx? fun name => name.toList = w

def day? (weekDay month date year : List Char) : Option ShownDay := do
  some ⟨← name? weekDayNames weekDay, ← name? monthNames month, ← wholeNumber? date,
    ← wholeInt? year⟩

/-- As in `08:05:09`. -/
def clock? (w : List Char) : Option ShownClock := do
  let (hour, rest) ← number? 2 2 w
  let (minute, rest) ← number? 2 2 (← char? ':' rest)
  let (second, rest) ← number? 2 2 (← char? ':' rest)
  if rest.isEmpty then some ⟨hour, minute, second⟩ else none

/-- As in `GMT-0530`. -/
def offset? (w : List Char) : Option Int := do
  let rest ← char? 'T' (← char? 'M' (← char? 'G' w))
  let (factor, rest) ← sign? rest
  let (hours, rest) ← number? 2 2 rest
  let (minutes, rest) ← number? 2 2 rest
  if rest.isEmpty then some (factor * (60 * hours + minutes : Nat)) else none

/-- What the words of a text show; the layouts differ in their number but for the place of the
year. -/
def ofText? (text : String) : Option Shown :=
  match words text.toList with
  | [weekDay, month, date, year, clock, offset] => do
    some ⟨← day? weekDay month date year, ← clock? clock, ← offset? offset⟩
  | [weekDay, month, date, clock, year] => do
    some ⟨← day? weekDay month date year, ← clock? clock, none⟩
  | [weekDay, month, date, year] => do some { day := ← day? weekDay month date year }
  | [clock, offset] => do some { clock := ← clock? clock, offset := ← offset? offset }
  | _ => none

end Shown

/-- The number of the day that the fields name. -/
def ShownDay.number (day : ShownDay) : Number :=
  TimeValue.dayNumber (.ofInt day.year) (.ofInt day.month) (.ofInt day.date)

/-- The milliseconds of the day up to the second that the clock shows. -/
def ShownClock.time (clock : ShownClock) : Number :=
  TimeValue.clockTime (.ofInt clock.hour) (.ofInt clock.minute) (.ofInt clock.second) 0

/-! ## The words -/

namespace Calendar.CivilTime

def shownDay (f : CivilTime) : ShownDay := ⟨f.weekDay.toNat, f.month, f.date.toNat, f.year⟩

def shownClock (f : CivilTime) : ShownClock := ⟨f.hour.toNat, f.minute.toNat, f.second.toNat⟩

theorem isWord_yearText (f : CivilTime) : IsWord f.yearText := by
  rcases yearText_cases f with ⟨-, htext⟩ | ⟨y, -, htext⟩
  · rw [htext]
    exact (isWord_padded 4 _).cons (by decide)
  · rw [htext]
    exact isWord_padded 4 y

theorem isWord_clock (f : CivilTime) : IsWord f.clock := by
  have hcolon : isBlank ':' = false := by decide
  rw [CivilTime.clock, List.append_assoc]
  exact (isWord_padded 2 _).append
    (((isWord_padded 2 _).append ((isWord_padded 2 _).cons hcolon)).cons hcolon)

theorem isWord_zoneText (offset : Int) : IsWord (zoneText offset) := by
  have hdigits := fun n m => (isWord_padded 2 n).append (isWord_padded 2 m)
  have hsigned (n m : Nat) {c : Char} (hc : isBlank c = false) :
      IsWord ('G' :: 'M' :: 'T' :: c :: (padded 2 n ++ padded 2 m)) :=
    ((((hdigits n m).cons hc).cons rfl).cons rfl).cons rfl
  unfold zoneText
  simp only [List.append_assoc, List.cons_append]
  exact hsigned _ _ (by split_ifs <;> decide)

end Calendar.CivilTime

/-! ## What the words show -/

namespace Shown

theorem wholeInt?_yearText (f : CivilTime) : wholeInt? f.yearText = some f.year := by
  rcases CivilTime.yearText_cases f with ⟨hneg, htext⟩ | ⟨y, hy, htext⟩
  · have hsign : sign? f.yearText = some (-1, padded 4 f.year.natAbs) := by
      rw [htext]
      rfl
    have hyear : -1 * (f.year.natAbs : Int) = f.year := by omega
    rw [wholeInt?, hsign, ← hyear]
    simp [wholeNumber?_padded]
  · rw [htext, hy, wholeInt?_padded]

theorem name?_getD :
    (∀ d < 7, name? weekDayNames (weekDayNames.getD d "").toList = some d)
      ∧ ∀ m < 12, name? monthNames (monthNames.getD m "").toList = some m := by
  decide

variable {f : CivilTime}

/-- The day of the month may be filled to any width. -/
theorem day?_words (hf : f.Proper) (hweek : 0 ≤ f.weekDay ∧ f.weekDay ≤ 6) (w : Nat) :
    day? f.weekDayName f.monthName (padded w f.date.toNat) f.yearText = some f.shownDay := by
  have hday : name? weekDayNames f.weekDayName = some f.weekDay.toNat :=
    name?_getD.1 _ (by omega)
  have hmonth : name? monthNames f.monthName = some f.month :=
    name?_getD.2 _ (Nat.lt_succ_of_le hf.month)
  simp only [day?, hday, hmonth, wholeNumber?_padded, wholeInt?_yearText]
  rfl

theorem clock?_clock (hf : f.Proper) : clock? f.clock = some f.shownClock := by
  obtain ⟨-, -, -, hhour, hminute, hsecond, -⟩ := hf
  have hlast := number?_two (n := f.second.toNat) (by omega) []
  rw [List.append_nil] at hlast
  rw [CivilTime.clock, List.append_assoc]
  refine (bind_of_eq_some (number?_two (by omega) _) _).trans ?_
  refine (bind_of_eq_some (char?_self ':' _) _).trans ?_
  refine (bind_of_eq_some (number?_two (by omega) _) _).trans ?_
  refine (bind_of_eq_some (char?_self ':' _) _).trans ?_
  exact bind_of_eq_some hlast _

/-- The sign stands before the hours, also before none. -/
theorem offset?_zoneText {minutes : Int} (h : minutes.natAbs < 24 * 60) :
    offset? (zoneText (60000 * minutes)) = some minutes := by
  have hminutes : (60000 * minutes).tdiv msPerMinute = minutes :=
    Int.mul_tdiv_cancel_left minutes (by decide)
  have hlast := number?_two (n := minutes.natAbs % 60) (by omega) []
  rw [List.append_nil] at hlast
  have hsplit : 60 * (minutes.natAbs / 60) + minutes.natAbs % 60 = minutes.natAbs :=
    Nat.div_add_mod _ 60
  have htext : zoneText (60000 * minutes) = 'G' :: 'M' :: 'T' ::
      (if minutes < 0 then '-' else '+') ::
        (padded 2 (minutes.natAbs / 60) ++ padded 2 (minutes.natAbs % 60)) := by
    simp only [zoneText, hminutes, List.append_assoc, List.cons_append]
    rfl
  have hsign (rest : List Char) : sign? ((if minutes < 0 then '-' else '+') :: rest)
      = some (if minutes < 0 then -1 else 1, rest) := by
    split_ifs <;> rfl
  rw [htext]
  refine (bind_of_eq_some (char?_self 'G' _) _).trans ?_
  refine (bind_of_eq_some (char?_self 'M' _) _).trans ?_
  refine (bind_of_eq_some (char?_self 'T' _) _).trans ?_
  refine (bind_of_eq_some (hsign _) _).trans ?_
  refine (bind_of_eq_some (number?_two (by omega) _) _).trans ?_
  refine (bind_of_eq_some hlast _).trans ?_
  show some ((if minutes < 0 then (-1 : Int) else 1)
    * ((60 * (minutes.natAbs / 60) + minutes.natAbs % 60 : Nat) : Int)) = some minutes
  rw [hsplit, Option.some.injEq]
  split_ifs <;> omega

/-! ## The texts -/

theorem isWord_names (hf : f.Proper) (hweek : 0 ≤ f.weekDay ∧ f.weekDay ≤ 6) :
    IsWord f.weekDayName ∧ IsWord f.monthName :=
  ⟨threeLetters_weekDayNames.isWord (CivilTime.lt_length_weekDayNames hweek),
    threeLetters_monthNames.isWord (Nat.lt_succ_of_le hf.month)⟩

variable (hf : f.Proper) (hweek : 0 ≤ f.weekDay ∧ f.weekDay ≤ 6)
include hf hweek

theorem words_dateText {cs : List Char} (hcs : ∀ b ∈ cs.head?, isBlank b = true) :
    words (f.dateText ++ cs)
      = f.weekDayName :: f.monthName :: padded 2 f.date.toNat :: f.yearText :: words cs := by
  obtain ⟨hday, hmonth⟩ := isWord_names hf hweek
  have hyear := f.isWord_yearText
  simp only [CivilTime.dateText, List.append_assoc, List.cons_append]
  rw [hday.words_space, hmonth.words_space, (isWord_padded 2 _).words_space,
    words_append hyear.ne_nil hyear.visible hcs]

theorem ofText?_dateText :
    ofText? (String.ofList f.dateText) = some { day := f.shownDay } := by
  have hwords : words (f.dateText ++ []) = _ := words_dateText hf hweek (by simp)
  rw [List.append_nil, words_nil] at hwords
  simp only [ofText?, String.toList_ofList, hwords, day?_words hf hweek]
  rfl

theorem ofText?_localeText :
    ofText? (String.ofList f.localeText) = some { day := f.shownDay, clock := f.shownClock } := by
  have hwords : words f.localeText
      = [f.weekDayName, f.monthName, padded 0 f.date.toNat, f.clock, f.yearText] := by
    obtain ⟨hday, hmonth⟩ := isWord_names hf hweek
    have hdate : IsWord (digits f.date.toNat) := by
      have := isWord_padded 0 f.date.toNat
      rwa [padded_zero] at this
    simp only [CivilTime.localeText, CivilTime.localeDay, padLeft, List.append_assoc,
      List.cons_append]
    rw [hday.words_space, hmonth.words_space, words_spaces, hdate.words_space,
      f.isWord_clock.words_space, f.isWord_yearText.words, padded_zero]
  simp only [ofText?, String.toList_ofList, hwords, day?_words hf hweek, clock?_clock hf]
  rfl

variable {minutes : Int} (h : minutes.natAbs < 24 * 60)
include h

theorem ofText?_fullText :
    ofText? (String.ofList (f.dateText ++ ' ' :: f.clock ++ ' ' :: zoneText (60000 * minutes)))
      = some ⟨f.shownDay, f.shownClock, minutes⟩ := by
  have hwords : words (f.dateText ++ ' ' :: f.clock ++ ' ' :: zoneText (60000 * minutes))
      = [f.weekDayName, f.monthName, padded 2 f.date.toNat, f.yearText, f.clock,
        zoneText (60000 * minutes)] := by
    have hspace : isBlank ' ' = true := rfl
    rw [List.append_assoc, List.cons_append, words_dateText hf hweek (by simp [hspace]),
      words_blank hspace, f.isWord_clock.words_space, (CivilTime.isWord_zoneText _).words]
  simp only [ofText?, String.toList_ofList, hwords, day?_words hf hweek, clock?_clock hf,
    offset?_zoneText h]
  rfl

omit hweek in
theorem ofText?_timeText :
    ofText? (String.ofList (f.clock ++ ' ' :: zoneText (60000 * minutes)))
      = some { clock := f.shownClock, offset := minutes } := by
  have hwords : words (f.clock ++ ' ' :: zoneText (60000 * minutes))
      = [f.clock, zoneText (60000 * minutes)] := by
    rw [f.isWord_clock.words_space, (CivilTime.isWord_zoneText _).words]
  simp only [ofText?, String.toList_ofList, hwords, clock?_clock hf, offset?_zoneText h]
  rfl

end Shown

/-! ## The instant -/

namespace Calendar.CivilTime

variable {t : Int}

/-- The fields that the texts show make up the local time to the second. -/
theorem join_shown (ht : t.natAbs ≤ maxLocalTime) :
    TimeValue.join (ofTime t).shownDay.number (ofTime t).shownClock.time
      = .ofInt (1000 * (t / 1000)) := by
  have hstart : (1000 * (t / 1000)).natAbs ≤ maxLocalTime := by
    unfold maxLocalTime at *
    omega
  have hf := proper_ofTime hstart
  have hjoin := ofFields_eq (x := fun name => .ofInt ((ofTime (1000 * (t / 1000))).field name)) hf
    fun name hname => holds_ofInt ((hf.natAbs_field hname).trans_lt (by decide))
  rw [time_ofTime hstart, ofTime_second ht] at hjoin
  have hbounds := proper_ofTime ht
  have hdate : ((ofTime t).date.toNat : Int) = (ofTime t).date :=
    Int.toNat_of_nonneg (by have := hbounds.date; omega)
  have hhour := Int.toNat_of_nonneg hbounds.hour.1
  have hminute := Int.toNat_of_nonneg hbounds.minute.1
  have hsecond := Int.toNat_of_nonneg hbounds.second.1
  simp only [ShownDay.number, ShownClock.time, shownDay, shownClock, hdate, hhour, hminute,
    hsecond]
  exact hjoin

/-- The weekday that the texts show is that of their day, counted from Thursday, 1 January 1970. -/
theorem weekDay_shown (ht : t.natAbs ≤ maxLocalTime) :
    ((ofTime t).shownDay.weekDay : Int)
      = (Gregorian.dayNumber (ofTime t).shownDay.year (ofTime t).shownDay.month
        (ofTime t).shownDay.date + 4) % 7 := by
  have hf := proper_ofTime ht
  have hmonth : (ofTime t).month ≤ 12 := hf.month.trans (by decide)
  have hdate : ((ofTime t).date.toNat : Int) = (ofTime t).date := by
    have := hf.date
    omega
  have hday : dayOfDate (ofTime t).year (ofTime t).month (ofTime t).date = day t :=
    dayOfDate_dateOf t
  simp only [shownDay, hdate, ← Gregorian.dayOfDate_eq hmonth, hday]
  exact Int.toNat_of_nonneg (weekDay_bounds t).1

end Calendar.CivilTime

namespace Date

variable {zone : Zone} {d : Date}

theorem localText_of_localTime? {u : Int} (h : d.localTime? = some u)
    (layout : CivilTime → List Char) :
    d.localText layout = String.ofList (layout (.ofTime u)) := by
  rw [localText, h]

/-- Wherever the offset in effect is a whole number of minutes under a day, what the four texts of
the local fields show is one day and one clock, and the offset where they have one. Combined and
moved back by that offset, the fields are the start of the second of the time value; the offset is
the one that the getter gives, with the other sign; and the weekday is that of the day shown. -/
theorem localTexts_tell_second (h : Reached zone d) {t minutes : Int}
    (ht : d.timeValue = .finite t) (hzone : zone.offset t = 60000 * minutes)
    (hminutes : minutes.natAbs < 24 * 60) :
    ∃ (day : ShownDay) (clock : ShownClock),
      Shown.ofText? d.toString = some ⟨day, clock, minutes⟩
      ∧ Shown.ofText? d.toLocaleString = some { day, clock }
      ∧ Shown.ofText? d.toDateString = some { day }
      ∧ Shown.ofText? d.toTimeString = some { clock, offset := minutes }
      ∧ TimeValue.join day.number clock.time - 60000 * .ofInt minutes
        = .finite (1000 * (t / 1000) : Int)
      ∧ (-d.timezoneOffset).Holds minutes
      ∧ (day.weekDay : Int) = (Gregorian.dayNumber day.year day.month day.date + 4) % 7 := by
  have hrange := h.inRange ht
  have hholds : d.timeValue.Holds t := ht ▸ holds_finite t
  rw [← h.zone_eq] at hzone
  have hlt : (d.zone.offset t).natAbs < 86400000 := by omega
  have hlocal := localTime?_of_timeValue hrange ht hlt
  have hsmall : (t + d.zone.offset t).natAbs ≤ maxLocalTime := by
    unfold maxLocalTime
    omega
  have hoffset : d.zoneOffset = 60000 * minutes := (Zone.offsetAt_eq hholds d.zone).trans hzone
  have hf := CivilTime.proper_ofTime hsmall
  have hweek := CivilTime.weekDay_bounds (t + d.zone.offset t)
  have htext := localText_of_localTime? hlocal
  refine ⟨(CivilTime.ofTime (t + d.zone.offset t)).shownDay,
    (CivilTime.ofTime (t + d.zone.offset t)).shownClock, ?_, ?_, ?_, ?_, ?_, ?_,
    CivilTime.weekDay_shown hsmall⟩
  · rw [toString, htext, hoffset]
    exact Shown.ofText?_fullText hf hweek hminutes
  · rw [toLocaleString, htext]
    exact Shown.ofText?_localeText hf hweek
  · rw [toDateString, htext]
    exact Shown.ofText?_dateText hf hweek
  · rw [toTimeString, htext, hoffset]
    exact Shown.ofText?_timeText hf hminutes
  · have hsecond := holds_ofInt (n := 1000 * ((t + d.zone.offset t) / 1000)) (by omega)
    have hback : (60000 * Number.ofInt minutes).Holds (60000 * minutes) :=
      (holds_ofNat 60000 (by decide)).mul (holds_ofInt (by omega)) (by omega)
    have hsum := hsecond.add_eq hback.neg fun h => ofInt_ne_negZero _ h.1
    rw [CivilTime.join_shown hsmall]
    refine hsum.trans ?_
    have hstart : 1000 * ((t + d.zone.offset t) / 1000) + -(60000 * minutes)
        = 1000 * (t / 1000) := by omega
    rw [hstart, ofInt_eq (by omega)]
  · have hvalid : d.isValid = true := by simp [isValid, hholds.isNaN]
    have hback := hholds.sub (Zone.toLocal_holds_of_lt hlt hholds (by omega)) (by omega)
    have hdiv := hback.div_of_dvd (holds_ofNat 60000 (by decide)) (by omega) (by decide)
      (by decide) (by omega)
    have hquotient : -((t - (t + d.zone.offset t)) / 60000) = minutes := by omega
    rw [timezoneOffset, if_pos hvalid, ← hquotient]
    exact hdiv.neg

/-- Just inside the year 0 in UTC, half an hour west of which it is still the year before. -/
def westOfYearZero : Date := ofTime (.fixed ⟨-1800, by decide⟩) (.ofInt (-62167219199001))

theorem localTexts_tell_second_west :
    westOfYearZero.toString = "Fri Dec 31 -0001 23:30:00 GMT-0030"
      ∧ Shown.ofText? westOfYearZero.toString
        = some ⟨some ⟨5, 11, 31, -1⟩, some ⟨23, 30, 0⟩, some (-30)⟩
      ∧ TimeValue.join (ShownDay.number ⟨5, 11, 31, -1⟩) (ShownClock.time ⟨23, 30, 0⟩)
        - 60000 * .ofInt (-30) = .finite (-62167219200000)
      ∧ (-westOfYearZero.timezoneOffset).Holds (-30) := by
  have htime : westOfYearZero.timeValue = .finite (-62167219199001 : Int) :=
    timeValue_ofTime (by decide) _
  have hreached : Reached (.fixed ⟨-1800, by decide⟩) westOfYearZero := .time _
  have hzone : (Zone.fixed ⟨-1800, by decide⟩).offset (-62167219199001) = 60000 * -30 := by decide
  have hlocal := localTime?_of_timeValue (by decide) htime (by decide)
  have hfields : CivilTime.ofTime (-62167219199001 + westOfYearZero.zone.offset (-62167219199001))
      = ⟨-1, 11, 31, 5, 23, 30, 0, 999⟩ :=
    Gregorian.ofTime_of_proper (by constructor <;> decide) (by decide) (by decide)
  have htext : westOfYearZero.toString = "Fri Dec 31 -0001 23:30:00 GMT-0030" := by
    rw [toString, localText_of_localTime? hlocal, hfields]
    decide +kernel
  have hread : Shown.ofText? "Fri Dec 31 -0001 23:30:00 GMT-0030"
      = some ⟨some ⟨5, 11, 31, -1⟩, some ⟨23, 30, 0⟩, some (-30)⟩ := by decide +kernel
  obtain ⟨day, clock, hshown, -, -, -, hinstant, hoffset, -⟩ :=
    localTexts_tell_second hreached htime hzone (by decide)
  rw [htext, hread] at hshown
  simp only [Option.some.injEq, Shown.mk.injEq] at hshown
  obtain ⟨rfl, rfl, -⟩ := hshown
  exact ⟨htext, htext ▸ hread, hinstant, hoffset⟩

end Date

end ScriptDate
