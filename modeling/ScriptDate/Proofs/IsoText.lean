import ScriptDate.Proofs.Components
import ScriptDate.Proofs.Forms

/-!
# The ISO text of a date

The ISO text shows every field in a fixed layout, so it tells a date's time value, and it is read
back as that time value wherever its year is in the span of read dates (`isoText_faithful`).
-/

namespace ScriptDate

open Calendar Number Reading Text

namespace Calendar.CivilTime

variable {f : CivilTime}

/-! ## Fields as parts -/

/-- The fields as a text gives them. -/
def parts (f : CivilTime) : Parts :=
  ⟨f.year, f.month + 1, f.date.toNat, f.hour.toNat, f.minute.toNat, f.second.toNat, f.ms.toNat⟩

theorem Proper.parts (hf : f.Proper) : f.parts.Proper := by
  obtain ⟨-, hmonth, hdate, hhour, hminute, hsecond, hms⟩ := hf
  rw [Gregorian.monthLength_eq (by omega)] at hdate
  refine ⟨?_, ?_, ?_, ?_, ?_, ?_⟩
  all_goals simp only [CivilTime.parts, Nat.add_sub_cancel]
  all_goals omega

theorem time_parts (hf : f.Proper) : f.parts.time = f.time := by
  obtain ⟨-, hmonth, hdate, hhour, hminute, hsecond, hms⟩ := hf
  have hdate' : (f.date.toNat : Int) = f.date := by omega
  simp only [Parts.time, CivilTime.parts, Nat.add_sub_cancel, hdate', time,
    Gregorian.dayOfDate_eq (show f.month ≤ 12 by omega)]
  unfold msPerDay msPerHour msPerMinute msPerSecond
  omega

theorem isoText_eq (f : CivilTime) : f.isoText = f.isoYear ++ (f.parts.afterYear '-' ++
    'T' :: (f.parts.fullClock ++ '.' :: (padded 3 f.parts.ms ++ ['Z']))) := by
  simp [isoText, CivilTime.clock, Parts.afterYear, Parts.fullClock, Parts.clock, CivilTime.parts]

/-! ## The year -/

theorem isoYear_cases (f : CivilTime) :
    (∃ y : Nat, y < 10000 ∧ f.year = y ∧ f.isoYear = padded 4 y)
      ∨ (f.year < 0 ∨ 9999 < f.year) ∧ f.isoYear = yearSign f.year :: padded 6 f.year.natAbs := by
  by_cases h : 0 ≤ f.year ∧ f.year ≤ 9999
  · refine Or.inl ⟨f.year.natAbs, by omega, by omega, ?_⟩
    simp [isoYear, h]
  · refine Or.inr ⟨by omega, ?_⟩
    simp [isoYear, h, yearSign]

theorem yearText_isoYear (f : CivilTime) : YearText f.isoYear f.year := by
  rcases isoYear_cases f with ⟨y, hy, hyear, htext⟩ | ⟨-, htext⟩
  · rw [htext, hyear]
    exact yearText_padded hy
  · rw [htext]
    exact yearText_signed f.year 6

/-! ## Reading it back -/

/-- The ISO form reads every field of the text. -/
theorem patternParts?_isoText (hf : f.Proper) :
    patternParts? (Pattern.iso ++ [.char 'Z']) {} f.isoText = some f.parts := by
  have hfits := hf.parts.fits
  have hread := (yearText_isoYear f).read {} (c := '-') (by decide)
  have hZ : 'Z'.isDigit = false := by decide
  rw [isoText_eq, Pattern.iso]
  simp only [List.append_assoc, List.cons_append]
  rw [patternParts?_yearFirst (p := f.parts) hfits hread, patternParts?_char,
    patternParts?_fullClock hfits, List.nil_append, patternParts?_fraction hfits.ms hZ,
    patternParts?_char]
  rfl

theorem ofText?_isoText (hf : f.Proper) :
    ofText? f.isoText = if inSpan f.year then some (.instant f.time) else none := by
  have hfits := hf.parts.fits
  have hmoment := hf.parts.map_moment? .instant
  rw [time_parts hf] at hmoment
  rcases isoYear_cases f with ⟨y, hy, hyear, htext⟩ | ⟨-, htext⟩
  · have hfraction := fraction?_padded hfits.ms (c := 'Z') (by decide) []
    have hstamp := Rfc3339.instant?_Z hy hfits hfraction
    have hspan : inSpan f.year = true := inSpan_iff.mpr (by omega)
    rw [isoText_eq, htext, if_pos hspan]
    refine ofText?_of_timestamp ?_
    rw [instantForm, hstamp, ← hyear]
    exact hmoment.trans (if_pos hspan)
  · have hstamp : Rfc3339.instant? f.isoText = none := by
      rw [isoText_eq, htext]
      exact Rfc3339.instant?_of_head (isDigit_yearSign f.year) _
    rw [isoText_eq] at hstamp ⊢
    rw [ofText?_dashed (p := f.parts) (yearText_isoYear f) hfits hstamp,
      goOn?_T_fullClock_Z hfits, hmoment]
    rfl

/-! ## The layout -/

end Calendar.CivilTime

namespace Text

/-- The text has a digit wherever the layout has a `d`, and its other characters are the
layout's. -/
def Follows (layout text : List Char) : Prop :=
  List.Forall₂ (fun l c => if l = 'd' then c.isDigit = true else c = l) layout text

variable {layout layout' text text' : List Char} {c : Char} {w n : Nat}

theorem Follows.append (h : Follows layout text) (h' : Follows layout' text') :
    Follows (layout ++ layout') (text ++ text') :=
  List.rel_append h h'

theorem Follows.cons (hc : c ≠ 'd') (h : Follows layout text) : Follows (c :: layout) (c :: text) :=
  List.Forall₂.cons (by simp [hc]) h

theorem follows_digits {ds : List Char} (hds : ∀ c ∈ ds, c.isDigit = true) :
    Follows (List.replicate ds.length 'd') ds := by
  induction ds with
  | nil => exact List.Forall₂.nil
  | cons c ds ih =>
    have hc : c.isDigit = true := hds c List.mem_cons_self
    refine List.Forall₂.cons ?_ (ih fun d hd => hds d (List.mem_cons_of_mem _ hd))
    simpa using hc

theorem follows_padded (hw : 0 < w) (h : n < 10 ^ w) :
    Follows (List.replicate w 'd') (padded w n) := by
  have hdigits := follows_digits fun c => isDigit_of_mem_padded (w := w) (n := n)
  rwa [length_padded hw h] at hdigits

end Text

namespace Calendar.CivilTime

variable {f : CivilTime}

/-- The layout of an ISO text by its year. -/
def isoLayout (year : Int) : String :=
  if 0 ≤ year ∧ year ≤ 9999 then "dddd-dd-ddTdd:dd:dd.dddZ"
  else if year < 0 then "-dddddd-dd-ddTdd:dd:dd.dddZ"
  else "+dddddd-dd-ddTdd:dd:dd.dddZ"

theorem follows_afterYear {p : Parts} (hp : p.Fits) :
    Follows "-dd-ddTdd:dd:dd.dddZ".toList
      (p.afterYear '-' ++ 'T' :: (p.fullClock ++ '.' :: (padded 3 p.ms ++ ['Z']))) := by
  have two {n : Nat} (hn : n < 100) : Follows (List.replicate 2 'd') (padded 2 n) :=
    follows_padded (by decide) hn
  have three : Follows (List.replicate 3 'd') (padded 3 p.ms) := follows_padded (by decide) hp.ms
  have hend : Follows ['Z'] ['Z'] := Follows.cons (by decide) List.Forall₂.nil
  have hms := (three.append hend).cons (c := '.') (by decide)
  have hsecond := ((two hp.second).append hms).cons (c := ':') (by decide)
  have hminute := ((two hp.minute).append hsecond).cons (c := ':') (by decide)
  have hhour := ((two hp.hour).append hminute).cons (c := 'T') (by decide)
  have hdate := ((two hp.date).append hhour).cons (c := '-') (by decide)
  have hmonth := ((two hp.month).append hdate).cons (c := '-') (by decide)
  simpa [Parts.afterYear, Parts.fullClock, Parts.clock] using hmonth

theorem follows_isoText (hf : f.Proper) : Follows (isoLayout f.year).toList f.isoText := by
  have hrest := follows_afterYear hf.parts.fits
  have hyear := hf.year
  rw [isoText_eq]
  rcases isoYear_cases f with ⟨y, hy, hyear', htext⟩ | ⟨hout, htext⟩
  · have hlayout : isoLayout f.year = "dddd-dd-ddTdd:dd:dd.dddZ" := if_pos (by omega)
    rw [hlayout, htext]
    exact (follows_padded (w := 4) (by decide) hy).append hrest
  · have hsix := (follows_padded (w := 6) (n := f.year.natAbs) (by decide) (by omega)).append hrest
    have hlayout : (isoLayout f.year).toList
        = yearSign f.year :: (List.replicate 6 'd' ++ "-dd-ddTdd:dd:dd.dddZ".toList) := by
      unfold isoLayout yearSign
      rw [if_neg (by omega)]
      split_ifs <;> rfl
    rw [hlayout, htext]
    refine Follows.cons ?_ hsix
    unfold yearSign
    split_ifs <;> decide

end Calendar.CivilTime

namespace Date

variable {zone : Zone} {d : Date}

theorem visible_isoText (f : CivilTime) : StartsVisible f.isoText ∧ EndsVisible f.isoText := by
  have hZ : EndsVisible ['Z'] := ⟨[], 'Z', rfl, by decide⟩
  rw [CivilTime.isoText_eq]
  refine ⟨?_, ((((hZ.append _).cons '.').append _).cons 'T' |>.append _).append _⟩
  rcases CivilTime.isoYear_cases f with ⟨y, -, -, htext⟩ | ⟨-, htext⟩ <;> rw [htext]
  · exact (startsVisible_padded 4 y).append _
  · exact ⟨_, _, rfl, isBlank_yearSign f.year⟩

theorem utcTime?_finite {t : Int} (h : d.timeValue = .finite t) : d.utcTime? = some t := by
  rw [utcTime?, isValid, h, (holds_finite t).toInt]
  rfl

theorem toISOString_finite {t : Int} (h : d.timeValue = .finite t) :
    d.toISOString = .ok (String.ofList (CivilTime.ofTime t).isoText) := by
  rw [toISOString, utcTime?_finite h]

theorem toISOString_nan (h : d.timeValue = .nan) (text : String) : d.toISOString ≠ .ok text := by
  have htime : d.utcTime? = none := by
    rw [utcTime?, isValid, h]
    rfl
  simp [toISOString, htime]

theorem small_time {t : Int} (h : t.natAbs ≤ 8640000000000000) : t.natAbs ≤ maxLocalTime :=
  h.trans (by decide)

/-- The text tells the time, as the ISO form reads it back field by field. -/
theorem eq_of_isoText {t u : Int} (ht : t.natAbs ≤ maxLocalTime) (hu : u.natAbs ≤ maxLocalTime)
    (h : (CivilTime.ofTime t).isoText = (CivilTime.ofTime u).isoText) : t = u := by
  have hft := CivilTime.proper_ofTime ht
  have hfu := CivilTime.proper_ofTime hu
  have hparts : (CivilTime.ofTime t).parts = (CivilTime.ofTime u).parts := by
    have hread := CivilTime.patternParts?_isoText hft
    rw [h, CivilTime.patternParts?_isoText hfu] at hread
    exact (Option.some.inj hread).symm
  calc t = (CivilTime.ofTime t).parts.time := by
        rw [CivilTime.time_parts hft, CivilTime.time_ofTime ht]
    _ = (CivilTime.ofTime u).parts.time := by rw [hparts]
    _ = u := by rw [CivilTime.time_parts hfu, CivilTime.time_ofTime hu]

theorem value_parse_isoText {t : Int} (h : t.natAbs ≤ maxLocalTime) (reader : Zone) :
    (parse reader (String.ofList (CivilTime.ofTime t).isoText)).value
      = if -262143 ≤ yearOf t ∧ yearOf t ≤ 262142 then some (.finite t) else none := by
  obtain ⟨hstart, hend⟩ := visible_isoText (CivilTime.ofTime t)
  rw [value_parse hstart hend, CivilTime.ofText?_isoText (CivilTime.proper_ofTime h),
    CivilTime.time_ofTime h, ← ofInt_eq (CivilTime.small_of_local h)]
  simp only [inSpan_iff, CivilTime.ofTime]
  split_ifs <;> rfl

/-- The ISO text of a valid date has the layout of its year, no date of another time has that text,
and in any zone it is read back as the time of the date when its year is one that dates are read
in, and not at all otherwise. -/
theorem isoText_faithful (h : Reached zone d) (hvalid : d.isValid = true) :
    ∃ (t : Int) (text : String), d.timeValue = .finite t ∧ d.toISOString = .ok text
      ∧ Follows (CivilTime.isoLayout (yearOf t)).toList text.toList
      ∧ (∀ (zone' : Zone) (d' : Date), Reached zone' d' → d'.toISOString = .ok text →
        d'.timeValue = d.timeValue)
      ∧ ∀ reader : Zone, (parse reader text).value
        = if -262143 ≤ yearOf t ∧ yearOf t ≤ 262142 then some (.finite t) else none := by
  rcases h.isTimeValue with hnan | ⟨t, hrange, ht⟩
  · simp [isValid, hnan, isNaN] at hvalid
  have hsmall := small_time hrange
  refine ⟨t, _, ht, toISOString_finite ht, ?_, fun zone' d' h' htext => ?_,
    value_parse_isoText hsmall⟩
  · rw [String.toList_ofList]
    exact CivilTime.follows_isoText (CivilTime.proper_ofTime hsmall)
  · rcases h'.isTimeValue with hnan | ⟨u, hrange', hu⟩
    · exact absurd htext (toISOString_nan hnan _)
    · rw [toISOString_finite hu, Except.ok.injEq, String.ofList_inj] at htext
      rw [ht, hu, eq_of_isoText (small_time hrange') hsmall htext]

/-- The start of the year -1. -/
def yearMinusOne : Date := ofTime Zone.utc (.ofInt (-62198755200000))

/-- The last time value. -/
def lastDate : Date := ofTime Zone.utc (.ofInt 8640000000000000)

theorem isoText_faithful_expanded_years :
    yearMinusOne.isValid = true ∧ lastDate.isValid = true
      ∧ yearMinusOne.toISOString = .ok "-000001-01-01T00:00:00.000Z"
      ∧ (parse Zone.newYearZone "-000001-01-01T00:00:00.000Z").value
        = some (.finite (-62198755200000))
      ∧ lastDate.toISOString = .ok "+275760-09-13T00:00:00.000Z"
      ∧ (parse Zone.newYearZone "+275760-09-13T00:00:00.000Z").value = none := by
  have htime : yearMinusOne.timeValue = .finite (-62198755200000 : Int) :=
    (TimeValue.clip_ofInt _).trans (if_pos (by decide))
  have htime' : lastDate.timeValue = .finite (8640000000000000 : Int) :=
    (TimeValue.clip_ofInt _).trans (if_pos (by decide))
  have hfields : CivilTime.ofTime (-62198755200000) = ⟨-1, 0, 1, 5, 0, 0, 0, 0⟩ :=
    Gregorian.ofTime_of_proper (by constructor <;> decide) (by decide) (by decide)
  have hfields' : CivilTime.ofTime 8640000000000000 = ⟨275760, 8, 13, 6, 0, 0, 0, 0⟩ :=
    Gregorian.ofTime_of_proper (by constructor <;> decide) (by decide) (by decide)
  have hiso : yearMinusOne.toISOString = .ok "-000001-01-01T00:00:00.000Z" := by
    rw [toISOString_finite htime, hfields]
    decide +kernel
  have hiso' : lastDate.toISOString = .ok "+275760-09-13T00:00:00.000Z" := by
    rw [toISOString_finite htime', hfields']
    decide +kernel
  have hvalid : yearMinusOne.isValid = true := by
    rw [isValid, htime]
    rfl
  have hvalid' : lastDate.isValid = true := by
    rw [isValid, htime']
    rfl
  refine ⟨hvalid, hvalid', hiso, ?_, hiso', ?_⟩
  · obtain ⟨t, text, ht, htext, -, -, hread⟩ := isoText_faithful (.time _) hvalid
    obtain rfl : -62198755200000 = t := Int.cast_inj.mp (finite.inj (htime.symm.trans ht))
    rw [Except.ok.inj (hiso.symm.trans htext), hread]
    have hyear : yearOf (-62198755200000) = -1 := congrArg CivilTime.year hfields
    rw [hyear]
    rfl
  · obtain ⟨t, text, ht, htext, -, -, hread⟩ := isoText_faithful (.time _) hvalid'
    obtain rfl : 8640000000000000 = t := Int.cast_inj.mp (finite.inj (htime'.symm.trans ht))
    have hyear : yearOf 8640000000000000 = 275760 := congrArg CivilTime.year hfields'
    rw [Except.ok.inj (hiso'.symm.trans htext), hread, hyear]
    rfl

end Date

end ScriptDate
