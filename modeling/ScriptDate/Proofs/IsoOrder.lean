import Mathlib.Data.List.Lex
import ScriptDate.Proofs.IsoText

/-!
# The order of ISO texts

Numbers in columns, each of its own width and before its own mark, sort like the list of the
numbers (`columns_lt`), and the fields of two times sort like the times, from the year down to the
millisecond (`CivilTime.time_lt`). So the bytes of ISO texts with years of four digits are in the
order of the time values (`isoText_lt_iff`).
-/

namespace ScriptDate

open Calendar Number Text

namespace Text

variable {c : Char} {cs ds rest rest' : List Char} {w m n : Nat}

/-! ## Numbers in columns -/

theorem digit_lt (h : m % 10 < n % 10) : digit m < digit n := by
  have table : ∀ i < 10, ∀ j < 10, i < j →
      Char.ofNat ('0'.toNat + i) < Char.ofNat ('0'.toNat + j) := by decide
  exact table _ (Nat.mod_lt m (by omega)) _ (Nat.mod_lt n (by omega)) h

/-- In one width the smaller number is the smaller text, whatever follows. -/
theorem padded_append_lt (hw : 0 < w) (hn : n < 10 ^ w) (h : m < n) (rest rest' : List Char) :
    padded w m ++ rest < padded w n ++ rest' := by
  induction w, hw using Nat.le_induction generalizing m n rest rest' with
  | base =>
    have hone {k : Nat} (hk : k < 10 ^ 1) : padded 1 k = [digit k] := by
      rw [padded, digits_of_lt (by simpa using hk)]
      rfl
    rw [hone hn, hone (h.trans hn), List.singleton_append, List.singleton_append,
      List.cons_lt_cons_iff]
    exact Or.inl (digit_lt (by omega))
  | succ w hw ih =>
    rw [padded_succ hw, padded_succ hw, List.append_assoc, List.append_assoc]
    rcases (Nat.div_le_div_right h.le : m / 10 ≤ n / 10).lt_or_eq with hlt | heq
    · exact ih (by rw [pow_succ] at hn; omega) hlt _ _
    · rw [heq]
      refine List.append_left_lt ?_
      rw [List.singleton_append, List.singleton_append, List.cons_lt_cons_iff]
      exact Or.inl (digit_lt (by omega))

/-- Numbers one after another, each in a width and before a mark. -/
def columns : List (Nat × Char) → List Nat → List Char
  | (w, c) :: layout, n :: ns => padded w n ++ c :: columns layout ns
  | _, _ => []

/-- Every number has no more digits than its column. -/
def FitsIn (layout : List (Nat × Char)) (ns : List Nat) : Prop :=
  List.Forall₂ (fun column n => 0 < column.1 ∧ n < 10 ^ column.1) layout ns

/-- Texts in the same columns sort like the numbers in them. -/
theorem columns_lt {layout : List (Nat × Char)} {ns ms : List Nat} (hns : FitsIn layout ns)
    (hms : FitsIn layout ms) (h : ns < ms) : columns layout ns < columns layout ms := by
  induction hns generalizing ms with
  | nil =>
    cases hms
    exact absurd h (List.lt_irrefl [])
  | @cons column n layout ns hn _ ih =>
    obtain _ | ⟨hm, hms⟩ := hms
    rcases List.cons_lt_cons_iff.mp h with hlt | ⟨rfl, hlt⟩
    · exact padded_append_lt hn.1 hm.2 hlt _ _
    · exact List.append_left_lt (List.cons_lt_cons_iff.mpr (Or.inr ⟨rfl, ih hms hlt⟩))

/-! ## Bytes -/

/-- The bytes of a text. -/
def bytes (text : String) : List UInt8 := text.toUTF8.data.toList

def IsAscii (cs : List Char) : Prop := ∀ c ∈ cs, c.toNat < 128

theorem bytes_ofList (h : IsAscii cs) : bytes (String.ofList cs) = cs.map Char.toUInt8 := by
  have hchar : ∀ c ∈ cs, String.utf8EncodeChar c = [c.toUInt8] := by
    intro c hc
    refine String.utf8EncodeChar_eq_singleton (Char.utf8Size_eq_one_iff.mpr ?_)
    exact UInt32.le_iff_toNat_le.mpr (Nat.le_of_lt_succ (h c hc))
  have hbytes : (String.ofList cs).toUTF8.data.toList = cs.flatMap String.utf8EncodeChar := by
    simp [List.utf8Encode]
  rw [bytes, hbytes, List.flatMap_congr hchar, ← List.map_eq_flatMap]

theorem toUInt8_lt (hc : c.toNat < 128) {d : Char} (hd : d.toNat < 128) (h : c < d) :
    c.toUInt8 < d.toUInt8 := by
  have hvalue {e : Char} (he : e.toNat < 128) : e.toUInt8.toNat = e.toNat :=
    (UInt32.toNat_toUInt8 e.val).trans (Nat.mod_eq_of_lt (he.trans (by decide)))
  rw [UInt8.lt_iff_toNat_lt, hvalue hc, hvalue hd]
  exact UInt32.lt_iff_toNat_lt.mp h

/-- Texts of one byte for each character sort by bytes as they do by characters. -/
theorem map_toUInt8_lt (hcs : IsAscii cs) (hds : IsAscii ds) (h : cs < ds) :
    cs.map Char.toUInt8 < ds.map Char.toUInt8 := by
  induction cs generalizing ds with
  | nil =>
    cases ds with
    | nil => exact absurd h (List.lt_irrefl [])
    | cons d ds => exact List.nil_lt_cons _ _
  | cons c cs ih =>
    cases ds with
    | nil => exact absurd h (List.not_lt_nil _)
    | cons d ds =>
      obtain ⟨hc, hcs'⟩ := List.forall_mem_cons.mp hcs
      obtain ⟨hd, hds'⟩ := List.forall_mem_cons.mp hds
      rw [List.map_cons, List.map_cons, List.cons_lt_cons_iff]
      rcases List.cons_lt_cons_iff.mp h with hlt | ⟨rfl, hlt⟩
      · exact Or.inl (toUInt8_lt hc hd hlt)
      · exact Or.inr ⟨rfl, ih hcs' hds' hlt⟩

theorem isAscii_columns : ∀ {layout : List (Nat × Char)} {ns : List Nat},
    (∀ column ∈ layout, column.2.toNat < 128) → IsAscii (columns layout ns)
  | [], _, _ => by simp [columns, IsAscii]
  | _ :: _, [], _ => by simp [columns, IsAscii]
  | (w, c) :: layout, n :: ns, h => by
    obtain ⟨hc, hlayout⟩ := List.forall_mem_cons.mp h
    intro d hd
    rcases List.mem_append.mp hd with hd | hd
    · exact forall_isDigit (P := fun c => c.toNat < 128) (by decide) (isDigit_of_mem_padded hd)
    · rcases List.mem_cons.mp hd with rfl | hd
      · exact hc
      · exact isAscii_columns hlayout d hd

end Text

/-! ## Fields in order -/

namespace Calendar

/-- An earlier date has the smaller day number. -/
theorem dayOfDate_lt {y y' d d' : Int} {m m' : Nat} (hm : m < 12) (hd : d ≤ monthLength y m)
    (hm' : m' < 12) (hd' : 1 ≤ d')
    (h : y < y' ∨ y = y' ∧ (m < m' ∨ m = m' ∧ d < d')) :
    dayOfDate y m d < dayOfDate y' m' d' := by
  have hend : dayOfDate y m d < firstDay y + daysBeforeMonth (m + 1) (isLeap y) := by
    unfold dayOfDate
    unfold monthLength at hd
    omega
  have hstart : firstDay y' + daysBeforeMonth m' (isLeap y') ≤ dayOfDate y' m' d' := by
    unfold dayOfDate
    omega
  rcases h with hy | ⟨rfl, hm | ⟨rfl, hd⟩⟩
  · have hlast := daysBeforeMonth_mono (isLeap y) (show m + 1 ≤ 12 from hm) le_rfl
    have hfirst := daysBeforeMonth_mono (isLeap y') (Nat.zero_le m') hm'.le
    have hyear := yearStart_le_yearStart.mpr (show y + 1 ≤ y' from hy)
    rw [daysBeforeMonth_twelve] at hlast
    rw [daysBeforeMonth_zero] at hfirst
    unfold yearStart msPerDay at hyear
    rw [firstDay_succ] at hyear
    omega
  · have hmono := daysBeforeMonth_mono (isLeap y) (show m + 1 ≤ m' from hm) hm'.le
    omega
  · unfold dayOfDate
    omega

namespace CivilTime

variable {f g : CivilTime}

/-- The fields from the year down to the millisecond, the month from one. -/
def sortKey (f : CivilTime) : List Nat :=
  [f.year.natAbs, f.month + 1, f.date.toNat, f.hour.toNat, f.minute.toNat, f.second.toNat,
    f.ms.toNat]

/-- The first field that differs tells which time is earlier. -/
theorem time_lt (hf : f.Proper) (hg : g.Proper) (hy : 0 ≤ f.year) (hy' : 0 ≤ g.year)
    (h : f.sortKey < g.sortKey) : f.time < g.time := by
  have hclock := timeOfDay_bounds hf
  have hclock' := timeOfDay_bounds hg
  obtain ⟨-, hm, hd, hh, hi, hs, hn⟩ := hf
  obtain ⟨-, hm', hd', hh', hi', hs', hn'⟩ := hg
  simp only [sortKey, List.cons_lt_cons_iff, List.lt_irrefl, and_false, or_false] at h
  have hsplit : (f.year < g.year ∨ f.year = g.year
        ∧ (f.month < g.month ∨ f.month = g.month ∧ f.date < g.date))
      ∨ f.year = g.year ∧ f.month = g.month ∧ f.date = g.date
        ∧ f.hour * msPerHour + f.minute * msPerMinute + f.second * msPerSecond + f.ms
          < g.hour * msPerHour + g.minute * msPerMinute + g.second * msPerSecond + g.ms := by
    unfold msPerHour msPerMinute msPerSecond
    omega
  rcases hsplit with hday | ⟨hy, hm, hd, hlt⟩
  · have hlt := dayOfDate_lt (by omega) hd.2 (by omega) hd'.1 hday
    unfold time
    unfold msPerDay at *
    omega
  · rw [time, time, hy, hm, hd]
    omega

theorem time_of_sortKey (hf : f.Proper) (hg : g.Proper) (hy : 0 ≤ f.year) (hy' : 0 ≤ g.year)
    (h : f.sortKey = g.sortKey) : f.time = g.time := by
  obtain ⟨-, -, hd, hh, hi, hs, hn⟩ := hf
  obtain ⟨-, -, hd', hh', hi', hs', hn'⟩ := hg
  simp only [sortKey, List.cons.injEq] at h
  have hyear : f.year = g.year := by omega
  have hmonth : f.month = g.month := by omega
  have hdate : f.date = g.date := by omega
  rw [time, time, hyear, hmonth, hdate]
  unfold msPerHour msPerMinute msPerSecond
  omega

theorem sortKey_lt (hf : f.Proper) (hg : g.Proper) (hy : 0 ≤ f.year) (hy' : 0 ≤ g.year)
    (h : f.time < g.time) : f.sortKey < g.sortKey := by
  rcases lt_trichotomy f.sortKey g.sortKey with hlt | heq | hgt
  · exact hlt
  · exact absurd (time_of_sortKey hf hg hy hy' heq) h.ne
  · exact absurd (time_lt hg hf hy' hy hgt) h.asymm

/-- The columns of an ISO text with a year of four digits. -/
def isoColumns : List (Nat × Char) :=
  [(4, '-'), (2, '-'), (2, 'T'), (2, ':'), (2, ':'), (2, '.'), (3, 'Z')]

theorem isoText_eq_columns (hy : 0 ≤ f.year ∧ f.year ≤ 9999) :
    f.isoText = columns isoColumns f.sortKey := by
  simp [isoText, isoYear, CivilTime.clock, isoColumns, sortKey, columns, hy]

theorem fitsIn_isoColumns (hf : f.Proper) (hy : 0 ≤ f.year ∧ f.year ≤ 9999) :
    FitsIn isoColumns f.sortKey := by
  have hlength := monthLength_bounds (Nat.lt_succ_of_le hf.month) f.year
  obtain ⟨-, hm, hd, hh, hi, hs, hn⟩ := hf
  simp [FitsIn, isoColumns, sortKey]
  omega

theorem isAscii_isoText (hy : 0 ≤ f.year ∧ f.year ≤ 9999) : IsAscii f.isoText := by
  rw [isoText_eq_columns hy]
  exact isAscii_columns (by decide)

/-- Earlier times have the smaller texts. -/
theorem bytes_isoText_lt {t u : Int} (ht : t.natAbs ≤ maxLocalTime) (hu : u.natAbs ≤ maxLocalTime)
    (hyt : 0 ≤ yearOf t ∧ yearOf t ≤ 9999) (hyu : 0 ≤ yearOf u ∧ yearOf u ≤ 9999) (h : t < u) :
    bytes (String.ofList (ofTime t).isoText) < bytes (String.ofList (ofTime u).isoText) := by
  have hf := proper_ofTime ht
  have hg := proper_ofTime hu
  have hkey : (ofTime t).sortKey < (ofTime u).sortKey := by
    refine sortKey_lt hf hg hyt.1 hyu.1 ?_
    rwa [time_ofTime ht, time_ofTime hu]
  rw [bytes_ofList (isAscii_isoText hyt), bytes_ofList (isAscii_isoText hyu)]
  refine map_toUInt8_lt (isAscii_isoText hyt) (isAscii_isoText hyu) ?_
  rw [isoText_eq_columns hyt, isoText_eq_columns hyu]
  exact columns_lt (fitsIn_isoColumns hf hyt) (fitsIn_isoColumns hg hyu) hkey

end CivilTime

end Calendar

namespace Date

variable {zone₁ zone₂ : Zone} {d₁ d₂ : Date} {t₁ t₂ : Int}

/-- The ISO texts of two dates whose UTC years have four digits sort byte by byte as their times,
and are equal just when these are. -/
theorem isoText_lt_iff (h₁ : Reached zone₁ d₁) (h₂ : Reached zone₂ d₂)
    (ht₁ : d₁.timeValue = .finite t₁) (ht₂ : d₂.timeValue = .finite t₂)
    (hy₁ : 0 ≤ yearOf t₁ ∧ yearOf t₁ ≤ 9999) (hy₂ : 0 ≤ yearOf t₂ ∧ yearOf t₂ ≤ 9999) :
    ∃ text₁ text₂, d₁.toISOString = .ok text₁ ∧ d₂.toISOString = .ok text₂
      ∧ (t₁ < t₂ ↔ bytes text₁ < bytes text₂) ∧ (t₁ = t₂ ↔ text₁ = text₂) := by
  have hsmall₁ := small_time (h₁.inRange ht₁)
  have hsmall₂ := small_time (h₂.inRange ht₂)
  have hlt := CivilTime.bytes_isoText_lt hsmall₁ hsmall₂ hy₁ hy₂
  have hgt := CivilTime.bytes_isoText_lt hsmall₂ hsmall₁ hy₂ hy₁
  refine ⟨_, _, toISOString_finite ht₁, toISOString_finite ht₂, ⟨hlt, fun hbytes => ?_⟩,
    fun heq => by rw [heq], fun heq => eq_of_isoText hsmall₁ hsmall₂ (String.ofList_inj.mp heq)⟩
  rcases lt_trichotomy t₁ t₂ with hless | rfl | hmore
  · exact hless
  · exact absurd hbytes (List.lt_irrefl _)
  · exact absurd hbytes (List.lt_asymm (hgt hmore))

/-- The last millisecond before the year 1000. -/
def millenniumEve : Date := ofTime Zone.utc (.ofInt (-30610224000001))

def millennium : Date := ofTime Zone.newYearZone (.ofInt (-30610224000000))

theorem isoText_lt_iff_millennium :
    millenniumEve.toISOString = .ok "0999-12-31T23:59:59.999Z"
      ∧ millennium.toISOString = .ok "1000-01-01T00:00:00.000Z"
      ∧ bytes "0999-12-31T23:59:59.999Z" < bytes "1000-01-01T00:00:00.000Z"
      ∧ "0999-12-31T23:59:59.999Z" ≠ "1000-01-01T00:00:00.000Z" := by
  have heve : millenniumEve.timeValue = .finite (-30610224000001 : Int) :=
    timeValue_ofTime (by decide) _
  have hday : millennium.timeValue = .finite (-30610224000000 : Int) :=
    timeValue_ofTime (by decide) _
  have hreached : Reached Zone.utc millenniumEve := .time _
  have hreached' : Reached Zone.newYearZone millennium := .time _
  have hfields : CivilTime.ofTime (-30610224000001) = ⟨999, 11, 31, 2, 23, 59, 59, 999⟩ :=
    Gregorian.ofTime_of_proper (by constructor <;> decide) (by decide) (by decide)
  have hfields' : CivilTime.ofTime (-30610224000000) = ⟨1000, 0, 1, 3, 0, 0, 0, 0⟩ :=
    Gregorian.ofTime_of_proper (by constructor <;> decide) (by decide) (by decide)
  have htext : millenniumEve.toISOString = .ok "0999-12-31T23:59:59.999Z" := by
    rw [toISOString_finite heve, hfields]
    decide +kernel
  have htext' : millennium.toISOString = .ok "1000-01-01T00:00:00.000Z" := by
    rw [toISOString_finite hday, hfields']
    decide +kernel
  have hyear : yearOf (-30610224000001) = 999 := congrArg CivilTime.year hfields
  have hyear' : yearOf (-30610224000000) = 1000 := congrArg CivilTime.year hfields'
  obtain ⟨text, text', h, h', hlt, hne⟩ := isoText_lt_iff hreached hreached' heve hday
    (by rw [hyear]; decide) (by rw [hyear']; decide)
  obtain rfl := Except.ok.inj (htext.symm.trans h)
  obtain rfl := Except.ok.inj (htext'.symm.trans h')
  exact ⟨htext, htext', hlt.mp (by decide), mt hne.mpr (by decide)⟩

end Date

end ScriptDate
