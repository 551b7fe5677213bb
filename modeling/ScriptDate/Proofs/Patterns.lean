import ScriptDate.Proofs.Gregorian
import ScriptDate.Proofs.WrittenNumbers
import ScriptDate.Reading.Basic

/-!
# Dates and clocks by pattern

A pattern reads the date or the clock in front of a text and goes on with the rest, and fails where
the separators are not its own.
-/

namespace ScriptDate.Reading

open Calendar Text

namespace Parts

/-- The month and the day, each after `c`. -/
def afterYear (p : Parts) (c : Char) : List Char := c :: padded 2 p.month ++ c :: padded 2 p.date

/-- The month and the day, each before a slash. -/
def beforeYear (p : Parts) : List Char := padded 2 p.month ++ '/' :: padded 2 p.date ++ ['/']

/-- Hour and minute. -/
def clock (p : Parts) : List Char := padded 2 p.hour ++ ':' :: padded 2 p.minute

/-- Hour, minute and second. -/
def fullClock (p : Parts) : List Char := p.clock ++ ':' :: padded 2 p.second

/-- The start of the second. -/
def atSecond (p : Parts) : Parts := { p with ms := 0 }

/-- The start of the minute. -/
def atMinute (p : Parts) : Parts := { p with second := 0, ms := 0 }

/-- The start of the day. -/
def day (p : Parts) : Parts := { year := p.year, month := p.month, date := p.date }

/-- Every short field has two digits and the milliseconds three. -/
structure Fits (p : Parts) : Prop where
  month : p.month < 100
  date : p.date < 100
  hour : p.hour < 100
  minute : p.minute < 100
  second : p.second < 100
  ms : p.ms < 1000

end Parts

variable {p q : Parts} {c d : Char} {items : List Item} {cs rest : List Char} {n : Nat} {y : Int}

/-! ## Items -/

theorem patternParts?_cons (item : Item) (items : List Item) (p : Parts) (cs : List Char) :
    patternParts? (item :: items) p cs
      = (item.read? p cs).bind fun r => patternParts? items r.1 r.2 := rfl

@[simp]
theorem patternParts?_nil (p : Parts) : patternParts? [] p [] = some p := rfl

@[simp]
theorem patternParts?_nil_cons (p : Parts) (c : Char) (cs : List Char) :
    patternParts? [] p (c :: cs) = none := rfl

theorem read?_char (p : Parts) (c : Char) (rest : List Char) :
    Item.read? p (c :: rest) (.char c) = some (p, rest) := by
  simp [Item.read?, char?]

theorem read?_char_of_ne (h : d ≠ c) (p : Parts) (rest : List Char) :
    Item.read? p (d :: rest) (.char c) = none := by
  simp [Item.read?, char?, h]

@[simp]
theorem patternParts?_char (c : Char) (items : List Item) (p : Parts) (rest : List Char) :
    patternParts? (.char c :: items) p (c :: rest) = patternParts? items p rest := by
  rw [patternParts?_cons, read?_char, Option.bind_some]

theorem patternParts?_char_of_ne (h : d ≠ c) (items : List Item) (p : Parts) (rest : List Char) :
    patternParts? (.char c :: items) p (d :: rest) = none := by
  rw [patternParts?_cons, read?_char_of_ne h, Option.bind_none]

@[simp]
theorem patternParts?_char_nil (c : Char) (items : List Item) (p : Parts) :
    patternParts? (.char c :: items) p [] = none := rfl

theorem read?_short (h : n < 100) (p : Parts) (field : ShortField) (rest : List Char) :
    Item.read? p (padded 2 n ++ rest) (.short field) = some (p.setShort n field, rest) := by
  simp [Item.read?, trimStart_padded, number?_padded, h]

/-- A field is looked for past the blanks, and where there is no digit there is none. -/
theorem read?_short_of_head (hb : isBlank c = false) (hd : c.isDigit = false) (p : Parts)
    (field : ShortField) (rest : List Char) :
    Item.read? p (c :: rest) (.short field) = none := by
  simp [Item.read?, trimStart, hb, number?, hd]

@[simp]
theorem patternParts?_fraction_nil (items : List Item) (p : Parts) :
    patternParts? (.fraction :: items) p [] = patternParts? items { p with ms := 0 } [] := rfl

theorem fraction?_padded (hn : n < 1000) (hc : c.isDigit = false) (rest : List Char) :
    fraction? ('.' :: (padded 3 n ++ c :: rest)) = some (n, c :: rest) := by
  have hlength := length_padded (w := 3) (by decide) hn
  have htake : (padded 3 n ++ c :: rest).takeWhile Char.isDigit = padded 3 n := by
    rw [List.takeWhile_append_of_pos fun c hc => isDigit_of_mem_padded hc]
    simp [hc]
  have hdrop : (padded 3 n ++ c :: rest).dropWhile Char.isDigit = c :: rest := by
    rw [List.dropWhile_append_of_pos fun c hc => isDigit_of_mem_padded hc]
    simp [hc]
  have hms : fractionMs (padded 3 n) = n := by
    rw [fractionMs, List.take_append_of_le_length hlength.ge, List.take_of_length_le hlength.le,
      ofDigits_padded]
  simp [fraction?, htake, hdrop, hms, padded_ne_nil]

theorem patternParts?_fraction (hn : n < 1000) (hc : c.isDigit = false) (items : List Item)
    (p : Parts) (rest : List Char) :
    patternParts? (.fraction :: items) p ('.' :: (padded 3 n ++ c :: rest))
      = patternParts? items { p with ms := n } (c :: rest) := by
  simp [patternParts?_cons, Item.read?, fraction?_padded hn hc]

theorem patternParts?_last (h : patternParts? [.char c] p cs = some q) : cs = [c] ∧ p = q := by
  obtain ⟨⟨p', rest⟩, hread, hend⟩ := Option.bind_eq_some_iff.mp h
  obtain ⟨rest, hchar, heq⟩ := Option.map_eq_some_iff.mp hread
  cases heq
  obtain rfl := char?_eq_some.mp hchar
  rcases rest with _ | ⟨d, rest⟩
  · exact ⟨rfl, Option.some.inj hend⟩
  · cases hend

/-- Only a fraction sets the milliseconds. -/
theorem ms_read? {item : Item} (hitem : item ≠ .fraction)
    (h : item.read? p cs = some (q, rest)) : q.ms = p.ms := by
  cases item with
  | char c =>
    obtain ⟨_, -, heq⟩ := Option.map_eq_some_iff.mp h
    cases heq
    rfl
  | blanks =>
    cases h
    rfl
  | year =>
    obtain ⟨_, -, heq⟩ := Option.map_eq_some_iff.mp h
    cases heq
    rfl
  | short field =>
    obtain ⟨_, -, heq⟩ := Option.map_eq_some_iff.mp h
    cases heq
    cases field <;> rfl
  | fraction => exact absurd rfl hitem

/-- A text without a fraction is read as well where the pattern has one before its last
character. -/
theorem patternParts?_fraction_left_out (hc : c ≠ '.') : ∀ {items : List Item} {p : Parts}
    {cs : List Char}, (∀ item ∈ items, item ≠ .fraction) → p.ms = 0 →
      patternParts? (items ++ [.char c]) p cs = some q →
        patternParts? (items ++ [.fraction] ++ [.char c]) p cs = some q
  | [], p, cs, _, hms, h => by
    obtain ⟨rfl, rfl⟩ := patternParts?_last h
    have hzero : ({ p with ms := 0 } : Parts) = p := by rw [← hms]
    have hread : Item.read? p [c] .fraction = some (p, [c]) := by
      simp [Item.read?, fraction?, hc, hzero]
    rw [List.nil_append, List.cons_append, patternParts?_cons, hread]
    exact h
  | item :: items, p, cs, hitems, hms, h => by
    rw [List.cons_append, patternParts?_cons] at h
    obtain ⟨⟨p', rest⟩, hread, h⟩ := Option.bind_eq_some_iff.mp h
    have hms' := (ms_read? (hitems item List.mem_cons_self) hread).trans hms
    rw [List.cons_append, List.cons_append, patternParts?_cons, hread]
    exact patternParts?_fraction_left_out hc
      (fun i hi => hitems i (List.mem_cons_of_mem item hi)) hms' h

/-! ## Years -/

theorem read?_year (h : n < 10000) (p : Parts) (rest : List Char) :
    Item.read? p (padded 4 n ++ rest) .year = some ({ p with year := n }, rest) := by
  simp [Item.read?, patternYear?, trimStart_padded, sign?_padded, number?_padded, h]

/-- Where a year is looked for a shorter number is one. -/
theorem read?_year_short (h : n < 100) (hc : c.isDigit = false) (p : Parts) (rest : List Char) :
    Item.read? p (padded 2 n ++ c :: rest) .year = some ({ p with year := n }, c :: rest) := by
  have hlength := length_padded (w := 2) (by decide) h
  have hread : number? 1 4 (padded 2 n ++ c :: rest) = some (n, c :: rest) := by
    rw [number?_append (fun _ => isDigit_of_mem_padded) (by omega) (by omega)
      (Or.inr (by simpa using hc)), ofDigits_padded]
  simp [Item.read?, patternYear?, trimStart_padded, sign?_padded, hread]

def yearSign (y : Int) : Char := if y < 0 then '-' else '+'

theorem sign?_yearSign (y : Int) (rest : List Char) :
    sign? (yearSign y :: rest) = some (if y < 0 then -1 else 1, rest) := by
  unfold yearSign
  split_ifs <;> rfl

theorem isBlank_yearSign (y : Int) : isBlank (yearSign y) = false := by
  unfold yearSign
  split_ifs <;> rfl

theorem isDigit_yearSign (y : Int) : (yearSign y).isDigit = false := by
  unfold yearSign
  split_ifs <;> rfl

theorem read?_year_signed (hc : c.isDigit = false) (y : Int) (w : Nat) (p : Parts)
    (rest : List Char) :
    Item.read? p (yearSign y :: padded w y.natAbs ++ c :: rest) .year
      = some ({ p with year := y }, c :: rest) := by
  have hread : numeral? 1 (padded w y.natAbs ++ c :: rest) = some (y.natAbs, c :: rest) :=
    numeral?_append (List.length_pos_iff.mpr (padded_ne_nil _ _)) (by simp [hc])
  have habs : (if y < 0 then -|y| else |y|) = y := by
    split_ifs with h
    · rw [abs_of_neg h, neg_neg]
    · exact abs_of_nonneg (not_lt.mp h)
  simp [Item.read?, patternYear?, trimStart, isBlank_yearSign, sign?_yearSign, hread, habs]

/-! ## Dates and clocks -/

variable {yr : List Char}

/-- The century and the year of it. -/
theorem padded_four (n : Nat) (rest : List Char) :
    padded 4 n ++ rest = padded 2 (n / 100) ++ (padded 2 (n % 100) ++ rest) := by
  rw [padded_add (v := 2) (w := 2) (by decide) (by decide), List.append_assoc]
  rfl

/-- A date that begins with a number read as its year. -/
theorem patternParts?_yearFirst (hp : p.Fits)
    (hyear : ∀ rest, Item.read? q (yr ++ c :: rest) .year
      = some ({ q with year := p.year }, c :: rest)) (items : List Item) (rest : List Char) :
    patternParts? (Pattern.yearFirst c ++ items) q (yr ++ (p.afterYear c ++ rest))
      = patternParts? items { q with year := p.year, month := p.month, date := p.date } rest := by
  simp [Pattern.yearFirst, Parts.afterYear, patternParts?_cons, hyear, read?_char, read?_short,
    hp.month, hp.date, Parts.setShort]

theorem patternParts?_yearFirst_of_ne (h : c ≠ d)
    (hyear : ∀ rest, Item.read? q (yr ++ c :: rest) .year
      = some ({ q with year := p.year }, c :: rest)) (items : List Item) (rest : List Char) :
    patternParts? (Pattern.yearFirst d ++ items) q (yr ++ (p.afterYear c ++ rest)) = none := by
  simp [Pattern.yearFirst, Parts.afterYear, patternParts?_cons, hyear, read?_char_of_ne h]

theorem patternParts?_monthFirst {y : Nat} (hy : y < 10000) (hp : p.Fits) (items : List Item)
    (rest : List Char) :
    patternParts? (Pattern.monthFirst ++ items) q (p.beforeYear ++ (padded 4 y ++ rest))
      = patternParts? items { q with year := y, month := p.month, date := p.date } rest := by
  simp [Pattern.monthFirst, Parts.beforeYear, patternParts?_cons, read?_char, read?_short,
    read?_year hy, hp.month, hp.date, Parts.setShort]

theorem patternParts?_clock (hp : p.Fits) (items : List Item) (q : Parts) (rest : List Char) :
    patternParts? (Pattern.clock ++ items) q (p.clock ++ rest)
      = patternParts? items { q with hour := p.hour, minute := p.minute } rest := by
  simp [Pattern.clock, Parts.clock, patternParts?_cons, read?_char, read?_short, hp.hour,
    hp.minute, Parts.setShort]

theorem patternParts?_fullClock (hp : p.Fits) (items : List Item) (q : Parts) (rest : List Char) :
    patternParts? (Pattern.fullClock ++ items) q (p.fullClock ++ rest)
      = patternParts? items { q with hour := p.hour, minute := p.minute, second := p.second }
          rest := by
  simp [Pattern.fullClock, Parts.fullClock, patternParts?_clock, patternParts?_cons, read?_char,
    read?_short, hp, hp.second, Parts.setShort]

theorem patternParts?_monthFirst_year (h : n < 10000) (rest : List Char) :
    patternParts? (Pattern.monthFirst ++ items) q (padded 4 n ++ rest) = none := by
  have hslash := char?_padded (c := '/') (by decide) 2 (n % 100) rest
  rw [padded_four]
  simp only [Pattern.monthFirst, List.cons_append, patternParts?_cons]
  rw [read?_short (by omega)]
  simp [Item.read?, hslash]

theorem clock_append (p : Parts) (rest : List Char) :
    p.fullClock ++ rest = p.clock ++ ':' :: (padded 2 p.second ++ rest) := by
  simp [Parts.fullClock]

theorem patternParts?_clock_fullClock (hp : p.Fits) (rest : List Char) :
    patternParts? Pattern.clock q (p.fullClock ++ rest) = none := by
  rw [clock_append, ← List.append_nil Pattern.clock, patternParts?_clock hp]
  rfl

theorem patternParts?_fullClock_clock (hp : p.Fits) :
    patternParts? (Pattern.fullClock ++ items) q p.clock = none := by
  rw [← List.append_nil p.clock, Pattern.fullClock, List.append_assoc, patternParts?_clock hp]
  rfl

/-- Where there are no blanks the clock is to begin at once. -/
@[simp]
theorem patternParts?_blanks_T (q : Parts) (rest : List Char) :
    patternParts? (.blanks :: Pattern.fullClock) q ('T' :: rest) = none := by
  have hhour := read?_short_of_head (c := 'T') (by decide) (by decide) q .hour rest
  have hclock : patternParts? Pattern.fullClock q ('T' :: rest) = none := by
    simp [Pattern.fullClock, Pattern.clock, patternParts?_cons, hhour]
  exact hclock

@[simp]
theorem patternParts?_blanks_nil (q : Parts) :
    patternParts? (.blanks :: Pattern.fullClock) q [] = none := rfl

theorem patternParts?_blanks_fullClock (hp : p.Fits) :
    patternParts? (.blanks :: Pattern.fullClock) q (' ' :: p.fullClock)
      = some { q with hour := p.hour, minute := p.minute, second := p.second } := by
  have hblank : trimStart (' ' :: p.fullClock) = p.fullClock := by
    simp only [Parts.fullClock, Parts.clock, List.append_assoc]
    exact trimStart_padded _ _ _
  have hclock := patternParts?_fullClock hp [] q []
  rw [List.append_nil, List.append_nil] at hclock
  rw [patternParts?_cons]
  simp only [Item.read?, hblank, Option.bind_some]
  exact hclock

/-- A date that begins with its month, read as one that begins with its year. -/
def Parts.misread (p : Parts) (y : Nat) : Parts :=
  { year := p.month, month := p.date, date := y / 100 }

theorem beforeYear_eq_afterYear (p : Parts) (y : Nat) (rest : List Char) :
    p.beforeYear ++ (padded 4 y ++ rest)
      = padded 2 p.month ++ ((p.misread y).afterYear '/' ++ (padded 2 (y % 100) ++ rest)) := by
  rw [padded_four]
  simp [Parts.beforeYear, Parts.afterYear, Parts.misread]

theorem Parts.Fits.misread {y : Nat} (hp : p.Fits) (hy : y < 10000) : (p.misread y).Fits where
  month := hp.date
  date := by
    show y / 100 < 100
    omega
  hour := by simp [Parts.misread]
  minute := by simp [Parts.misread]
  second := by simp [Parts.misread]
  ms := by simp [Parts.misread]

/-- After the century that is then the day there are two digits, and no colon after them. -/
theorem patternParts?_misread (h : n < 100) (hrest : char? ':' rest = none) :
    patternParts? (.blanks :: Pattern.fullClock) q (padded 2 n ++ rest) = none
      ∧ patternParts? [] q (padded 2 n ++ rest) = none := by
  constructor
  · simp [Pattern.fullClock, Pattern.clock, patternParts?_cons, Item.read?, trimStart_padded,
      number?_padded, h, hrest]
  · simp [patternParts?, padded_ne_nil]

/-! ## Moments -/

theorem inSpan_iff : inSpan y = true ↔ -262143 ≤ y ∧ y ≤ 262142 := by
  rw [inSpan, Bool.and_eq_true, decide_eq_true_iff, decide_eq_true_iff]
  rfl

theorem civilDay?_eq_some {y n : Int} {m d : Nat} : civilDay? y m d = some n
    ↔ inSpan y = true ∧ (1 ≤ m ∧ m ≤ 12) ∧ (1 ≤ d ∧ (d : Int) ≤ monthLength y (m - 1))
      ∧ dayOfDate y (m - 1) d = n := by
  simp [civilDay?, and_assoc]

namespace Parts

/-- A date of the calendar and a time of the day. -/
structure Proper (p : Parts) : Prop where
  month : 1 ≤ p.month ∧ p.month ≤ 12
  date : 1 ≤ p.date ∧ p.date ≤ Gregorian.monthDays p.year (p.month - 1)
  hour : p.hour ≤ 23
  minute : p.minute ≤ 59
  second : p.second ≤ 59
  ms : p.ms ≤ 999

theorem Proper.atSecond (hp : p.Proper) : p.atSecond.Proper := { hp with ms := Nat.zero_le _ }

theorem Proper.atMinute (hp : p.Proper) : p.atMinute.Proper :=
  { hp with second := Nat.zero_le _, ms := Nat.zero_le _ }

theorem Proper.day (hp : p.Proper) : p.day.Proper :=
  { hp with hour := Nat.zero_le _, minute := Nat.zero_le _, second := Nat.zero_le _,
            ms := Nat.zero_le _ }

/-- The milliseconds from the epoch to the parts, read as UTC. -/
def time (p : Parts) : Int :=
  86400000 * Gregorian.dayNumber p.year (p.month - 1) p.date
    + (3600000 * p.hour + 60000 * p.minute + 1000 * p.second + p.ms)

theorem Proper.date_le (hp : p.Proper) : p.date ≤ 31 := by
  have hmonth := hp.month
  have hdate := hp.date.2
  rw [← Gregorian.monthLength_eq (by omega)] at hdate
  have := (monthLength_bounds (m := p.month - 1) (by omega) p.year).2
  omega

theorem Proper.fits (hp : p.Proper) : p.Fits := by
  have hdate := hp.date_le
  obtain ⟨hmonth, -, hhour, hminute, hsecond, hms⟩ := hp
  constructor <;> omega

/-- The moment of proper parts is at their time. -/
theorem Proper.moment?_eq (hp : p.Proper) : ∃ m : Moment, m.time = p.time ∧ m.ms = p.ms
    ∧ p.moment? = if inSpan p.year then some m else none := by
  have hmonth := hp.month
  have hday : civilDay? p.year p.month p.date
      = if inSpan p.year then some (Gregorian.dayNumber p.year (p.month - 1) p.date) else none := by
    rw [← Gregorian.dayOfDate_eq (by omega), civilDay?, Gregorian.monthLength_eq (by omega)]
    simp [hp.month, hp.date]
  refine ⟨⟨((Gregorian.dayNumber p.year (p.month - 1) p.date * 24 + p.hour) * 60 + p.minute) * 60
    + p.second, p.ms⟩, ?_, rfl, ?_⟩
  · simp only [Moment.time, Parts.time, msPerSecond]
    ring
  · have hsecond : p.second ≠ 60 ∧ p.second ≤ 60 := by
      have := hp.second
      omega
    cases hspan : inSpan p.year with
    | false => simp [moment?, hday, hspan]
    | true => simp [moment?, hday, hspan, hp.hour, hp.minute, hsecond]

/-- What proper parts are read as, where they are read at all. -/
theorem Proper.map_moment? (hp : p.Proper) (f : Int → Reading) :
    (p.moment?.map fun m => f m.time) = if inSpan p.year then some (f p.time) else none := by
  obtain ⟨m, htime, -, hm⟩ := hp.moment?_eq
  rw [hm, ← htime]
  split_ifs <;> rfl

end Parts

end ScriptDate.Reading
