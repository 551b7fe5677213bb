import ScriptDate.Proofs.AnyZone
import ScriptDate.Proofs.NumericTexts

/-!
# Dates between slashes

Three groups of digits between slashes can be a day with the month first and a day with the year
first. A date alone is tried in the first way before the second, and a date with a time in the
second before the first (`Reading.ofText?_groups`, `Reading.ofText?_groups_midnight`). So midnight
written after a date leaves its instant as it is, but for groups that are two days
(`Date.parse_slashed_midnight`).
-/

namespace ScriptDate

open Calendar Text

namespace Reading

/-- Digits, at least one of them. -/
structure DigitGroup where
  digits : List Char
  ne_nil : digits ≠ []
  isDigit : ∀ c ∈ digits, c.isDigit = true

def DigitGroup.value (g : DigitGroup) : Nat := ofDigits g.digits

def DigitGroup.width (g : DigitGroup) : Nat := g.digits.length

def DigitGroup.ofNat (n : Nat) : DigitGroup :=
  ⟨Text.digits n, digits_ne_nil n, fun _ => isDigit_of_mem_digits⟩

variable {p q : Parts} {c d : Char} {item : Item} {items : List Item} {cs rest : List Char}
  {w : Nat}

/-! ## Reading a group -/

/-- A pattern never goes on with digits that are left over before `rest`. -/
def Stops (items : List Item) (rest : List Char) : Prop :=
  ∀ (q : Parts) (g : DigitGroup), patternParts? items q (g.digits ++ rest) = none

/-- A field reads a group that is not too long for it, and otherwise leaves some of its digits. -/
theorem ReadsUpTo.patternParts? {set : Parts → Nat → Parts} (h : ReadsUpTo w item set)
    (hstops : Stops items rest) (hrest : ∀ c ∈ rest.head?, c.isDigit = false) (p : Parts)
    (g : DigitGroup) :
    patternParts? (item :: items) p (g.digits ++ rest)
      = if g.width ≤ w then patternParts? items (set p g.value) rest else none := by
  obtain ⟨c, cs, hg⟩ := List.exists_cons_of_ne_nil g.ne_nil
  have hc : c.isDigit = true := g.isDigit c (by simp [hg])
  have hread : item.read? p (g.digits ++ rest)
      = (number? 1 w (g.digits ++ rest)).map fun r => (set p r.1, r.2) := by
    rw [hg]
    exact h.read p hc (cs ++ rest)
  have hpos := List.length_pos_iff.mpr g.ne_nil
  rw [patternParts?_cons, hread]
  split_ifs with hw
  · rw [number?_append g.isDigit hpos hw (Or.inr hrest)]
    rfl
  · have hlong : w < g.digits.length := not_le.mp hw
    have hleft : g.digits.drop w ≠ [] := by simp [hlong]
    have hnumber : number? 1 w (g.digits ++ rest)
        = some (ofDigits (g.digits.take w), g.digits.drop w ++ rest) := by
      have hw := h.pos
      refine number?_eq_some.mpr ⟨g.digits.take w, ?_, ⟨fun c hc => ?_, ?_, ?_, Or.inl ?_⟩, rfl⟩
      · rw [← List.append_assoc, List.take_append_drop]
      · exact g.isDigit c (List.mem_of_mem_take hc)
      · simp
        omega
      · exact List.length_take_le _ _
      · simp
        omega
    rw [hnumber]
    exact hstops _ ⟨_, hleft, fun c hc => g.isDigit c (List.mem_of_mem_drop hc)⟩

theorem stops_char (hc : c.isDigit = false) (items : List Item) (rest : List Char) :
    Stops (.char c :: items) rest := by
  intro q g
  obtain ⟨d, cs, hg⟩ := List.exists_cons_of_ne_nil g.ne_nil
  have hd : d.isDigit = true := g.isDigit d (by simp [hg])
  have hne : d ≠ c := by
    rintro rfl
    simp [hc] at hd
  rw [hg]
  exact patternParts?_char_of_ne hne items q _

theorem stops_nil (rest : List Char) : Stops [] rest := by
  intro q g
  obtain ⟨d, cs, hg⟩ := List.exists_cons_of_ne_nil g.ne_nil
  rw [hg]
  rfl

/-- A text after a date, which goes on with neither its last number nor a clock. -/
def Apart (rest : List Char) : Prop := ∀ c ∈ rest.head?, c.isDigit = false ∧ c ≠ ':'

theorem patternParts?_colon (h : Apart rest) (items : List Item) (p : Parts) :
    patternParts? (.char ':' :: items) p rest = none := by
  rcases rest with _ | ⟨c, rest⟩
  · rfl
  · exact patternParts?_char_of_ne (h c rfl).2 items p rest

/-- Digits left over are read as an hour, but no colon follows them. -/
theorem stops_fullClock (h : Apart rest) : Stops (.blanks :: Pattern.fullClock) rest := by
  intro q g
  obtain ⟨d, cs, hg⟩ := List.exists_cons_of_ne_nil g.ne_nil
  have htrim : trimStart (g.digits ++ rest) = g.digits ++ rest := by
    simp [hg, trimStart, isBlank_of_isDigit (g.isDigit d (by simp [hg]))]
  have hhour := (readsUpTo_short .hour).patternParts?
    (stops_char (c := ':') rfl [.short .minute, .char ':', .short .second] rest)
    (fun c hc => (h c hc).1) q g
  rw [patternParts?_colon h, ite_self] at hhour
  rw [patternParts?_cons]
  simp only [Item.read?, htrim, Option.bind_some]
  exact hhour

/-! ## Three groups -/

/-- Three groups of digits with slashes between them. -/
def slashed (a b c : DigitGroup) : List Char :=
  a.digits ++ '/' :: (b.digits ++ '/' :: c.digits)

variable (a b g : DigitGroup)

theorem patternParts?_yearFirst_slash (h : Apart rest) (hstops : Stops items rest) :
    patternParts? (Pattern.yearFirst '/' ++ items) {} (slashed a b g ++ rest)
      = if a.width ≤ 4 ∧ b.width ≤ 2 ∧ g.width ≤ 2 then
          patternParts? items { year := a.value, month := b.value, date := g.value } rest
        else none := by
  have hyear := fun items rest p => readsUpTo_year.patternParts?
    (stops_char (c := '/') rfl items ('/' :: rest)) (by simp) p a
  have hmonth := fun items rest p => (readsUpTo_short .month).patternParts?
    (stops_char (c := '/') rfl items ('/' :: rest)) (by simp) p b
  have hdate := fun p =>
    (readsUpTo_short .date).patternParts? hstops (fun c hc => (h c hc).1) p g
  simp only [slashed, Pattern.yearFirst, List.append_assoc, List.cons_append, List.nil_append,
    hyear, hmonth, hdate, patternParts?_char, Parts.setShort, ite_and]

theorem patternParts?_monthFirst_slash (h : Apart rest) (hstops : Stops items rest) :
    patternParts? (Pattern.monthFirst ++ items) {} (slashed a b g ++ rest)
      = if a.width ≤ 2 ∧ b.width ≤ 2 ∧ g.width ≤ 4 then
          patternParts? items { year := g.value, month := a.value, date := b.value } rest
        else none := by
  have hmonth := fun items rest p => (readsUpTo_short .month).patternParts?
    (stops_char (c := '/') rfl items ('/' :: rest)) (by simp) p a
  have hdate := fun items rest p => (readsUpTo_short .date).patternParts?
    (stops_char (c := '/') rfl items ('/' :: rest)) (by simp) p b
  have hyear := fun p => readsUpTo_year.patternParts? hstops (fun c hc => (h c hc).1) p g
  simp only [slashed, Pattern.monthFirst, List.append_assoc, List.cons_append, List.nil_append,
    hyear, hmonth, hdate, patternParts?_char, Parts.setShort, ite_and]

theorem patternParts?_yearFirst_hyphen (items : List Item) (rest : List Char) :
    patternParts? (Pattern.yearFirst '-' ++ items) {} (slashed a b g ++ rest) = none := by
  have hyear := fun items rest p => readsUpTo_year.patternParts?
    (stops_char (c := '-') rfl items ('/' :: rest)) (by simp) p a
  simp only [slashed, Pattern.yearFirst, List.append_assoc, List.cons_append, hyear,
    patternParts?_char_of_ne (show '/' ≠ '-' by decide), ite_self]

/-! ## The day they give -/

/-- The day of three groups that are read as month, day and year. -/
def monthFirstDay? (a b c : DigitGroup) : Option Int :=
  if a.width ≤ 2 ∧ b.width ≤ 2 ∧ c.width ≤ 4 then civilDay? c.value a.value b.value else none

/-- The day of three groups that are read as year, month and day. -/
def yearFirstDay? (a b c : DigitGroup) : Option Int :=
  if a.width ≤ 4 ∧ b.width ≤ 2 ∧ c.width ≤ 2 then civilDay? a.value b.value c.value else none

/-- What stands after a date for the start of its day. -/
def midnight : List Char := " 00:00:00".toList

theorem ofList_midnight : String.ofList midnight = " 00:00:00" := String.ofList_toList

theorem map_moment?_day (y : Int) (m d : Nat) :
    (({ year := y, month := m, date := d } : Parts).moment?.map fun m => Reading.localTime m.time)
      = (civilDay? y m d).map fun n => .localTime (msPerDay * n) := by
  cases h : civilDay? y m d with
  | none => simp [Parts.moment?, h]
  | some n =>
    simp [Parts.moment?, h, Moment.time, msPerDay, msPerSecond]
    omega

/-- What follows the date says nothing more than the start of its day. -/
def SaysDay (items : List Item) (rest : List Char) : Prop :=
  ∀ (y : Int) (m d : Nat), patternParts? items { year := y, month := m, date := d } rest
    = some { year := y, month := m, date := d }

theorem map_moment?_yearFirst (h : Apart rest) (hstops : Stops items rest)
    (hday : SaysDay items rest) :
    (((patternParts? (Pattern.yearFirst '/' ++ items) {} (slashed a b g ++ rest)).bind
        Parts.moment?).map fun m => Reading.localTime m.time)
      = (yearFirstDay? a b g).map fun n => .localTime (msPerDay * n) := by
  rw [patternParts?_yearFirst_slash a b g h hstops, hday, yearFirstDay?]
  split_ifs
  · exact map_moment?_day _ _ _
  · rfl

theorem map_moment?_monthFirst (h : Apart rest) (hstops : Stops items rest)
    (hday : SaysDay items rest) :
    (((patternParts? (Pattern.monthFirst ++ items) {} (slashed a b g ++ rest)).bind
        Parts.moment?).map fun m => Reading.localTime m.time)
      = (monthFirstDay? a b g).map fun n => .localTime (msPerDay * n) := by
  rw [patternParts?_monthFirst_slash a b g h hstops, hday, monthFirstDay?]
  split_ifs
  · exact map_moment?_day _ _ _
  · rfl

theorem patternParts?_slash_of_none (h : Apart rest) (hstops : Stops items rest)
    (hnone : ∀ q, patternParts? items q rest = none) :
    patternParts? (Pattern.yearFirst '/' ++ items) {} (slashed a b g ++ rest) = none
      ∧ patternParts? (Pattern.monthFirst ++ items) {} (slashed a b g ++ rest) = none := by
  rw [patternParts?_yearFirst_slash a b g h hstops, patternParts?_monthFirst_slash a b g h hstops,
    hnone, hnone, ite_self, ite_self]
  exact ⟨rfl, rfl⟩

theorem ofText?_groups_of_none (rest : List Char) :
    ofText? (slashed a b g ++ rest) = goOn? slashedTexts {} (slashed a b g ++ rest) := by
  rw [← goOn?_wholeTexts fun items => patternParts?_yearFirst_hyphen a b g items rest]
  have htext : slashed a b g ++ rest
      = a.digits ++ '/' :: (b.digits ++ '/' :: (g.digits ++ rest)) := by
    simp [slashed]
  rw [htext]
  exact ofText?_of_none (Rfc3339.instant?_numeric_slash a.isDigit _)
    (Rfc2822.instant?_numeric a.isDigit (by decide) _) (monthName?_numeric a.isDigit (by decide) _)

/-- A date alone is tried with its month first. -/
theorem ofText?_groups : ofText? (slashed a b g)
    = ((monthFirstDay? a b g).or (yearFirstDay? a b g)).map fun n => .localTime (msPerDay * n) := by
  have hapart : Apart [] := by simp [Apart]
  have hday : SaysDay [] [] := fun _ _ _ => rfl
  obtain ⟨hyear, hmonth⟩ :=
    patternParts?_slash_of_none a b g hapart (stops_fullClock hapart) fun _ => rfl
  have hforms := ofText?_groups_of_none a b g []
  simp only [slashedTexts, goOn?_cons, goOn?_nil, hyear, hmonth,
    map_moment?_yearFirst a b g hapart (stops_nil []) hday,
    map_moment?_monthFirst a b g hapart (stops_nil []) hday, Option.bind_none, Option.map_none,
    Option.none_or, Option.or_none] at hforms
  rw [List.append_nil] at hforms
  rw [hforms, Option.map_or]

/-- With a time after it the same date is tried with its year first. -/
theorem ofText?_groups_midnight : ofText? (slashed a b g ++ midnight)
    = ((yearFirstDay? a b g).or (monthFirstDay? a b g)).map fun n => .localTime (msPerDay * n) := by
  have hapart : Apart midnight := by
    intro c hc
    obtain rfl : ' ' = c := Option.some.inj hc
    decide
  have hday : SaysDay (.blanks :: Pattern.fullClock) midnight := fun _ _ _ => rfl
  obtain ⟨hyear, hmonth⟩ :=
    patternParts?_slash_of_none a b g hapart (stops_nil midnight) fun _ => rfl
  rw [ofText?_groups_of_none]
  simp only [slashedTexts, goOn?_cons, goOn?_nil, hyear, hmonth,
    map_moment?_yearFirst a b g hapart (stops_fullClock hapart) hday,
    map_moment?_monthFirst a b g hapart (stops_fullClock hapart) hday, Option.bind_none,
    Option.map_none, Option.or_none, Option.map_or]

/-! ## Two ways to read them -/

theorem daysBeforeMonth_add_le (leap : Bool) {m n : Nat} (hmn : m < n) (hn : n ≤ 12) :
    daysBeforeMonth m leap + 28 ≤ daysBeforeMonth n leap := by
  have hlength := (daysBeforeMonth_lt_succ (m := m) (by omega) leap).1
  have hmono := daysBeforeMonth_mono leap (show m + 1 ≤ n from hmn) hn
  omega

/-- Read in the two ways, three groups give the same day or days well apart. -/
theorem two_le_natAbs_sub {d d' : Int} (hmonth : monthFirstDay? a b g = some d)
    (hyear : yearFirstDay? a b g = some d') (hne : d ≠ d') : 2 ≤ (d - d').natAbs := by
  unfold monthFirstDay? at hmonth
  unfold yearFirstDay? at hyear
  split_ifs at hmonth hyear
  obtain ⟨-, ha, ⟨hb, -⟩, rfl⟩ := civilDay?_eq_some.mp hmonth
  obtain ⟨-, hb', ⟨hg, hg'⟩, rfl⟩ := civilDay?_eq_some.mp hyear
  have hlength := (monthLength_bounds (m := b.value - 1) (by omega) a.value).2
  have before {m : Nat} (hm : m ≤ 11) (leap : Bool) :
      0 ≤ daysBeforeMonth m leap ∧ daysBeforeMonth m leap ≤ 335 := by
    have hzero := daysBeforeMonth_mono leap (Nat.zero_le m) (by omega)
    have hlast := daysBeforeMonth_mono leap hm (by omega)
    rw [daysBeforeMonth_zero] at hzero
    exact ⟨hzero, hlast.trans (by cases leap <;> decide)⟩
  unfold dayOfDate at hne ⊢
  rcases eq_or_ne a.value g.value with heq | hyears
  · rw [← heq] at hne ⊢
    rcases lt_trichotomy a.value b.value with hlt | hsame | hlt
    · have := daysBeforeMonth_add_le (isLeap a.value) (m := a.value - 1) (n := b.value - 1)
        (by omega) (by omega)
      omega
    · rw [hsame] at hne
      exact absurd rfl hne
    · have := daysBeforeMonth_add_le (isLeap a.value) (m := b.value - 1) (n := a.value - 1)
        (by omega) (by omega)
      omega
  · have h1 := before (m := a.value - 1) (by omega) (isLeap g.value)
    have h2 := before (m := b.value - 1) (by omega) (isLeap a.value)
    unfold firstDay
    omega

theorem natAbs_monthFirstDay? {d : Int} (h : monthFirstDay? a b g = some d) :
    d.natAbs ≤ 96500000 := by
  unfold monthFirstDay? at h
  split_ifs at h
  exact natAbs_civilDay? h

theorem natAbs_yearFirstDay? {d : Int} (h : yearFirstDay? a b g = some d) :
    d.natAbs ≤ 96500000 := by
  unfold yearFirstDay? at h
  split_ifs at h
  exact natAbs_civilDay? h

/-- Both ways give a day, and not the same day. -/
def Ambiguous (a b c : DigitGroup) : Prop :=
  ∃ d d', monthFirstDay? a b c = some d ∧ yearFirstDay? a b c = some d' ∧ d ≠ d'

theorem or_comm_of_not_ambiguous (h : ¬ Ambiguous a b g) :
    (monthFirstDay? a b g).or (yearFirstDay? a b g)
      = (yearFirstDay? a b g).or (monthFirstDay? a b g) := by
  rcases hmonth : monthFirstDay? a b g with _ | d
  · rw [Option.none_or, Option.or_none]
  · rcases hyear : yearFirstDay? a b g with _ | d'
    · rfl
    · obtain rfl : d = d' := by
        by_contra hne
        exact h ⟨d, d', hmonth, hyear, hne⟩
      rfl

end Reading

namespace Date

open Reading TimeValue

variable {zone : Zone} {text : String} {a b c : DigitGroup}

theorem visible_slashed (a b c : DigitGroup) :
    StartsVisible (slashed a b c) ∧ EndsVisible (slashed a b c) := by
  obtain ⟨d, ds, ha⟩ := List.exists_cons_of_ne_nil a.ne_nil
  have hd : isBlank d = false := isBlank_of_isDigit (a.isDigit d (by simp [ha]))
  refine ⟨⟨d, ds ++ '/' :: (b.digits ++ '/' :: c.digits), by simp [slashed, ha], hd⟩, ?_⟩
  have hend : EndsVisible c.digits := ⟨_, _, (List.dropLast_concat_getLast c.ne_nil).symm,
    isBlank_of_isDigit (c.isDigit _ (List.getLast_mem _))⟩
  exact ((hend.cons '/').append b.digits |>.cons '/').append a.digits

/-- Local times two days apart have other instants, in any zone. -/
theorem clip_toUTC_ne (hzone : Zone.UnderADay zone.offset) {l l' : Int}
    (hl : l.natAbs ≤ 8400000000000000) (hl' : l'.natAbs ≤ 8400000000000000)
    (hfar : 2 * 86400000 ≤ (l - l').natAbs) :
    clip (zone.toUTC (.ofInt l)) ≠ clip (zone.toUTC (.ofInt l')) := by
  have hnear := Zone.natAbs_sub_taken hzone l
  have hnear' := Zone.natAbs_sub_taken hzone l'
  rw [clip_toUTC_near hzone hl, clip_toUTC_near hzone hl']
  intro heq
  have := Int.cast_inj.mp (Number.finite.inj heq)
  omega

/-- A date of three groups between slashes says the same instant with midnight after it, unless
the groups are a day both with the month first and with the year first, and not the same day. Then
it says another. -/
theorem parse_slashed_midnight (zone : Zone) (htext : text.toList = slashed a b c) {v : Number}
    (hv : (parse zone text).value = some v) :
    (¬ Ambiguous a b c → (parse zone (text ++ " 00:00:00")).value = some v)
    ∧ (Zone.UnderADay zone.offset → Ambiguous a b c →
      ∃ w, (parse zone (text ++ " 00:00:00")).value = some w ∧ w ≠ v) := by
  obtain ⟨hstart, hend⟩ := visible_slashed a b c
  have hmidnight : EndsVisible midnight := ⟨" 00:00:0".toList, '0', by decide, by decide⟩
  have hdate : text = String.ofList (slashed a b c) := by rw [← htext, String.ofList_toList]
  have htime : text ++ " 00:00:00" = String.ofList (slashed a b c ++ midnight) := by
    rw [String.ofList_append, ← hdate, ofList_midnight]
  rw [hdate, value_parse hstart hend, ofText?_groups, Option.map_map] at hv
  rw [htime, value_parse (hstart.append _) (hmidnight.append _), ofText?_groups_midnight,
    Option.map_map]
  constructor
  · intro h
    rw [← or_comm_of_not_ambiguous a b c h]
    exact hv
  · rintro hzone ⟨d, d', hmonth, hyear, hne⟩
    have hfar := two_le_natAbs_sub a b c hmonth hyear hne
    have hsmall := natAbs_monthFirstDay? a b c hmonth
    have hsmall' := natAbs_yearFirstDay? a b c hyear
    rw [hmonth] at hv
    rw [hyear]
    refine ⟨_, rfl, ?_⟩
    rw [← Option.some.inj hv]
    refine clip_toUTC_ne hzone ?_ ?_ ?_
    all_goals
      unfold msPerDay
      omega

theorem parse_slashed_midnight_leap_day :
    (parse (.fixed oneAhead) "2/29/2024").value = some (.finite 1709161200000)
    ∧ (parse (.fixed oneAhead) "2/29/2024 00:00:00").value = some (.finite 1709161200000)
    ∧ ∃ v w, (parse (.fixed oneAhead) "10/11/12").value = some v
      ∧ (parse (.fixed oneAhead) "10/11/12 00:00:00").value = some w ∧ w ≠ v := by
  have htext : "2/29/2024".toList = slashed (.ofNat 2) (.ofNat 29) (.ofNat 2024) := by
    decide +kernel
  have hleap : (parse (.fixed oneAhead) "2/29/2024").value = some (.finite 1709161200000) := by
    decide +kernel
  have hone : ¬ Ambiguous (.ofNat 2) (.ofNat 29) (.ofNat 2024) := by
    rintro ⟨-, d, -, h, -⟩
    have hnone : yearFirstDay? (.ofNat 2) (.ofNat 29) (.ofNat 2024) = none := by decide +kernel
    simp [hnone] at h
  -- As month, day and year 11 October of the year 12, and 12 November of the year 10 otherwise.
  have htext' : "10/11/12".toList = slashed (.ofNat 10) (.ofNat 11) (.ofNat 12) := by
    decide +kernel
  have htwo : (parse (.fixed oneAhead) "10/11/12").value = some (.finite (-61763994000000)) := by
    decide +kernel
  have hambiguous : Ambiguous (.ofNat 10) (.ofNat 11) (.ofNat 12) :=
    ⟨-714861, -715560, by decide +kernel, by decide +kernel, by decide⟩
  obtain ⟨w, hw, hne⟩ := (parse_slashed_midnight (.fixed oneAhead) htext' htwo).2
    (Zone.underADay_fixed oneAhead) hambiguous
  exact ⟨hleap, (parse_slashed_midnight (.fixed oneAhead) htext hleap).1 hone, _, w, htwo, hw, hne⟩

/-- The second of January of the year 3, and with midnight after it the third of February of the
year 1. -/
theorem parse_slashed_midnight_other_day :
    (parse Zone.utc "01/02/03").value = some (.finite (-62072438400000))
    ∧ (parse Zone.utc "01/02/03 00:00:00").value = some (.finite (-62132745600000)) := by
  decide +kernel

end Date

end ScriptDate
