import Mathlib.Data.List.TakeWhile
import ScriptDate.Proofs.Components
import ScriptDate.Proofs.Forms

/-!
# Readings in any zone

A zone has no part in what a text says. So in all zones it is no date, or the same instant, or the
instant that each of them has for one local time, and only one of the three
(`Date.parse_in_any_zone`). Whatever form reads a text, the date lies in the span of read dates
(`Reading.natAbs_time_of_ofText?`), and what comes out is a time value as it stands.
-/

namespace ScriptDate

open Calendar Number Text

namespace Reading

variable {p q : Parts} {m : Moment} {cs rest : List Char} {ms : Nat} {s : Int}

/-! ## Moments -/

theorem natAbs_civilDay? {y d : Int} {month date : Nat} (h : civilDay? y month date = some d) :
    d.natAbs ≤ 96500000 := by
  obtain ⟨hy, ⟨hm, hm'⟩, ⟨hd, hd'⟩, rfl⟩ := civilDay?_eq_some.mp h
  have hspan := inSpan_iff.mp hy
  have hbefore := TimeValue.daysBeforeMonth_bounds (m := month - 1) (by omega) (isLeap y)
  have hlength := monthLength_bounds (m := month - 1) (by omega) y
  rw [dayOfDate, firstDay]
  omega

/-- A leap second runs on for a second, so the milliseconds may come to two. -/
theorem moment?_bounds (h : p.moment? = some m) (hms : p.ms < 1000) :
    m.seconds.natAbs ≤ 8338000000000 ∧ 0 ≤ m.ms ∧ m.ms < 2000 := by
  obtain ⟨d, hd, h⟩ := Option.bind_eq_some_iff.mp h
  have hday := natAbs_civilDay? hd
  simp only at h
  split_ifs at h with hclock hleap
  · simp only [Bool.and_eq_true, decide_eq_true_eq] at hclock
    obtain rfl := Option.some.inj h
    dsimp only
    omega
  · simp only [Bool.and_eq_true, decide_eq_true_eq] at hclock
    obtain rfl := Option.some.inj h
    dsimp only
    omega

theorem fraction?_lt (h : fraction? cs = some (ms, rest)) : ms < 1000 := by
  unfold fraction? at h
  split at h
  · rename_i text
    simp only at h
    split_ifs at h with hnil
    simp only [Option.some.injEq, Prod.mk.injEq] at h
    obtain ⟨rfl, -⟩ := h
    have hdigits : ∀ c ∈ (text.takeWhile Char.isDigit ++ ['0', '0']).take 3,
        c.isDigit = true := by
      intro c hc
      rcases List.mem_append.mp (List.mem_of_mem_take hc) with hc | hc
      · exact List.mem_takeWhile_imp hc
      · simp only [List.mem_cons, List.not_mem_nil, or_false, or_self] at hc
        rw [hc]
        rfl
    exact (ofDigits_lt hdigits).trans_le (Nat.pow_le_pow_right (by omega) (List.length_take_le _ _))
  · simp only [Option.some.injEq, Prod.mk.injEq] at h
    omega

theorem natAbs_sign? (h : Text.sign? cs = some (s, rest)) : s.natAbs = 1 := by
  unfold Text.sign? at h
  split at h
  · simp only [Option.some.injEq, Prod.mk.injEq] at h
    omega
  · simp only [Option.some.injEq, Prod.mk.injEq] at h
    omega
  · simp at h

theorem natAbs_offsetSeconds? {hours minutes : Nat} (hs : s.natAbs = 1) {offset : Int}
    (h : offsetSeconds? s hours minutes = some offset) : offset.natAbs < 86400 := by
  unfold offsetSeconds? at h
  split_ifs at h with hparts
  simp only [Bool.and_eq_true, decide_eq_true_eq] at hparts
  rw [← Option.some.inj h, Int.natAbs_mul, hs]
  omega

/-! ## Forms -/

/-- A moment in the range of time values, whatever day it is at in other zones. -/
def Near (m : Moment) : Prop := m.time.natAbs ≤ 8400000000000000

theorem near_behind (h : p.moment? = some m) (hms : p.ms < 1000) {offset : Int}
    (hoffset : offset.natAbs < 86400) : Near (m.behind offset) := by
  have hbounds := moment?_bounds h hms
  simp only [Near, Moment.time, Moment.behind, msPerSecond]
  omega

theorem near_moment? (h : p.moment? = some m) (hms : p.ms < 1000) : Near m := by
  have hnear := near_behind h hms (show (0 : Int).natAbs < 86400 by decide)
  rwa [Moment.behind, sub_zero] at hnear

namespace Rfc3339

theorem natAbs_sign? (h : sign? cs = some (s, rest)) : s.natAbs = 1 := by
  unfold sign? at h
  split at h
  · simp only [Option.some.injEq, Prod.mk.injEq] at h
    omega
  · exact Reading.natAbs_sign? h

theorem natAbs_zone? {offset : Int} (h : zone? cs = some offset) : offset.natAbs < 86400 := by
  unfold zone? at h
  split at h
  · rw [← Option.some.inj h]
    decide
  · rw [← Option.some.inj h]
    decide
  · simp only [Option.bind_eq_bind, Option.bind_eq_some_iff] at h
    obtain ⟨⟨factor, r⟩, hsign, ⟨hours, r₁⟩, -, r₂, -, ⟨minutes, r₃⟩, -, h⟩ := h
    simp only at h
    split_ifs at h
    exact natAbs_offsetSeconds? (natAbs_sign? hsign) h

theorem near_timeOn? {year : Int} {month date : Nat} (h : timeOn? year month date cs = some m) :
    Near m := by
  iterate 5 obtain ⟨_, -, h⟩ := Option.bind_eq_some_iff.mp h
  obtain ⟨⟨ms, _⟩, hms, h⟩ := Option.bind_eq_some_iff.mp h
  obtain ⟨offset, hoffset, h⟩ := Option.bind_eq_some_iff.mp h
  obtain ⟨written, hwritten, h⟩ := Option.bind_eq_some_iff.mp h
  obtain rfl := Option.some.inj h
  exact near_behind hwritten (fraction?_lt hms) (natAbs_zone? hoffset)

theorem near_instant? (h : instant? cs = some m) : Near m := by
  iterate 6 obtain ⟨_, -, h⟩ := Option.bind_eq_some_iff.mp h
  exact near_timeOn? h

end Rfc3339

namespace Rfc2822

/-- The span is asked of the instant itself, whatever its zone. -/
theorem near_inYear? {weekDay : Option Nat} {date month : Nat}
    (h : inYear? weekDay date month cs = some m) : Near m := by
  have hfirst : yearStart firstYear = -8334601228800000 := by decide
  have hlast : yearStart (lastYear + 1) = 8210266876800000 := by decide
  iterate 8 obtain ⟨_, -, h⟩ := Option.bind_eq_some_iff.mp h
  obtain ⟨written, hwritten, h⟩ := Option.bind_eq_some_iff.mp h
  have hms := (moment?_bounds hwritten (by simp)).2
  simp only at h
  split_ifs at h with hspan
  simp only [timeInSpan, hfirst, hlast, Bool.and_eq_true, decide_eq_true_eq] at hspan
  rw [← Option.some.inj h]
  simp only [Near, Moment.time, Moment.behind] at hspan ⊢
  omega

theorem near_instant? (h : instant? cs = some m) : Near m := by
  iterate 5 obtain ⟨_, -, h⟩ := Option.bind_eq_some_iff.mp h
  exact near_inYear? h

end Rfc2822

theorem near_monthName? (h : monthName? cs = some m) : Near m := by
  unfold monthName? at h
  split at h
  · simp only [Option.bind_eq_bind, Option.bind_eq_some_iff] at h
    obtain ⟨month, -, date, -, year, -, h⟩ := h
    exact near_moment? h (by simp)
  · simp at h

theorem read?_ms {item : Item} (hp : p.ms < 1000) (h : item.read? p cs = some (q, rest)) :
    q.ms < 1000 := by
  by_cases hitem : item = .fraction
  · subst hitem
    simp only [Item.read?, Option.map_eq_some_iff, Prod.mk.injEq] at h
    obtain ⟨_, hread, rfl, -⟩ := h
    exact fraction?_lt hread
  · rwa [ms_read? hitem h]

theorem patternParts?_ms : ∀ {items : List Item} {p : Parts} {cs : List Char},
    p.ms < 1000 → patternParts? items p cs = some q → q.ms < 1000
  | [], p, cs, hp, h => by
    unfold patternParts? at h
    split_ifs at h
    rwa [← Option.some.inj h]
  | item :: items, p, cs, hp, h => by
    rw [patternParts?_cons] at h
    obtain ⟨⟨r, rest⟩, hread, h⟩ := Option.bind_eq_some_iff.mp h
    exact patternParts?_ms (read?_ms hp hread) h

theorem near_patternMoment? {items : List Item} (h : patternMoment? items cs = some m) :
    Near m := by
  obtain ⟨p, hp, h⟩ := Option.bind_eq_some_iff.mp h
  exact near_moment? h (patternParts?_ms (by simp) hp)

/-! ## Readings -/

/-- The milliseconds that a text says, of an instant or of a local time. -/
def time : Reading → Int
  | .instant t => t
  | .localTime l => l

/-- A form whose times are near. -/
def NearForm (form : Form) : Prop :=
  ∀ cs r, form cs = some r → r.time.natAbs ≤ 8400000000000000

theorem nearForm_instant {read : List Char → Option Moment}
    (h : ∀ {cs m}, read cs = some m → Near m) : NearForm (instantForm read) := by
  intro cs r hread
  obtain ⟨m, hm, rfl⟩ := Option.map_eq_some_iff.mp hread
  exact h hm

theorem nearForm_local {read : List Char → Option Moment}
    (h : ∀ {cs m}, read cs = some m → Near m) : NearForm (localForm read) := by
  intro cs r hread
  obtain ⟨m, hm, rfl⟩ := Option.map_eq_some_iff.mp hread
  exact h hm

theorem nearForm_of_mem {form : Form} (h : form ∈ forms) : NearForm form := by
  simp only [forms, List.mem_append, List.mem_cons, List.not_mem_nil, or_false,
    List.mem_map] at h
  rcases h with (((rfl | rfl | rfl) | ⟨items, -, rfl⟩) | ⟨items, -, rfl⟩) | rfl | rfl | rfl
  · exact nearForm_instant Rfc3339.near_instant?
  · exact nearForm_instant Rfc2822.near_instant?
  · exact nearForm_local near_monthName?
  · exact nearForm_instant near_patternMoment?
  · exact nearForm_local near_patternMoment?
  · exact nearForm_instant near_patternMoment?
  · exact nearForm_local near_patternMoment?
  · exact nearForm_local near_patternMoment?

/-- Every text that is read says a time well inside the range of time values. -/
theorem natAbs_time_of_ofText? {r : Reading} (h : ofText? cs = some r) :
    r.time.natAbs ≤ 8400000000000000 := by
  obtain ⟨form, hform, hread⟩ := List.exists_of_findSome?_eq_some h
  exact nearForm_of_mem hform cs r hread

end Reading

namespace TimeValue

/-- Zones with another offset have another instant for one local time. -/
theorem clip_toUTC_fixed_ne {l t : Int} {o o' : FixedOffset} (ho : o.seconds ≠ o'.seconds)
    (h : clip ((Zone.fixed o).toUTC (ofInt l)) = .finite t) :
    clip ((Zone.fixed o').toUTC (ofInt l)) ≠ .finite t := by
  intro h'
  by_cases hfin : (ofInt l).isFinite = true
  · rw [clip_toUTC_fixed_of_finite hfin] at h h'
    split_ifs at h h'
    have ht := Int.cast_inj.mp (Number.finite.inj h)
    have ht' := Int.cast_inj.mp (Number.finite.inj h')
    omega
  · have hnan : (Zone.fixed o).toUTC (ofInt l) = .nan := by simp [Zone.toUTC, Zone.resolve, hfin]
    rw [hnan] at h
    exact Number.noConfusion h

end TimeValue

/-! ## Texts in all zones -/

namespace Date

open TimeValue

variable {text : String} {zone : Zone}

/-- One of three statements holds, and the other two do not. -/
def OneOf (P Q R : Prop) : Prop := (P ∧ ¬ Q ∧ ¬ R) ∨ (¬ P ∧ Q ∧ ¬ R) ∨ (¬ P ∧ ¬ Q ∧ R)

/-- The text gives this result in every zone whose offsets stay under a day. -/
def GivesInAll (text : String) (result : Zone → Option Number) : Prop :=
  ∀ zone : Zone, Zone.UnderADay zone.offset → (parse zone text).value = result zone

/-- An hour ahead of UTC. -/
def oneAhead : FixedOffset := ⟨3600, by decide⟩

theorem value_instant_near {t : Int} (ht : t.natAbs ≤ 8400000000000000) (zone : Zone) :
    ((Reading.instant t).timeValue zone).value = .finite t := ofInt_eq (by omega)

theorem clip_toUTC_near (hzone : Zone.UnderADay zone.offset) {l : Int}
    (hl : l.natAbs ≤ 8400000000000000) :
    clip (zone.toUTC (.ofInt l)) = .finite (Zone.taken zone.offset l) := by
  have hutc := Zone.toUTC_holds hzone (holds_ofInt (n := l) (by omega)) (by omega)
  have hbound := Zone.natAbs_taken hzone l
  exact clip_holds hutc (by omega)

theorem value_localTime_near (hzone : Zone.UnderADay zone.offset) {l : Int}
    (hl : l.natAbs ≤ 8400000000000000) : ∃ t : Int, t.natAbs ≤ 8640000000000000
      ∧ clip (zone.toUTC (.ofInt l)) = .finite t := by
  have hbound := Zone.natAbs_taken hzone l
  exact ⟨_, by omega, clip_toUTC_near hzone hl⟩

/-- What a text gives is a whole number in range, also where it is not held to the range. -/
theorem finite_of_parse (hzone : Zone.UnderADay zone.offset) {v : Number}
    (hv : (parse zone text).value = some v) :
    ∃ t : Int, t.natAbs ≤ 8640000000000000 ∧ v = .finite t := by
  rw [value_parse_trim] at hv
  obtain ⟨r, hread, rfl⟩ := Option.map_eq_some_iff.mp hv
  have hnear := Reading.natAbs_time_of_ofText? hread
  cases r with
  | instant t => exact ⟨t, hnear.trans (by omega), value_instant_near hnear zone⟩
  | localTime l => exact value_localTime_near hzone hnear

/-- What a text gives in all zones, it gives at UTC too. -/
theorem GivesInAll.at_utc {result result' : Zone → Option Number} (h : GivesInAll text result)
    (h' : GivesInAll text result') : result Zone.utc = result' Zone.utc :=
  (h _ (Zone.underADay_fixed _)).symm.trans (h' _ (Zone.underADay_fixed _))

/-- A local time is no instant that all zones share. -/
theorem GivesInAll.not_same {l : Int}
    (h : GivesInAll text fun zone => some (clip (zone.toUTC (.ofInt l)))) (u : Number) :
    ¬ GivesInAll text fun _ => some u := by
  intro h'
  have hsame (o : FixedOffset) : clip ((Zone.fixed o).toUTC (.ofInt l)) = u :=
    Option.some.inj ((h _ (Zone.underADay_fixed o)).symm.trans (h' _ (Zone.underADay_fixed o)))
  obtain ⟨t, -, rfl⟩ :=
    finite_of_parse (Zone.underADay_fixed _) (h' _ (Zone.underADay_fixed oneAhead))
  have hseconds : (⟨0, by decide⟩ : FixedOffset).seconds ≠ oneAhead.seconds := by decide
  exact clip_toUTC_fixed_ne hseconds (hsame _) (hsame _)

/-- In all zones a text is no date, or one instant, or the instant of one local time, and what it
gives is a time value that a date has as its own. -/
theorem parse_in_any_zone (text : String) :
    OneOf (GivesInAll text fun _ => none) (∃ u, GivesInAll text fun _ => some u)
      (∃ l : Int, GivesInAll text fun zone => some (clip (zone.toUTC (.ofInt l))))
    ∧ ∀ zone : Zone, Zone.UnderADay zone.offset → ∀ v, (parse zone text).value = some v →
      (∃ t : Int, t.natAbs ≤ 8640000000000000 ∧ v = .finite t)
        ∧ (ofTime zone v).isValid = true ∧ (ofTime zone v).timeValue = v := by
  constructor
  · rcases hread : Reading.ofText? (trim text.toList) with _ | r
    · have hnone : GivesInAll text fun _ => none := fun zone _ => by
        rw [value_parse_trim, hread, Option.map_none]
      refine Or.inl ⟨hnone, ?_, ?_⟩
      · rintro ⟨u, hu⟩
        exact absurd (hnone.at_utc hu) (by simp)
      · rintro ⟨l, hl⟩
        exact absurd (hnone.at_utc hl) (by simp)
    · have hsome : GivesInAll text fun zone => some (r.timeValue zone).value := fun zone _ => by
        rw [value_parse_trim, hread, Option.map_some]
      have hnot : ¬ GivesInAll text fun _ => none := by
        intro hnone
        exact absurd (hnone.at_utc hsome) (by simp)
      cases r with
      | instant t => exact Or.inr (Or.inl ⟨hnot, ⟨_, hsome⟩, fun ⟨l, hl⟩ => hl.not_same _ hsome⟩)
      | localTime l =>
        have hlocal : GivesInAll text fun zone => some (clip (zone.toUTC (.ofInt l))) := hsome
        exact Or.inr (Or.inr ⟨hnot, fun ⟨u, hu⟩ => hlocal.not_same u hu, _, hlocal⟩)
  · intro zone hzone v hv
    obtain ⟨t, ht, rfl⟩ := finite_of_parse hzone hv
    have hown : (ofTime zone (.finite t)).timeValue = .finite t := clip_holds (holds_finite t) ht
    exact ⟨⟨t, ht, rfl⟩, by simp [isValid, hown, isNaN], hown⟩

/-- A leap second, read an hour ahead of UTC. -/
theorem parse_in_any_zone_leap_second : Zone.UnderADay (Zone.fixed oneAhead).offset
    ∧ (parse (.fixed oneAhead) "12/31/1990 23:59:60").value = some (.finite 662684400000)
    ∧ (ofTime (.fixed oneAhead) (.finite 662684400000)).timeValue = .finite 662684400000
    ∧ ∃ l : Int, GivesInAll "12/31/1990 23:59:60" fun zone =>
      some (clip (zone.toUTC (.ofInt l))) := by
  have hzone := Zone.underADay_fixed oneAhead
  have hahead : (parse (.fixed oneAhead) "12/31/1990 23:59:60").value
      = some (.finite 662684400000) := by decide +kernel
  have hutc : (parse Zone.utc "12/31/1990 23:59:60").value = some (.finite 662688000000) := by
    decide +kernel
  obtain ⟨hone, hown⟩ := parse_in_any_zone "12/31/1990 23:59:60"
  refine ⟨hzone, hahead, (hown _ hzone _ hahead).2.2, ?_⟩
  rcases hone with ⟨hnone, -⟩ | ⟨-, ⟨u, hu⟩, -⟩ | ⟨-, -, hlocal⟩
  · simp [hnone _ hzone] at hahead
  · have hsame := (hutc.symm.trans (hu _ (Zone.underADay_fixed _))).trans
      ((hu _ hzone).symm.trans hahead)
    exact absurd hsame (by simp)
  · exact hlocal

end Date

end ScriptDate
