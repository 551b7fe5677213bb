import ScriptDate.Proofs.FieldMoves
import ScriptDate.Proofs.LocalText
import ScriptDate.Proofs.WithoutTime

/-!
# Dates by their local fields

Away from the ends of the range, each fixed zone has one date for a civil time (`Date.atCivil`).
Components give it, the getters and the texts of the local fields show the civil time and nothing
else of the date, and a setter goes from one civil time to the next alike in every fixed zone
(`Date.set_atCivil`). So the offset cancels.
-/

namespace ScriptDate

open Calendar Number TimeValue

/-! ## Civil times -/

namespace Calendar.CivilTime

variable {f : CivilTime}

/-- The fields of one time, far enough inside the range to be local anywhere. -/
structure Central (f : CivilTime) : Prop where
  proper : f.Proper
  weekDay : (f.time / msPerDay + 4) % 7 = f.weekDay
  inRange : f.time.natAbs ≤ 8 * 10 ^ 15

instance (f : CivilTime) : Decidable f.Central :=
  decidable_of_iff (f.Proper ∧ (f.time / msPerDay + 4) % 7 = f.weekDay
      ∧ f.time.natAbs ≤ 8 * 10 ^ 15)
    ⟨fun ⟨hp, hw, hr⟩ => ⟨hp, hw, hr⟩, fun ⟨hp, hw, hr⟩ => ⟨hp, hw, hr⟩⟩

theorem Central.ofTime_time (hf : f.Central) : ofTime f.time = f :=
  Gregorian.ofTime_of_proper hf.proper rfl hf.weekDay

theorem Central.instant_inRange (hf : f.Central) (o : FixedOffset) :
    (f.time - o.seconds * 1000).natAbs ≤ 8640000000000000 := by
  have hrange := hf.inRange
  have hoffset := o.under_a_day
  omega

end Calendar.CivilTime

/-! ## What is asked for -/

/-- Components of a civil time. -/
def TimeValue.StandFor (cs : List Number) (f : CivilTime) : Prop :=
  acceptable cs = true ∧ Moderate cs ∧ (monthYear cs).natAbs ≤ 400000 ∧ exactTime cs = f.time

instance (cs : List Number) (f : CivilTime) : Decidable (StandFor cs f) :=
  inferInstanceAs (Decidable (_ ∧ _ ∧ _ ∧ _))

theorem TimeValue.ofComponents_of_standFor {cs : List Number} {f : CivilTime}
    (h : StandFor cs f) : TimeValue.ofComponents cs = .ofInt f.time := by
  obtain ⟨haccept, hmoderate, hyear, htime⟩ := h
  have hne : cs ≠ [] := by
    rintro rfl
    simp [acceptable] at haccept
  rw [TimeValue.ofComponents_eq hne hmoderate, if_neg (by omega), htime]

/-- A setter that asks for the second of two civil times where it finds the first. -/
def Setter.LeadsTo (s : Setter) (f g : CivilTime) : Prop :=
  s.isLocal = true ∧ Moderate s.arguments ∧ (s.askedYear f.field).natAbs ≤ 400000
    ∧ s.askedTime f.field = g.time

instance (s : Setter) (f g : CivilTime) : Decidable (s.LeadsTo f g) :=
  inferInstanceAs (Decidable (_ ∧ _ ∧ _ ∧ _))

/-! ## Dates -/

namespace Date

variable {o : FixedOffset} {f g : CivilTime} {cs : List Number} {s : Setter}

/-- The date of a fixed zone whose local fields are those of `f`. -/
def atCivil (o : FixedOffset) (f : CivilTime) : Date :=
  ⟨.finite (f.time - o.seconds * 1000 : Int), .fixed o⟩

theorem ofTime_atCivil (hf : f.Central) (o : FixedOffset) :
    ofTime (.fixed o) (.ofInt (f.time - o.seconds * 1000)) = atCivil o f :=
  congrArg (Date.mk · (.fixed o)) (timeValue_ofTime (hf.instant_inRange o) (.fixed o))

theorem reached_atCivil (hf : f.Central) (o : FixedOffset) : Reached (.fixed o) (atCivil o f) :=
  ofTime_atCivil hf o ▸ .time _

theorem localTime?_atCivil (hf : f.Central) (o : FixedOffset) :
    (atCivil o f).localTime? = some f.time := by
  have hlocal := ((reached_atCivil hf o).atTime_fixed rfl).1.localTime
  rwa [sub_add_cancel] at hlocal

/-! ## Reading -/

theorem getLocal_atCivil (hf : f.Central) (o : FixedOffset) (field : Field) :
    ((atCivil o f).getLocal field).Holds (f.field field) := by
  refine (reached_atCivil hf o).getLocal_holds rfl ?_ field
  rw [sub_add_cancel, hf.ofTime_time]

theorem localText_atCivil (hf : f.Central) (o : FixedOffset) (layout : CivilTime → List Char) :
    (atCivil o f).localText layout = String.ofList (layout f) := by
  rw [localText_of_localTime? (localTime?_atCivil hf o), hf.ofTime_time]

/-! ## Building and setting -/

theorem ofComponents_atCivil (hf : f.Central) (h : StandFor cs f) (o : FixedOffset) :
    (ofComponents (.fixed o) cs).value = atCivil o f := by
  have hrange := hf.inRange
  rw [value_ofComponents h.1, ofComponents_of_standFor h, ofTime, clip_toUTC_fixed (by omega),
    if_pos (hf.instant_inRange o)]
  rfl

/-- Read as UTC the components are the civil time itself, in whatever zone the date is. -/
theorem timeValue_utc (hf : f.Central) (h : StandFor cs f) (zone : Zone) :
    (ofTime zone (TimeValue.utc cs)).timeValue = .finite (f.time : Int) := by
  have hrange : f.time.natAbs ≤ 8640000000000000 := hf.inRange.trans (by decide)
  rw [TimeValue.utc, if_pos h.1, ofComponents_of_standFor h, clip_ofInt, if_pos hrange]
  exact clip_holds (holds_finite _) hrange

/-- A setter that leads from one civil time to another does so in any fixed zone. -/
theorem set_atCivil (hf : f.Central) (hg : g.Central) (h : s.LeadsTo f g) (o : FixedOffset) :
    ((atCivil o f).set s).value = (atCivil o f).changed (atCivil o g).timeValue := by
  obtain ⟨hlocal, hmoderate, hyear, htime⟩ := h
  rw [(reached_atCivil hf o).value_set rfl (getLocal_atCivil hf o) hlocal hmoderate, htime,
    if_pos ⟨hyear, hg.instant_inRange o⟩]
  rfl

/-- The civil time that a year is set in on a date without a time. -/
def epochStart : CivilTime := ⟨1970, 0, 1, 4, 0, 0, 0, 0⟩

theorem set_fullYear_invalid {y : Number} {m date : Option Number} (hg : g.Central)
    (h : (Setter.fullYear y m date).LeadsTo epochStart g) (o : FixedOffset) :
    ((invalid (.fixed o)).set (.fullYear y m date)).value.date = atCivil o g := by
  have hstart : epochStart.Central := by decide
  have hzero := localTime?_atCivil hstart o
  have hset := set_fullYear_of_localTime? rfl (Or.inr hzero) y m date
  rw [set_atCivil hstart hg h] at hset
  rw [set_fullYear_of_localTime? rfl (Or.inl rfl)]
  exact congrArg (fun c => c.date) hset.symm

end Date

end ScriptDate
