import ScriptDate.Proofs.CaseRuns
import ScriptDate.Proofs.FixedZones

/-!
# The cases in fixed zones

In a fixed zone every check of the registered cases passes, and what a case prints does not depend
on the offset. So runs of registered cases in two such zones, from whatever sessions, have the same
report and write the same text (`Session.run_in_fixed_zones`).
-/

namespace ScriptDate.Suite

open Calendar Date Number TimeValue

/-! ## Scripts that pass -/

/-- What `n` checks that pass write. -/
def passMarkers (n : Nat) : List Char := (List.replicate n passMarker).flatten

/-- A script that gives `a`, writes `text`, and passes `n` checks without failing one. -/
structure Passes {α : Type} (x : Script α) (a : α) (text : List Char) (n : Nat) : Prop where
  outcome : x.outcome = .ok a
  text : x.actions.flatMap Action.text = text
  tally : (x.actions.map Action.tally).sum = ⟨n, 0⟩

namespace Passes

variable {α β : Type} {x : Script α} {f : α → Script β} {a : α} {b : β} {text text' : List Char}
  {n m : Nat}

theorem congr (h : Passes x a text n) (htext : text = text') (hn : n = m) : Passes x a text' m :=
  htext ▸ hn ▸ h

/-- A script goes on from the value of its first part. -/
theorem bind (hx : Passes x a text n) (hf : Passes (f a) b text' m) :
    Passes (x >>= f) b (text ++ text') (n + m) := by
  obtain ⟨houtcome, hactions⟩ := Script.bind_of_ok hx.outcome f
  refine ⟨houtcome.trans hf.outcome, ?_, ?_⟩
  · rw [hactions, List.flatMap_append, hx.text, hf.text]
  · rw [hactions, List.map_append, List.sum_append, hx.tally, hf.tally]
    rfl

theorem pure (a : α) : Passes (Pure.pure a : Script α) a [] 0 := ⟨rfl, rfl, rfl⟩

/-- The log is no part of what a script writes. -/
theorem logged (x : Logged α) : Passes (Script.logged x) x.value [] 0 where
  outcome := rfl
  text := by simp [List.flatMap_map, Action.text]
  tally := by
    have hzero (records : List LogRecord) :
        ((records.map .log).map Action.tally).sum = 0 := by
      induction records with
      | nil => rfl
      | cons r rest ih => exact congrArg (0 + ·) ih
    rw [Script.actions_logged]
    exact hzero x.notes

theorem attempt {x : Except Failure α} (h : x = .ok a) : Passes (Script.attempt x) a [] 0 :=
  ⟨h, rfl, rfl⟩

theorem print (text : String) :
    Passes (Script.print text) () (Output.line text.toList) 0 := ⟨rfl, List.append_nil _, rfl⟩

theorem check {ok : Bool} (h : ok = true) : Passes (Script.check ok) () passMarker 1 :=
  ⟨rfl, by rw [h]; exact List.append_nil _, by rw [h]; rfl⟩

theorem same {text expected : String} (h : text = expected) :
    Passes (Script.same text expected) () passMarker 1 :=
  check (decide_eq_true h)

/-! ## Scripts over dates of fixed zones -/

variable {o : FixedOffset} {g g' : CivilTime} {cs : List Number} {s : Setter}

theorem build (hg : g.Central) (h : StandFor cs g) :
    Passes (Script.build (.fixed o) cs) (atCivil o g) [] 0 :=
  ofComponents_atCivil hg h o ▸ logged _

theorem set (d : Date) (s : Setter) : Passes (Script.set d s) (d.set s).value.date [] 0 :=
  (logged (d.set s)).bind (f := fun c : Change => Pure.pure c.date) (pure _)

theorem setCivil (hg : g.Central) (hg' : g'.Central) (h : s.LeadsTo g g') :
    Passes (Script.set (atCivil o g) s) (atCivil o g') [] 0 := by
  have hset := set (atCivil o g) s
  rw [set_atCivil hg hg' h] at hset
  exact hset

theorem setInvalid {y : Number} {m date : Option Number} (hg : g.Central)
    (h : (Setter.fullYear y m date).LeadsTo epochStart g) :
    Passes (Script.set (invalid (.fixed o)) (.fullYear y m date)) (atCivil o g) [] 0 :=
  set_fullYear_invalid hg h o ▸ set _ _

/-- A text of the local fields is one of the civil time. -/
theorem printText (hg : g.Central) (o : FixedOffset) (layout : CivilTime → List Char) :
    Passes (Script.print ((atCivil o g).localText layout)) () (Output.line (layout g)) 0 := by
  have hprint := print ((atCivil o g).localText layout)
  rwa [localText_atCivil hg, String.toList_ofList, ← localText_atCivil hg o] at hprint

theorem sameText (hg : g.Central) {layout : CivilTime → List Char} {text : String}
    (h : String.ofList (layout g) = text) :
    Passes (Script.same ((atCivil o g).localText layout) text) () passMarker 1 :=
  same ((localText_atCivil hg o layout).trans h)

theorem fields (hg : g.Central) {expected : List (Field × Int)}
    (h : ∀ p ∈ expected, g.field p.1 = p.2 ∧ p.2.natAbs < 2 ^ 53) :
    Passes (Script.fields (atCivil o g) expected) () passMarker 1 := by
  refine check (List.all_eq_true.mpr fun ⟨field, n⟩ hmem => ?_)
  obtain ⟨hfield, hsmall⟩ := h _ hmem
  show ((atCivil o g).getLocal field).equals (.ofInt n) = true
  rw [(getLocal_atCivil hg o field).equals (holds_ofInt hsmall)]
  exact decide_eq_true hfield

end Passes

/-! ## The cases -/

namespace Case

/-- The local fields of the components that the getters and the setters start from. -/
def christmasMorning : CivilTime := ⟨2023, 11, 25, 1, 10, 30, 45, 123⟩

theorem passes_seconds (o : FixedOffset) :
    Passes (seconds (.fixed o)) () "Mon Apr  2 08:10:30 1900\nOK\nOK\nOK\n".toList 3 := by
  have hstart : CivilTime.Central ⟨1900, 3, 2, 1, 8, 10, 30, 0⟩ := by decide
  have hsecond : CivilTime.Central ⟨1900, 3, 2, 1, 8, 10, 20, 0⟩ := by decide
  have hms : CivilTime.Central ⟨1900, 3, 2, 1, 8, 10, 20, 123⟩ := by decide
  -- Here and in the other cases, one rule for each command of the script.
  exact .congr
    (.bind (.build hstart (by decide +kernel)) <|
      .bind (.printText hstart o _) <|
      .bind (.setCivil hstart hsecond (by decide +kernel)) <|
      .bind (.sameText hsecond (by decide +kernel)) <|
      .bind (.setCivil hsecond hms (by decide +kernel)) <|
      .bind (.sameText hms (by decide +kernel)) <|
      .fields hms (by decide))
    (by decide +kernel) rfl

theorem passes_getters (o : FixedOffset) :
    Passes (getters (.fixed o)) () ("Mon Dec 25 10:30:45 2023\n".toList ++ passMarkers 10) 10 := by
  have hstart : christmasMorning.Central := by decide
  have hshort : CivilTime.Central ⟨1999, 0, 1, 5, 0, 0, 0, 0⟩ := by decide
  have hinvalid : (ofComponents (.fixed o) [.nan, 0]).value.isValid = false := by
    rw [isValid, (Date.ofComponents_of_not_finite List.mem_cons_self rfl (.fixed o)).2]
    rfl
  have hmonth := (showsNoTime hinvalid).getLocal .month
  exact .congr
    (.bind (.build hstart (by decide +kernel)) <|
      .bind (.printText hstart o _) <|
      .bind (.fields hstart (by decide)) <|
      .bind (.fields hstart (by decide)) <|
      .bind (.fields hstart (by decide)) <|
      .bind (.fields hstart (by decide)) <|
      .bind (.fields hstart (by decide)) <|
      .bind (.fields hstart (by decide)) <|
      .bind (.fields hstart (by decide)) <|
      .bind (.fields hstart (by decide)) <|
      .bind (.build hshort (by decide +kernel)) <|
      .bind (.fields hshort (by decide)) <|
      .bind (.logged _) <|
      .check (by rw [hinvalid, hmonth]; rfl))
    (by decide +kernel) rfl

theorem passes_setters (o : FixedOffset) :
    Passes (setters (.fixed o)) () (passMarkers 10) 10 := by
  have hbase : christmasMorning.Central := by decide
  have hms : CivilTime.Central { christmasMorning with ms := 7 } := by decide
  have hsecond : CivilTime.Central { christmasMorning with minute := 31, second := 15 } := by decide
  have hminute : CivilTime.Central { christmasMorning with hour := 11, minute := 15 } := by decide
  have hlast : CivilTime.Central ⟨2023, 11, 25, 1, 23, 59, 59, 999⟩ := by decide
  have hnext : CivilTime.Central ⟨2023, 11, 26, 2, 0, 0, 0, 0⟩ := by decide
  have hdate : CivilTime.Central ⟨2024, 0, 1, 1, 10, 30, 45, 123⟩ := by decide
  have hleap : CivilTime.Central ⟨2024, 1, 29, 4, 10, 30, 45, 123⟩ := by decide
  have hyear : CivilTime.Central ⟨2025, 2, 1, 6, 10, 30, 45, 123⟩ := by decide
  have hmonth : CivilTime.Central ⟨2023, 2, 3, 5, 10, 30, 45, 123⟩ := by decide
  have hfirst : CivilTime.Central ⟨2000, 0, 1, 6, 0, 0, 0, 0⟩ := by decide
  exact .congr
    (.bind (.build hbase (by decide +kernel)) <|
      .bind (.setCivil hbase hms (by decide +kernel)) <|
      .bind (.fields hms (by decide)) <|
      .bind (.setCivil hbase hsecond (by decide +kernel)) <|
      .bind (.fields hsecond (by decide)) <|
      .bind (.setCivil hbase hminute (by decide +kernel)) <|
      .bind (.fields hminute (by decide)) <|
      .bind (.setCivil hbase hlast (by decide +kernel)) <|
      .bind (.setCivil hlast hnext (by decide +kernel)) <|
      .bind (.sameText hnext (by decide +kernel)) <|
      .bind (.setCivil hbase hdate (by decide +kernel)) <|
      .bind (.fields hdate (by decide)) <|
      .bind (.setCivil hbase hleap (by decide +kernel)) <|
      .bind (.sameText hleap (by decide +kernel)) <|
      .bind (.setCivil hleap hyear (by decide +kernel)) <|
      .bind (.sameText hyear (by decide +kernel)) <|
      .bind (.setCivil hbase hmonth (by decide +kernel)) <|
      .bind (.fields hmonth (by decide)) <|
      .bind (.logged _) <|
      .bind (.check (by rfl)) <|
      .bind (.setInvalid hfirst (by decide +kernel)) <|
      .fields hfirst (by decide))
    (by decide +kernel) rfl

theorem passes_formats (o : FixedOffset) :
    Passes (formats (.fixed o)) () ("Fri Feb 13 23:31:30 2009\n".toList ++ passMarkers 9) 9 := by
  have hday : CivilTime.Central ⟨2009, 1, 13, 5, 23, 31, 30, 0⟩ := by decide
  have hstands : StandFor [2009, 1, 13, 23, 31, 30] ⟨2009, 1, 13, 5, 23, 31, 30, 0⟩ := by
    decide +kernel
  have hutc := timeValue_utc hday hstands (.fixed o)
  have htext := toUTCString_finite hutc
  have hiso := toISOString_finite hutc
  rw [hday.ofTime_time] at htext hiso
  have hnone := showsNoTime (d := invalid (.fixed o)) rfl
  exact .congr
    (.bind (.build hday hstands) <|
      .bind (.printText hday o _) <|
      .bind (.sameText hday (by decide +kernel)) <|
      .bind (.sameText hday (by decide +kernel)) <|
      .bind (.sameText hday (by decide +kernel)) <|
      .bind (.sameText hday (by decide +kernel)) <|
      .bind (.check (by rw [hutc]; decide +kernel)) <|
      .bind (.same (htext.trans (by decide +kernel))) <|
      .bind (.attempt hiso) <|
      .bind (.same (by decide +kernel)) <|
      .bind (.same (hnone.texts _ (by simp))) <|
      .check (by rw [hnone.isoText, hnone.json]; rfl))
    (by decide +kernel) rfl

/-- The lines that a case prints in a fixed zone, and how many checks it then makes. -/
def expected : String → List String × Nat
  | "1030" => (["Mon Apr  2 08:10:30 1900"], 3)
  | "date-getters" => (["Mon Dec 25 10:30:45 2023"], 10)
  | "date-setters" => ([], 10)
  | "date-format" => (["Fri Feb 13 23:31:30 2009"], 9)
  | _ => ([], 0)

/-- What a case writes in a fixed zone. -/
def expectedText (id : String) : List Char :=
  (expected id).1.flatMap (fun line => Output.line line.toList) ++ passMarkers (expected id).2

def expectedResult (id : String) : CaseResult := ⟨id, (expected id).2, 0⟩

theorem passes_script {case : Case} (h : case ∈ registry) (o : FixedOffset) :
    Passes (case.script (.fixed o)) () (expectedText case.id) (expected case.id).2 := by
  simp only [registry, List.mem_cons, List.not_mem_nil, or_false] at h
  rcases h with rfl | rfl | rfl | rfl
  · exact (passes_seconds o).congr (by decide +kernel) rfl
  · exact (passes_getters o).congr (by decide +kernel) rfl
  · exact (passes_setters o).congr (by decide +kernel) rfl
  · exact (passes_formats o).congr (by decide +kernel) rfl

theorem text_fixed {case : Case} (h : case ∈ registry) (o : FixedOffset) :
    case.text (.fixed o) = expectedText case.id := (passes_script h o).text

theorem tally_fixed {case : Case} (h : case ∈ registry) (o : FixedOffset) :
    case.tally (.fixed o) = ⟨(expected case.id).2, 0⟩ := (passes_script h o).tally

theorem result_fixed {case : Case} (h : case ∈ registry) (o : FixedOffset) :
    case.result (.fixed o) = expectedResult case.id := by
  rw [result, tally_fixed h]
  rfl

end Case

/-! ## Runs -/

namespace Session

open Case

/-- A session on a buffer in a fixed zone, with what it wrote and counted before. -/
def buffered (o : FixedOffset) (written : List Char) (t : Tally) : Session :=
  ⟨⟨true, written⟩, .fixed o, t⟩

/-- The checks of cases one after another. -/
def expectedCount (ids : List String) : Nat := (ids.map fun id => (expected id).2).sum

theorem sum_tally_fixed {cases : List Case} (h : ∀ case ∈ cases, case ∈ registry)
    (o : FixedOffset) :
    (cases.map (Case.tally · (.fixed o))).sum = ⟨expectedCount (cases.map Case.id), 0⟩ := by
  induction cases with
  | nil => rfl
  | cons case rest ih =>
    rw [List.map_cons, List.sum_cons, tally_fixed (h case List.mem_cons_self),
      ih fun c hc => h c (List.mem_cons_of_mem _ hc)]
    exact Tally.ext_counts List.sum_cons.symm rfl

theorem run_fixed (o : FixedOffset) (written : List Char) (t : Tally) {ids : List String}
    (h : ∀ id ∈ ids, Registered id) :
    ((buffered o written t).run ids).value = (.ok ⟨(requested ids).map expectedResult⟩,
      buffered o (written ++ (requested ids).flatMap expectedText)
        ⟨t.passed + expectedCount (requested ids), t.failed⟩) := by
  obtain ⟨cases, hmem, hids, hrun⟩ := (buffered o written t).run_of_registered h
  have hresults : cases.map (Case.result · (.fixed o)) = (requested ids).map expectedResult := by
    rw [← hids, List.map_map]
    exact List.map_congr_left fun case hcase => result_fixed (hmem case hcase) o
  have htexts : cases.flatMap (Case.text · (.fixed o)) = (requested ids).flatMap expectedText := by
    rw [← hids, List.flatMap_map]
    exact List.flatMap_congr fun case hcase => text_fixed (hmem case hcase) o
  have htally := sum_tally_fixed hmem o
  rw [hids] at htally
  refine hrun.trans ?_
  show (Except.ok (⟨cases.map (Case.result · (.fixed o))⟩ : Report),
    (buffered o written t).add (cases.flatMap (Case.text · (.fixed o)))
      (cases.map (Case.tally · (.fixed o))).sum) = _
  rw [hresults, htexts, htally]
  rfl

theorem failed_expectedResult (ids : List String) :
    (Report.mk (ids.map expectedResult)).failed = 0 := by
  simp [Report.failed, expectedResult, List.foldl_map]

/-- Runs of the same registered cases in two fixed zones, from any two sessions on buffers, pass
all checks, give the same report and write the same text. -/
theorem run_in_fixed_zones (o₁ o₂ : FixedOffset) (written₁ written₂ : List Char) (t₁ t₂ : Tally)
    {ids : List String} (h : ∀ id ∈ ids, Registered id) :
    ∃ (report : Report) (text : List Char),
      ((buffered o₁ written₁ t₁).run ids).value = (.ok report, buffered o₁ (written₁ ++ text)
        ⟨t₁.passed + expectedCount (requested ids), t₁.failed⟩)
      ∧ ((buffered o₂ written₂ t₂).run ids).value = (.ok report, buffered o₂ (written₂ ++ text)
        ⟨t₂.passed + expectedCount (requested ids), t₂.failed⟩)
      ∧ report.failed = 0
      ∧ text = (requested ids).flatMap expectedText
      ∧ expectedText "1030" = "Mon Apr  2 08:10:30 1900\nOK\nOK\nOK\n".toList :=
  ⟨_, _, run_fixed o₁ written₁ t₁ h, run_fixed o₂ written₂ t₂ h, failed_expectedResult _, rfl,
    by decide +kernel⟩

/-- The offsets furthest to the east and to the west. -/
def eastmost : FixedOffset := ⟨86399, by decide⟩

def westmost : FixedOffset := ⟨-86399, by decide⟩

/-- A case run twice, in a new session and in one with a failed check before. -/
theorem run_in_fixed_zones_furthest :
    (∀ id ∈ ["1030", "1030"], Registered id)
    ∧ ∃ (report : Report) (after₁ after₂ : Session),
      ((buffered eastmost [] {}).run ["1030", "1030"]).value = (.ok report, after₁)
      ∧ ((buffered westmost failMarker ⟨0, 1⟩).run ["1030", "1030"]).value = (.ok report, after₂)
      ∧ report.failed = 0
      ∧ after₁.out.written
        = ("Mon Apr  2 08:10:30 1900\nOK\nOK\nOK\n"
          ++ "Mon Apr  2 08:10:30 1900\nOK\nOK\nOK\n").toList
      ∧ after₂.out.written = failMarker ++ after₁.out.written
      ∧ after₂.tally = ⟨6, 1⟩ := by
  have hknown : ∀ id ∈ ["1030", "1030"], Registered id := by decide
  obtain ⟨report, text, hrun₁, hrun₂, hfailed, htext, hcase⟩ :=
    run_in_fixed_zones eastmost westmost [] failMarker {} ⟨0, 1⟩ hknown
  have hrequested : text = expectedText "1030" ++ (expectedText "1030" ++ []) := htext
  refine ⟨hknown, report, _, _, hrun₁, hrun₂, hfailed, ?_, rfl, rfl⟩
  rw [hrequested, hcase, String.toList_append, List.append_nil]
  rfl

end Session

end ScriptDate.Suite
