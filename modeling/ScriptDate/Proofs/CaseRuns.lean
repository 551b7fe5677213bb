import ScriptDate.Suite.Run

/-!
# Runs of cases

The actions of a script add a text to what a session wrote and counts to its tally, whatever was
there before (`Session.play_eq_add`), and a script sees the zone alone. No registered script stops
at an error, in any zone (`Case.ends_script`). So a case has the result and the text in any session
that it has by itself, and a run of several is refused for its first unknown id, with the session
as it was, or is the run of each, one after another (`Session.run_each_alone`).
-/

namespace ScriptDate.Suite

/-! ## What is added to a session -/

instance : Zero Tally := ⟨{}⟩

instance : Add Tally := ⟨fun t u => ⟨t.passed + u.passed, t.failed + u.failed⟩⟩

namespace Tally

@[simp] theorem passed_zero : (0 : Tally).passed = 0 := rfl

@[simp] theorem failed_zero : (0 : Tally).failed = 0 := rfl

@[simp] theorem passed_add (t u : Tally) : (t + u).passed = t.passed + u.passed := rfl

@[simp] theorem failed_add (t u : Tally) : (t + u).failed = t.failed + u.failed := rfl

theorem ext_counts {t u : Tally} (hp : t.passed = u.passed) (hf : t.failed = u.failed) : t = u := by
  cases t
  cases u
  subst hp hf
  rfl

theorem add_zero (t : Tally) : t + 0 = t := rfl

theorem add_assoc (t u v : Tally) : t + u + v = t + (u + v) :=
  ext_counts (Nat.add_assoc ..) (Nat.add_assoc ..)

instance : Std.Associative (α := Tally) (· + ·) := ⟨add_assoc⟩

instance : Std.LawfulLeftIdentity (α := Tally) (· + ·) 0 where
  left_id _ := ext_counts (Nat.zero_add _) (Nat.zero_add _)

theorem record_eq_add (t : Tally) (ok : Bool) : t.record ok = t + (0 : Tally).record ok := by
  cases ok <;> rfl

theorem gain_add (id : String) (t u : Tally) : gain id t (t + u) = ⟨id, u.passed, u.failed⟩ := by
  simp [gain]

end Tally

namespace Action

/-- What an action writes. -/
def text : Action → List Char
  | .print text => Output.line text
  | .check ok => marker ok
  | .log _ => []

def tally : Action → Tally
  | .check ok => (0 : Tally).record ok
  | _ => 0

end Action

namespace Session

/-- A session that wrote and counted this much more. -/
def add (s : Session) (text : List Char) (t : Tally) : Session :=
  ⟨{ s.out with written := s.out.written ++ text }, s.zone, s.tally + t⟩

@[simp] theorem zone_add (s : Session) (text : List Char) (t : Tally) :
    (s.add text t).zone = s.zone := rfl

theorem add_nil (s : Session) : s.add [] 0 = s := by
  simp [add, Tally.add_zero]

theorem add_add (s : Session) (text text' : List Char) (t t' : Tally) :
    (s.add text t).add text' t' = s.add (text ++ text') (t + t') := by
  simp [add, Tally.add_assoc]

theorem perform_eq_add (s : Session) : ∀ a : Action, (s.perform a).value = s.add a.text a.tally
  | .print text => rfl
  | .check ok => by
    change (⟨_, s.zone, s.tally.record ok⟩ : Session) = _
    rw [Tally.record_eq_add]
    rfl
  | .log record => (add_nil s).symm

/-- Playing actions adds what each of them adds. -/
theorem play_eq_add : ∀ (s : Session) (actions : List Action),
    (s.play actions).value = s.add (actions.flatMap Action.text) (actions.map Action.tally).sum
  | s, [] => (add_nil s).symm
  | s, a :: rest => by
    have ih := play_eq_add (s.perform a).value rest
    rw [perform_eq_add, add_add] at ih
    simp only [play, Noted.value_bind, perform_eq_add, List.flatMap_cons, List.map_cons,
      List.sum_cons]
    exact ih

end Session

/-! ## Scripts that stop at no error -/

namespace Script

variable {α β : Type} {x : Script α} {f : α → Script β}

/-- A script that comes to its end. -/
def Ends (x : Script α) : Prop := ∃ a, x.outcome = .ok a

theorem Ends.bind (hx : Ends x) (hf : ∀ a, Ends (f a)) : Ends (x >>= f) := by
  obtain ⟨a, ha⟩ := hx
  obtain ⟨b, hb⟩ := hf a
  exact ⟨b, (bind_of_ok ha f).1.trans hb⟩

theorem ends_pure (a : α) : Ends (pure a : Script α) := ⟨a, rfl⟩

theorem ends_perform (a : Action) : Ends (perform a) := ⟨(), rfl⟩

theorem ends_logged (x : Logged α) : Ends (logged x) := ⟨x.value, rfl⟩

theorem ends_set (d : Date) (s : Setter) : Ends (set d s) :=
  (ends_logged _).bind fun _ => ends_pure _

/-- A valid date has an ISO text. -/
theorem ends_toISOString {d : Date} (h : d.isValid = true) : Ends (attempt d.toISOString) := by
  simp [Ends, Date.toISOString, Date.utcTime?, h]

end Script

/-! ## Cases by themselves -/

namespace Case

open Script in
theorem ends_script {case : Case} (h : case ∈ registry) (zone : Zone) :
    Ends (case.script zone) := by
  have hvalid : (Date.ofTime zone (TimeValue.utc [2009, 1, 13, 23, 31, 30])).isValid = true := by
    show (!(TimeValue.clip (TimeValue.utc [2009, 1, 13, 23, 31, 30])).isNaN) = true
    decide +kernel
  simp only [registry, List.mem_cons, List.not_mem_nil, or_false] at h
  rcases h with rfl | rfl | rfl | rfl
  -- Only the ISO text can fail, and the date that is asked for it is the same in every zone.
  all_goals
    dsimp only [seconds, getters, setters, formats, build, same, fields, check, print]
    with_reducible repeat' first
      | apply ends_perform
      | apply ends_logged
      | apply ends_set
      | exact ends_toISOString hvalid
      | refine .bind ?_ fun _ => ?_

/-- What a case does in a zone. -/
def actions (case : Case) (zone : Zone) : List Action := (case.script zone).actions

/-- What a case writes in a zone. -/
def text (case : Case) (zone : Zone) : List Char := (case.actions zone).flatMap Action.text

/-- What a case counts in a zone. -/
def tally (case : Case) (zone : Zone) : Tally := ((case.actions zone).map Action.tally).sum

def result (case : Case) (zone : Zone) : CaseResult :=
  ⟨case.id, (case.tally zone).passed, (case.tally zone).failed⟩

/-- The result of a case, or the error that it stops at. -/
def outcome (case : Case) (zone : Zone) : Except Failure CaseResult :=
  (case.script zone).outcome.map fun _ => case.result zone

theorem outcome_of_mem {case : Case} (h : case ∈ registry) (zone : Zone) :
    case.outcome zone = .ok (case.result zone) := by
  obtain ⟨_, hends⟩ := ends_script h zone
  rw [outcome, hends, Except.map]

/-- The run of a case alone, in a new session on a buffer. -/
def alone (case : Case) (zone : Zone) : Except Failure CaseResult × Session :=
  ((Session.new zone .buffer).runCase case).value

end Case

namespace Session

/-- Whatever a session did before, a case adds its own part to it. -/
theorem runCase_eq_add (s : Session) (case : Case) :
    (s.runCase case).value
      = (case.outcome s.zone, s.add (case.text s.zone) (case.tally s.zone)) := by
  have hplay : (s.play (case.script s.zone).actions).value
      = s.add (case.text s.zone) (case.tally s.zone) := play_eq_add s (case.actions s.zone)
  have hgain := Tally.gain_add case.id s.tally (case.tally s.zone)
  simp only [runCase, Noted.value_bind, hplay, Case.outcome]
  cases (case.script s.zone).outcome with
  | error e => rfl
  | ok _ =>
    rw [Except.map, Case.result, ← hgain]
    dsimp only
    split <;> rfl

theorem runAll_eq_add : ∀ (s : Session) {cases : List Case}, (∀ case ∈ cases, case ∈ registry) →
    (s.runAll cases).value = (.ok (cases.map (Case.result · s.zone)),
      s.add (cases.flatMap (Case.text · s.zone)) (cases.map (Case.tally · s.zone)).sum)
  | s, [], _ => congrArg (Prod.mk _) (add_nil s).symm
  | s, case :: rest, h => by
    have hcase := Case.outcome_of_mem (h case List.mem_cons_self) s.zone
    have ih := runAll_eq_add (s.add (case.text s.zone) (case.tally s.zone))
      fun c hc => h c (List.mem_cons_of_mem case hc)
    rw [add_add] at ih
    simp only [runAll, Noted.value_bind, Noted.value_pure, runCase_eq_add, hcase, ih, zone_add,
      Except.map, List.map_cons, List.flatMap_cons, List.sum_cons]

end Session

namespace Case

theorem alone_eq (case : Case) (zone : Zone) :
    case.alone zone = (case.outcome zone, ⟨⟨true, case.text zone⟩, zone, case.tally zone⟩) := by
  rw [alone, Session.runCase_eq_add]
  refine Prod.ext rfl ?_
  simp only [Session.add, Session.new, Output.buffer, List.nil_append]
  congr 1
  exact Tally.ext_counts (Nat.zero_add _) (Nat.zero_add _)

end Case

namespace Report

/-- The report of cases that each have their own result. -/
def ofCases (cases : List Case) (zone : Zone) : Report := ⟨cases.map (Case.result · zone)⟩

/-- What results count one after another is what the tallies of their cases count together. -/
theorem foldl_results (count : CaseResult → Nat) (counted : Tally → Nat) (zone : Zone)
    (hadd : ∀ t u, counted (t + u) = counted t + counted u)
    (hresult : ∀ case : Case, count (case.result zone) = counted (case.tally zone)) :
    ∀ (t : Tally) (cases : List Case),
      (cases.map (Case.result · zone)).foldl (fun n r => n + count r) (counted t)
        = counted (t + (cases.map (Case.tally · zone)).sum)
  | t, [] => rfl
  | t, case :: cases => by
    simp only [List.map_cons, List.foldl_cons, List.sum_cons]
    rw [hresult, ← hadd, foldl_results count counted zone hadd hresult, Tally.add_assoc]

theorem passed_ofCases (cases : List Case) (zone : Zone) :
    (ofCases cases zone).passed = (cases.map (Case.tally · zone)).sum.passed := by
  have h := foldl_results CaseResult.passed Tally.passed zone Tally.passed_add (fun _ => rfl) 0
    cases
  rwa [Tally.passed_add, Tally.passed_zero, Nat.zero_add] at h

theorem failed_ofCases (cases : List Case) (zone : Zone) :
    (ofCases cases zone).failed = (cases.map (Case.tally · zone)).sum.failed := by
  have h := foldl_results CaseResult.failed Tally.failed zone Tally.failed_add (fun _ => rfl) 0
    cases
  rwa [Tally.failed_add, Tally.failed_zero, Nat.zero_add] at h

end Report

/-! ## Ids -/

def Registered (id : String) : Prop := ∃ case ∈ registry, case.id = id

instance (id : String) : Decidable (Registered id) :=
  inferInstanceAs (Decidable (∃ case ∈ registry, case.id = id))

/-- The ids that a run is asked for, which are all of them for none. -/
def requested (ids : List String) : List String :=
  if ids.isEmpty then registry.map Case.id else ids

/-- The first id of a list that is not registered. -/
def FirstUnknown (ids : List String) (id : String) : Prop :=
  ∃ before after, ids = before ++ id :: after ∧ (∀ i ∈ before, Registered i) ∧ ¬ Registered id

namespace Case

theorem ofId_of_registered {id : String} (h : Registered id) :
    ∃ case ∈ registry, case.id = id ∧ ofId id = .ok case := by
  obtain ⟨case, hmem, hid⟩ := h
  rcases hfind : registry.find? (fun case => case.id = id) with _ | found
  · rw [List.find?_eq_none] at hfind
    exact absurd hid (by simpa using hfind case hmem)
  · have hfound : found.id = id := by simpa using List.find?_some hfind
    exact ⟨found, List.mem_of_find?_eq_some hfind, hfound, by simp only [ofId, hfind]⟩

theorem ofId_of_not_registered {id : String} (h : ¬ Registered id) :
    ofId id = .error (.unknownCase id) := by
  have hfind : registry.find? (fun case => case.id = id) = none := by
    rw [List.find?_eq_none]
    intro case hmem hid
    exact h ⟨case, hmem, by simpa using hid⟩
  simp only [ofId, hfind]

theorem mapM_ofId_of_registered : ∀ {ids : List String}, (∀ id ∈ ids, Registered id) →
    ∃ cases, ids.mapM ofId = .ok cases ∧ (∀ case ∈ cases, case ∈ registry)
      ∧ cases.map Case.id = ids
  | [], _ => ⟨[], rfl, by simp, rfl⟩
  | id :: ids, h => by
    obtain ⟨case, hmem, hid, hfirst⟩ := ofId_of_registered (h id List.mem_cons_self)
    obtain ⟨cases, hrest, hmems, hids⟩ :=
      mapM_ofId_of_registered fun i hi => h i (List.mem_cons_of_mem _ hi)
    refine ⟨case :: cases, ?_, ?_, by rw [List.map_cons, hid, hids]⟩
    · rw [List.mapM_cons, hfirst, hrest]
      rfl
    · intro c hc
      rcases List.mem_cons.mp hc with rfl | hc
      · exact hmem
      · exact hmems c hc

theorem mapM_ofId_of_unknown : ∀ {ids : List String}, (∃ id ∈ ids, ¬ Registered id) →
    ∃ id, FirstUnknown ids id ∧ ids.mapM ofId = .error (.unknownCase id)
  | [], h => by simp at h
  | i :: ids, h => by
    by_cases hi : Registered i
    · have hrest : ∃ id ∈ ids, ¬ Registered id := by
        obtain ⟨id, hmem, hid⟩ := h
        rcases List.mem_cons.mp hmem with rfl | hmem
        · exact absurd hi hid
        · exact ⟨id, hmem, hid⟩
      obtain ⟨id, ⟨before, after, rfl, hbefore, hid⟩, herror⟩ := mapM_ofId_of_unknown hrest
      obtain ⟨case, -, -, hfirst⟩ := ofId_of_registered hi
      refine ⟨id, ⟨i :: before, after, rfl, ?_, hid⟩, ?_⟩
      · intro j hj
        rcases List.mem_cons.mp hj with rfl | hj
        · exact hi
        · exact hbefore j hj
      · rw [List.mapM_cons, hfirst, herror]
        rfl
    · refine ⟨i, ⟨[], ids, rfl, by simp, hi⟩, ?_⟩
      rw [List.mapM_cons, ofId_of_not_registered hi]
      rfl

theorem ofIds_of_registered {ids : List String} (h : ∀ id ∈ ids, Registered id) :
    ∃ cases, ofIds ids = .ok cases ∧ (∀ case ∈ cases, case ∈ registry)
      ∧ cases.map Case.id = requested ids := by
  unfold ofIds requested
  split
  · exact ⟨registry, rfl, fun _ h => h, rfl⟩
  · exact mapM_ofId_of_registered h

theorem ofIds_of_unknown {ids : List String} (h : ∃ id ∈ ids, ¬ Registered id) :
    ∃ id, FirstUnknown ids id ∧ ofIds ids = .error (.unknownCase id) := by
  cases ids with
  | nil => simp at h
  | cons i ids => exact mapM_ofId_of_unknown h

end Case

/-! ## Runs -/

namespace Session

variable {s : Session} {ids : List String}

/-- A run of which an id is unknown does nothing at all. -/
theorem run_of_unknown (s : Session) (h : ∃ id ∈ ids, ¬ Registered id) :
    ∃ id, FirstUnknown ids id ∧ s.run ids = pure (.error (.unknownCase id), s) := by
  obtain ⟨id, hfirst, hids⟩ := Case.ofIds_of_unknown h
  refine ⟨id, hfirst, ?_⟩
  rw [run, hids]

theorem run_of_registered (s : Session) (h : ∀ id ∈ ids, Registered id) :
    ∃ cases : List Case, (∀ case ∈ cases, case ∈ registry) ∧ cases.map Case.id = requested ids
      ∧ (s.run ids).value = (.ok (.ofCases cases s.zone),
          s.add (cases.flatMap (Case.text · s.zone)) (cases.map (Case.tally · s.zone)).sum) := by
  obtain ⟨cases, hcases, hmem, hids⟩ := Case.ofIds_of_registered h
  refine ⟨cases, hmem, hids, ?_⟩
  rw [run, hcases]
  simp only [Noted.value_bind, Noted.value_pure, runAll_eq_add s hmem, Except.map]
  rfl

/-- A run of cases reports, writes and counts what each of them does alone. -/
structure EachAlone (s : Session) (cases : List Case) (report : Report) (s' : Session) :
    Prop where
  results : report.results.map .ok = cases.map fun case => (case.alone s.zone).1
  out : s'.out = { s.out with
    written := s.out.written ++ cases.flatMap fun case => (case.alone s.zone).2.out.written }
  zone : s'.zone = s.zone
  passed : s'.tally.passed = s.tally.passed + report.passed
  failed : s'.tally.failed = s.tally.failed + report.failed

theorem eachAlone_add (s : Session) {cases : List Case} (h : ∀ case ∈ cases, case ∈ registry) :
    s.EachAlone cases (.ofCases cases s.zone)
      (s.add (cases.flatMap (Case.text · s.zone)) (cases.map (Case.tally · s.zone)).sum) where
  results := by
    rw [Report.ofCases, List.map_map]
    refine List.map_congr_left fun case hcase => ?_
    rw [Case.alone_eq, Case.outcome_of_mem (h case hcase)]
    rfl
  out := by simp only [Case.alone_eq, add]
  zone := rfl
  passed := by
    rw [Report.passed_ofCases]
    rfl
  failed := by
    rw [Report.failed_ofCases]
    rfl

/-- A run is refused for the first unknown id and leaves the session as it was, or else is the run
of the requested cases, each of which does what it does alone. -/
theorem run_each_alone (s : Session) (ids : List String) :
    ((∃ id ∈ ids, ¬ Registered id) →
      ∃ id, FirstUnknown ids id ∧ s.run ids = pure (.error (.unknownCase id), s))
    ∧ ((∀ id ∈ ids, Registered id) →
      ∃ (cases : List Case) (report : Report) (after : Session),
        (s.run ids).value = (.ok report, after)
          ∧ (∀ case ∈ cases, case ∈ registry) ∧ cases.map Case.id = requested ids
          ∧ report.results.map CaseResult.id = requested ids
          ∧ s.EachAlone cases report after) := by
  constructor
  · exact run_of_unknown s
  · intro h
    obtain ⟨cases, hmem, hids, hrun⟩ := run_of_registered s h
    refine ⟨cases, _, _, hrun, hmem, hids, ?_, eachAlone_add s hmem⟩
    rw [← hids, Report.ofCases, List.map_map]
    rfl

/-- A session that wrote and counted before. -/
def worked : Session := ⟨⟨true, passMarker ++ failMarker⟩, Zone.utc, ⟨1, 1⟩⟩

/-- An id that is not registered among ones that are, and one that is asked for twice. -/
theorem run_each_alone_twice :
    (∃ id ∈ ["1030", "1031", "1032"], ¬ Registered id)
    ∧ (∃ id, FirstUnknown ["1030", "1031", "1032"] id
      ∧ worked.run ["1030", "1031", "1032"] = pure (.error (.unknownCase id), worked))
    ∧ (∀ id ∈ ["1030", "1030"], Registered id)
    ∧ ∃ (cases : List Case) (report : Report) (after : Session),
      (worked.run ["1030", "1030"]).value = (.ok report, after)
        ∧ cases.map Case.id = ["1030", "1030"] ∧ worked.EachAlone cases report after := by
  have hunknown : ∃ id ∈ ["1030", "1031", "1032"], ¬ Registered id := by decide
  have hknown : ∀ id ∈ ["1030", "1030"], Registered id := by decide
  obtain ⟨cases, report, after, hrun, -, hids, -, heach⟩ :=
    (run_each_alone worked ["1030", "1030"]).2 hknown
  exact ⟨hunknown, (run_each_alone worked _).1 hunknown, hknown, cases, report, after, hrun, hids,
    heach⟩

end Session

end ScriptDate.Suite
