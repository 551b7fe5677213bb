import ScriptDate.Proofs.Arguments
import ScriptDate.Proofs.Summaries

/-!
# The outcome of a command line

No line of a summary is a marker either, so that what is read in the summary, the lines above it
and the exit status of a run tell the same, and asking for a summary in JSON changes the summary
alone (`run_agrees`).
-/

namespace ScriptDate

open Text

namespace Suite

/-! ## Summaries -/

/-- No marker is part of a text. -/
def Unmarked (text : List Char) : Prop := 'K' ∉ text ∧ '*' ∉ text

instance (text : List Char) : Decidable (Unmarked text) :=
  inferInstanceAs (Decidable ('K' ∉ text ∧ '*' ∉ text))

@[simp] theorem unmarked_nil : Unmarked [] := by
  simp [Unmarked]

@[simp] theorem unmarked_append {text text' : List Char} :
    Unmarked (text ++ text') ↔ Unmarked text ∧ Unmarked text' := by
  simp only [Unmarked, List.mem_append, not_or]
  exact and_and_and_comm

@[simp] theorem unmarked_cons {c : Char} {text : List Char} :
    Unmarked (c :: text) ↔ (c ≠ 'K' ∧ c ≠ '*') ∧ Unmarked text := by
  simp only [Unmarked, List.mem_cons, not_or, ne_comm]
  exact and_and_and_comm

theorem unmarked_flatMap {α : Type} {f : α → List Char} {xs : List α}
    (h : ∀ x ∈ xs, Unmarked (f x)) : Unmarked (xs.flatMap f) := by
  simp only [Unmarked, List.mem_flatMap, not_exists, not_and]
  exact ⟨fun x hx => (h x hx).1, fun x hx => (h x hx).2⟩

@[simp] theorem unmarked_digits (n : Nat) : Unmarked (digits n) :=
  ⟨fun h => absurd (isDigit_of_mem_digits h) (by decide),
    fun h => absurd (isDigit_of_mem_digits h) (by decide)⟩

theorem unmarked_indent (level : Nat) : Unmarked (Json.indent level) := by
  simp [Json.indent, Unmarked, List.mem_replicate]

theorem Unmarked.countLines_eq {text : List Char} (h : Unmarked text) :
    ∀ ok : Bool, countLines (markerLine ok) text = 0
  | true => countLines_eq_zero (by decide) h.1
  | false => countLines_eq_zero (by decide) h.2

theorem unmarked_stringChar {c : Char} (h : c ≠ 'K' ∧ c ≠ '*') : Unmarked (Json.stringChar c) := by
  have table : ∀ n < 32, Unmarked ("\\u".toList ++ padLeft '0' 4 (Nat.toDigits 16 n)) := by decide
  unfold Json.stringChar
  split_ifs with _ _ _ _ _ _ _ hcontrol
  · decide
  · decide
  · decide
  · decide
  · decide
  · decide
  · decide
  · exact table _ hcontrol
  · simpa using h

theorem unmarked_string {text : List Char} (h : Unmarked text) : Unmarked (Json.string text) := by
  have hchars : Unmarked (text.flatMap Json.stringChar) := by
    refine unmarked_flatMap fun c hc => unmarked_stringChar ?_
    exact ⟨fun hk => h.1 (hk ▸ hc), fun hk => h.2 (hk ▸ hc)⟩
  simp [Json.string, hchars]

theorem unmarked_id {id : String} (h : Registered id) : Unmarked id.toList := by
  obtain ⟨case, hmem, rfl⟩ := h
  have table : ∀ case ∈ registry, Unmarked case.id.toList := by decide
  exact table case hmem

theorem unmarked_countText (passed failed : Nat) : Unmarked (countText passed failed) := by
  simp [countText]

theorem unmarked_prettyItems {level : Nat} : ∀ {items : List Json},
    (∀ json ∈ items, Unmarked (json.pretty level)) → Unmarked (Json.prettyItems level items)
  | [], _ => unmarked_nil
  | [json], h => by simp [Json.prettyItems, unmarked_indent, h]
  | json :: json' :: items, h => by
    have ih := unmarked_prettyItems fun j hj => h j (List.mem_cons_of_mem json hj)
    simp [Json.prettyItems, unmarked_indent, h, ih]

theorem unmarked_prettyMembers {level : Nat} : ∀ {members : List (String × Json)},
    (∀ m ∈ members, Unmarked m.1.toList ∧ Unmarked (m.2.pretty level)) →
      Unmarked (Json.prettyMembers level members)
  | [], _ => unmarked_nil
  | [m], h => by
    have hm := h m List.mem_cons_self
    simp [Json.prettyMembers, unmarked_indent, unmarked_string hm.1, hm.2]
  | m :: m' :: members, h => by
    have ih := unmarked_prettyMembers fun j hj => h j (List.mem_cons_of_mem m hj)
    have hm := h m List.mem_cons_self
    simp [Json.prettyMembers, unmarked_indent, unmarked_string hm.1, hm.2, ih]

theorem unmarked_array {level : Nat} {items : List Json}
    (h : ∀ json ∈ items, Unmarked (json.pretty (level + 1))) :
    Unmarked (Json.pretty level (.array items)) := by
  have hitems := unmarked_prettyItems h
  cases items with
  | nil => simp [Json.pretty]
  | cons json items =>
    rw [Json.pretty]
    · simp [hitems, unmarked_indent]
    · simp

theorem unmarked_object {level : Nat} {members : List (String × Json)}
    (h : ∀ m ∈ members, Unmarked m.1.toList ∧ Unmarked (m.2.pretty (level + 1))) :
    Unmarked (Json.pretty level (.object members)) := by
  have hmembers := unmarked_prettyMembers h
  cases members with
  | nil => simp [Json.pretty]
  | cons m members =>
    rw [Json.pretty]
    · simp [hmembers, unmarked_indent]
    · simp

namespace Report

variable {r : Report}

theorem unmarked_result {c : CaseResult} (h : Registered c.id) : Unmarked c.text := by
  have hid := unmarked_id h
  unfold CaseResult.text
  split <;> simp [hid, unmarked_countText]

theorem unmarked_text (h : ∀ c ∈ r.results, Registered c.id) : Unmarked r.text := by
  have hlines : Unmarked (r.results.flatMap fun c => c.text ++ ['\n']) :=
    unmarked_flatMap fun c hc => unmarked_append.mpr ⟨unmarked_result (h c hc), by decide⟩
  simp [text, hlines, unmarked_countText]

theorem unmarked_json (h : ∀ c ∈ r.results, Registered c.id) : Unmarked (r.json.pretty 0) := by
  have hnumber (level n : Nat) : Unmarked (Json.pretty level (.number n)) := unmarked_digits n
  have hcase : ∀ c ∈ r.results, Unmarked (c.json.pretty 2) := by
    intro c hc
    refine unmarked_object ?_
    have hid : Unmarked (Json.pretty 3 (.text c.id.toList)) :=
      unmarked_string (unmarked_id (h c hc))
    simp [hid, hnumber]
  have hcases : Unmarked (Json.pretty 1 (.array (r.results.map CaseResult.json))) :=
    unmarked_array (by simpa using hcase)
  refine unmarked_object ?_
  simp [hcases, hnumber]

end Report

theorem unmarked_summary {r : Report} (h : ∀ c ∈ r.results, Registered c.id) (json : Bool) :
    Unmarked (CommandLine.summary json r) := by
  have hend : Unmarked ['\n'] := by decide
  unfold CommandLine.summary
  split
  · exact unmarked_append.mpr ⟨Report.unmarked_json h, hend⟩
  · exact unmarked_append.mpr ⟨Report.unmarked_text h, hend⟩

end Suite

namespace CommandLine

open Suite

variable {host : Zone.Rules} {args args' : List String} {o : Options}

/-- What a summary has to tell of cases: the marker lines in the part of each, and in the whole
output. -/
def counted (zone : Zone) (cases : List Case) (stdout : List Char) : Summary :=
  ⟨cases.map fun case =>
      ⟨case.id, countLines passLine (case.part zone), countLines failLine (case.part zone)⟩,
    countLines passLine stdout, countLines failLine stdout⟩

/-- A run leaves the texts of its cases and then a summary. What is read in the summary are the
numbers of marker lines in the part of each case and in the whole output, where none comes after the
parts; and the status is for a marker of a failed check. -/
structure Agrees (zone : Zone) (cases : List Case) (json : Bool) (outcome : Outcome) : Prop where
  stdout : ∃ shown, outcome.stdout = cases.flatMap (Case.part · zone) ++ shown
    ∧ Summary.ofText? json shown = some (counted zone cases outcome.stdout)
  passed : countLines passLine outcome.stdout
    = countLines passLine (cases.flatMap (Case.part · zone))
  failed : countLines failLine outcome.stdout
    = countLines failLine (cases.flatMap (Case.part · zone))
  stderr : outcome.stderr = []
  exit : outcome.exit = if failLine ∈ outcome.stdout.splitOn '\n' then 1 else 0

theorem run_of_unknown (host : Zone.Rules) (h : ∃ id ∈ o.cases, ¬ Registered id) :
    ∃ id, FirstUnknown o.cases id ∧ ∀ json, { o with json := json }.run host
      = ⟨1, [], Output.line ("Unknown test case '" ++ id ++ "'").toList⟩ := by
  obtain ⟨id, hfirst, hrun⟩ :=
    Session.run_of_unknown (.new (o.zone.getD (.host host)) .stdout) h
  refine ⟨id, hfirst, fun json => ?_⟩
  -- A new session wrote nothing, and the run leaves it so.
  rw [Options.run, hrun]
  rfl

theorem agrees_of_cases (zone : Zone) {cases : List Case} (h : ∀ case ∈ cases, case ∈ registry)
    {json : Bool} {outcome : Outcome}
    (hstdout : outcome.stdout
      = cases.flatMap (Case.text · zone) ++ summary json (.ofCases cases zone))
    (hstderr : outcome.stderr = [])
    (hexit : outcome.exit = if (Report.ofCases cases zone).allPassed then 0 else 1) :
    Agrees zone cases json outcome := by
  have hregistered : ∀ r ∈ (Report.ofCases cases zone).results, Registered r.id := by
    intro r hr
    obtain ⟨case, hcase, rfl⟩ := List.mem_map.mp hr
    exact ⟨case, h case hcase, rfl⟩
  have hparts : cases.flatMap (Case.part · zone) = cases.flatMap (Case.text · zone) := by
    simp only [Case.part_eq]
  have hmarked : Marked (cases.flatMap (Case.text · zone)) (cases.map (Case.tally · zone)).sum :=
    Marked.flatMap fun case hcase => Case.marked (h case hcase) zone
  have hall (ok : Bool) : countLines (markerLine ok) outcome.stdout
      = (cases.map (Case.tally · zone)).sum.of ok := by
    rw [hstdout, hmarked, (unmarked_summary hregistered json).countLines_eq, Nat.add_zero]
  have hpassed : (Report.ofCases cases zone).passed = countLines passLine outcome.stdout :=
    (Report.passed_ofCases cases zone).trans (hall true).symm
  have hfailed : (Report.ofCases cases zone).failed = countLines failLine outcome.stdout :=
    (Report.failed_ofCases cases zone).trans (hall false).symm
  have hresults : (Report.ofCases cases zone).results = (counted zone cases outcome.stdout).cases :=
    List.map_congr_left fun case hcase => Case.result_eq (h case hcase) zone
  have htold : (Report.ofCases cases zone).told = counted zone cases outcome.stdout := by
    rw [Report.told, hresults, hpassed, hfailed]
    rfl
  refine ⟨⟨summary json (.ofCases cases zone), ?_, ?_⟩, ?_, ?_, hstderr, ?_⟩
  · rw [hstdout, hparts]
  · rw [Summary.ofText?_summary hregistered json, htold]
  · rw [hparts]
    exact (hall true).trans (hmarked.countLines_eq true).symm
  · rw [hparts]
    exact (hall false).trans (hmarked.countLines_eq false).symm
  · rw [hexit, Report.allPassed, hfailed, ite_mem_lines]
    simp only [decide_eq_true_eq]

theorem run_of_registered (host : Zone.Rules) (h : ∀ id ∈ o.cases, Registered id) :
    ∃ cases : List Case, (∀ case ∈ cases, case ∈ registry)
      ∧ cases.map Case.id = requested o.cases
      ∧ ∀ json, Agrees (o.zone.getD (.host host)) cases json
        ({ o with json := json }.run host) := by
  obtain ⟨cases, hmem, hids, hrun⟩ :=
    Session.run_of_registered (.new (o.zone.getD (.host host)) .stdout) h
  refine ⟨cases, hmem, hids, fun json => agrees_of_cases _ hmem ?_ ?_ ?_⟩
  · simp only [Options.run, hrun]
    rfl
  · simp only [Options.run, hrun]
  · simp only [Options.run, hrun]
    rfl

end CommandLine

end ScriptDate
