import ScriptDate.CommandLine.Run
import ScriptDate.Proofs.Blanks
import ScriptDate.Proofs.JsonText
import ScriptDate.Proofs.Markers

/-!
# Summaries read back

What a summary tells is what a person or a program reads in it: the words of its lines, or the
members of its JSON text. Either form of the summary of a report tells the result of each case and
their sums (`Summary.ofText?_summary`).
-/

namespace ScriptDate.Suite

open Text

/-- What a summary tells: the checks of each case, and those of all of them. -/
structure Summary where
  cases : List CaseResult
  passed : Nat
  failed : Nat
  deriving DecidableEq

namespace Summary

/-! ## The reader of lines -/

/-- The word for a case with this many failed checks. -/
def statusWord (failed : Nat) : List Char := (if failed = 0 then "PASS" else "FAIL").toList

/-- What the line of a case tells, as in `FAIL 1030 (2 ok, 1 error)`. It must not say that a case
passed or failed against its count of failed checks. -/
def caseOfLine? (line : List Char) : Option CaseResult :=
  match words line with
  | [status, id, '(' :: passed, ok, failed, error] => do
    let passed ← wholeNumber? passed
    let failed ← wholeNumber? failed
    if status = statusWord failed ∧ ok = "ok,".toList ∧ error = "error)".toList then
      some ⟨String.ofList id, passed, failed⟩
    else none
  | _ => none

/-- The number of cases and the counts that the last line tells, as in `2 cases, 5 ok, 1 error`. -/
def totalsOfLine? (line : List Char) : Option (Nat × Nat × Nat) :=
  match words line with
  | [count, cases, passed, ok, failed, error] => do
    let count ← wholeNumber? count
    let passed ← wholeNumber? passed
    let failed ← wholeNumber? failed
    if cases = "cases,".toList ∧ ok = "ok,".toList ∧ error = "error".toList then
      some (count, passed, failed)
    else none
  | _ => none

/-- What lines tell: those of the cases, the last one with their number, and nothing after its
end. -/
def ofLines? (text : List Char) : Option Summary :=
  match (text.splitOn '\n').reverse with
  | [] :: last :: before => do
    let (count, passed, failed) ← totalsOfLine? last
    let cases ← before.reverse.mapM caseOfLine?
    if cases.length = count then some ⟨cases, passed, failed⟩ else none
  | _ => none

/-! ## The reader of JSON -/

/-- What the object of a case tells. -/
def caseOfJson? (v : Json) : Option CaseResult := do
  let id ← (← v.member? "id").toText?
  let passed ← (← v.member? "passed").toNat?
  let failed ← (← v.member? "failed").toNat?
  some ⟨String.ofList id, passed, failed⟩

def ofJson? (v : Json) : Option Summary := do
  let items ← (← v.member? "cases").toItems?
  let cases ← items.mapM caseOfJson?
  let passed ← (← v.member? "passed").toNat?
  let failed ← (← v.member? "failed").toNat?
  some ⟨cases, passed, failed⟩

/-- What a text tells that is a summary in JSON, or else in lines. -/
def ofText? (json : Bool) (text : List Char) : Option Summary :=
  if json then (Json.ofText? text).bind ofJson? else ofLines? text

/-- All the items of a list are read back when each of them is. -/
theorem mapM_map {α β : Type} {write : α → β} {read : β → Option α} {xs : List α}
    (h : ∀ x ∈ xs, read (write x) = some x) : (xs.map write).mapM read = some xs := by
  induction xs with
  | nil => rfl
  | cons x xs ih =>
    rw [List.map_cons, List.mapM_cons, h x List.mem_cons_self,
      ih fun y hy => h y (List.mem_cons_of_mem x hy)]
    rfl

end Summary

/-! ## Reports -/

/-- What a report has to tell. -/
def Report.told (r : Report) : Summary := ⟨r.results, r.passed, r.failed⟩

namespace Summary

variable {r : Report} {c : CaseResult}

theorem ofJson?_json (r : Report) : ofJson? r.json = some r.told := by
  have hcases : (r.results.map CaseResult.json).mapM caseOfJson? = some r.results := by
    refine mapM_map fun c _ => ?_
    simp [CaseResult.json, caseOfJson?, Json.member?, Json.toText?, Json.toNat?]
  simp [Report.json, ofJson?, Json.member?, Json.toItems?, Json.toNat?, hcases, Report.told]

theorem isWord_digits (n : Nat) : IsWord (digits n) := padded_zero n ▸ isWord_padded 0 n

theorem isWord_id {id : String} (h : Registered id) : IsWord id.toList := by
  have table : ∀ case ∈ registry, IsWord case.id.toList := by decide
  obtain ⟨case, hmem, rfl⟩ := h
  exact table case hmem

theorem isWord_statusWord (failed : Nat) : IsWord (statusWord failed) := by
  unfold statusWord
  split <;> decide

theorem isWord_ok : IsWord "ok,".toList := by decide

theorem words_caseText (h : Registered c.id) :
    words c.text = [statusWord c.failed, c.id.toList, '(' :: digits c.passed, "ok,".toList,
      digits c.failed, "error)".toList] := by
  have htext : c.text = statusWord c.failed ++ ' ' :: (c.id.toList ++ ' ' ::
      (('(' :: digits c.passed) ++ ' ' :: ("ok,".toList ++ ' ' :: (digits c.failed ++ ' ' ::
        "error)".toList)))) := by
    unfold CaseResult.text statusWord countText
    split <;> simp
  have hpassed : IsWord ('(' :: digits c.passed) := (isWord_digits _).cons (by decide)
  have herror : IsWord "error)".toList := by decide
  rw [htext, (isWord_statusWord _).words_space, (isWord_id h).words_space, hpassed.words_space,
    isWord_ok.words_space, (isWord_digits _).words_space, herror.words]

theorem caseOfLine?_text (h : Registered c.id) : caseOfLine? c.text = some c := by
  simp [caseOfLine?, words_caseText h, wholeNumber?_digits, String.ofList_toList]

/-- The last line of a report. -/
def totalsText (count passed failed : Nat) : List Char :=
  digits count ++ " cases, ".toList ++ countText passed failed

theorem totalsOfLine?_text (count passed failed : Nat) :
    totalsOfLine? (totalsText count passed failed) = some (count, passed, failed) := by
  have htext : totalsText count passed failed = digits count ++ ' ' :: ("cases,".toList ++ ' ' ::
      (digits passed ++ ' ' :: ("ok,".toList ++ ' ' :: (digits failed ++ ' ' ::
        "error".toList)))) := by
    simp [totalsText, countText]
  have hcases : IsWord "cases,".toList := by decide
  have herror : IsWord "error".toList := by decide
  have hwords : words (totalsText count passed failed) = [digits count, "cases,".toList,
      digits passed, "ok,".toList, digits failed, "error".toList] := by
    rw [htext, (isWord_digits _).words_space, hcases.words_space, (isWord_digits _).words_space,
      isWord_ok.words_space, (isWord_digits _).words_space, herror.words]
  simp [totalsOfLine?, hwords, wholeNumber?_digits]

theorem newline_not_mem_caseText (h : Registered c.id) : '\n' ∉ c.text := by
  have hid : '\n' ∉ c.id.toList := fun hmem =>
    absurd ((isWord_id h).visible _ hmem) (by decide)
  unfold CaseResult.text countText
  split <;> simp [hid, newline_not_mem_digits]

theorem newline_not_mem_totalsText (count passed failed : Nat) :
    '\n' ∉ totalsText count passed failed := by
  simp [totalsText, countText, newline_not_mem_digits]

theorem ofLines?_text (h : ∀ c ∈ r.results, Registered c.id) :
    ofLines? (r.text ++ ['\n']) = some r.told := by
  have hlines : (r.text ++ ['\n']).splitOn '\n'
      = r.results.map CaseResult.text ++ [totalsText r.results.length r.passed r.failed, []] := by
    have htext : r.text ++ ['\n'] = (r.results.map CaseResult.text).flatMap Output.line
        ++ Output.line (totalsText r.results.length r.passed r.failed) := by
      simp [Report.text, totalsText, Output.line, List.flatMap_map]
    have hfirst : ∀ l ∈ r.results.map CaseResult.text, '\n' ∉ l := by
      intro l hl
      obtain ⟨c, hc, rfl⟩ := List.mem_map.mp hl
      exact newline_not_mem_caseText (h c hc)
    have hlast := splitOn_line (newline_not_mem_totalsText r.results.length r.passed r.failed) []
    rw [List.append_nil] at hlast
    rw [htext, splitOn_lines hfirst, hlast, List.splitOn_nil]
  have hcases : (r.results.map CaseResult.text).mapM caseOfLine? = some r.results :=
    mapM_map fun c hc => caseOfLine?_text (h c hc)
  simp [ofLines?, hlines, totalsOfLine?_text, hcases, Report.told]

/-- Both summaries of a report tell all of it. -/
theorem ofText?_summary (h : ∀ c ∈ r.results, Registered c.id) (json : Bool) :
    ofText? json (CommandLine.summary json r) = some r.told := by
  cases json with
  | false => exact ofLines?_text h
  | true =>
    show (Json.ofText? (r.json.pretty 0 ++ ['\n'])).bind ofJson? = some r.told
    rw [Json.ofText?_pretty, Option.bind_some, ofJson?_json]

/-- A line is read for what it says, and not when it contradicts itself. -/
example :
    ofText? false "FAIL 1030 (2 ok, 1 error)\n1 cases, 2 ok, 1 error\n".toList
      = some ⟨[⟨"1030", 2, 1⟩], 2, 1⟩
    ∧ ofText? false "PASS 1030 (2 ok, 1 error)\n1 cases, 2 ok, 1 error\n".toList = none := by
  decide +kernel

end Summary

end ScriptDate.Suite
