import ScriptDate.CommandLine.Run
import ScriptDate.Proofs.CaseRuns
import ScriptDate.Proofs.WrittenNumbers

/-!
# Marker lines

The scripts of the registered cases print dates and nothing else, and the text of a date is one
line that is no marker. The marker lines that a case writes are then the outcomes that it counts
(`Case.result_eq`).
-/

namespace ScriptDate.Suite

open Text

/-! ## Lines -/

def passLine : List Char := "OK".toList

def failLine : List Char := "*** ERROR ***".toList

def markerLine (ok : Bool) : List Char := if ok then passLine else failLine

/-- How many lines of a text are the given one. -/
def countLines (l text : List Char) : Nat := (text.splitOn '\n').count l

theorem marker_eq_line : ∀ ok : Bool, marker ok = Output.line (markerLine ok)
  | true => rfl
  | false => rfl

theorem markerLine_ne_nil : ∀ ok : Bool, markerLine ok ≠ []
  | true => by decide
  | false => by decide

theorem markerLine_inj {ok ok' : Bool} (h : markerLine ok = markerLine ok') : ok = ok' := by
  revert ok ok'
  decide

theorem newline_not_mem_markerLine : ∀ ok : Bool, '\n' ∉ markerLine ok := by decide

theorem countLines_nil {l : List Char} (hl : l ≠ []) : countLines l [] = 0 := by
  rw [countLines, List.splitOn_nil, List.count_singleton, if_neg]
  simpa using hl.symm

theorem splitOn_line {l : List Char} (h : '\n' ∉ l) (rest : List Char) :
    (Output.line l ++ rest).splitOn '\n' = l :: rest.splitOn '\n' := by
  have hne : ∀ c ∈ l, (c == '\n') = false := by
    intro c hc
    simp only [beq_eq_false_iff_ne]
    exact fun hn => h (hn ▸ hc)
  rw [Output.line, List.append_assoc]
  exact List.splitOnP_append_cons_of_forall_mem hne _ (by simp) _

theorem splitOn_lines {ls : List (List Char)} (h : ∀ l ∈ ls, '\n' ∉ l) (rest : List Char) :
    (ls.flatMap Output.line ++ rest).splitOn '\n' = ls ++ rest.splitOn '\n' := by
  induction ls with
  | nil => rfl
  | cons l ls ih =>
    rw [List.flatMap_cons, List.append_assoc, splitOn_line (h l List.mem_cons_self),
      ih fun l' hl' => h l' (List.mem_cons_of_mem l hl'), List.cons_append]

theorem countLines_line {l : List Char} (h : '\n' ∉ l) (l' rest : List Char) :
    countLines l' (Output.line l ++ rest) = (if l = l' then 1 else 0) + countLines l' rest := by
  rw [countLines, splitOn_line h, List.count_cons, Nat.add_comm]
  simp [countLines]

/-- Nothing is in a line that is not in the text. -/
theorem mem_of_mem_splitOnP {p : Char → Bool} : ∀ {text l : List Char}, l ∈ text.splitOnP p →
    ∀ c ∈ l, c ∈ text
  | [], l, hl, c, hc => by
    simp only [List.splitOnP_nil, List.mem_singleton] at hl
    exact absurd hc (by simp [hl])
  | d :: text, l, hl, c, hc => by
    rw [List.splitOnP_cons_eq_if_modifyHead] at hl
    split at hl
    · rcases List.mem_cons.mp hl with rfl | hl
      · simp at hc
      · exact List.mem_cons_of_mem d (mem_of_mem_splitOnP hl c hc)
    · obtain ⟨first, others, hsplit⟩ := List.exists_cons_of_ne_nil (List.splitOnP_ne_nil p text)
      rw [hsplit, List.modifyHead_cons] at hl
      have ih : ∀ l ∈ first :: others, ∀ c ∈ l, c ∈ text := fun l hl =>
        mem_of_mem_splitOnP (hsplit ▸ hl)
      rcases List.mem_cons.mp hl with rfl | hl
      · rcases List.mem_cons.mp hc with rfl | hc
        · exact List.mem_cons_self
        · exact List.mem_cons_of_mem d (ih first List.mem_cons_self c hc)
      · exact List.mem_cons_of_mem d (ih l (List.mem_cons_of_mem _ hl) c hc)

theorem ite_mem_lines (l text : List Char) :
    (if l ∈ text.splitOn '\n' then 1 else 0) = if countLines l text = 0 then 0 else 1 := by
  unfold countLines
  by_cases h : l ∈ text.splitOn '\n'
  · rw [if_pos h, if_neg (Nat.pos_iff_ne_zero.mp (List.count_pos_iff.mpr h))]
  · rw [if_neg h, if_pos (List.count_eq_zero.mpr h)]

theorem countLines_eq_zero {l text : List Char} {c : Char} (hl : c ∈ l) (htext : c ∉ text) :
    countLines l text = 0 := by
  rw [countLines, List.count_eq_zero]
  exact fun h => htext (mem_of_mem_splitOnP h c hl)

/-! ## Printed dates -/

/-- A line that is not taken for more than one, nor for a marker. -/
structure PlainLine (text : List Char) : Prop where
  newline : '\n' ∉ text
  pass : text ≠ passLine
  fail : text ≠ failLine

theorem PlainLine.ne_markerLine {text : List Char} (h : PlainLine text) :
    ∀ ok : Bool, text ≠ markerLine ok
  | true => h.pass
  | false => h.fail

theorem newline_not_mem_digits (n : Nat) : '\n' ∉ digits n := fun h =>
  absurd (isDigit_of_mem_digits h) (by decide)

theorem newline_not_mem_padded (w n : Nat) : '\n' ∉ padded w n := fun h =>
  absurd (isDigit_of_mem_padded h) (by decide)

theorem newline_not_mem_getD {names : List String} (h : ∀ name ∈ names, '\n' ∉ name.toList)
    (n : Nat) : '\n' ∉ (names.getD n "").toList := by
  rw [List.getD_eq_getElem?_getD]
  rcases hget : names[n]? with _ | name
  · decide
  · exact h name (List.mem_of_getElem? hget)

theorem plainLine_localeText (f : Calendar.CivilTime) : PlainLine f.localeText := by
  -- No marker has a colon.
  have hcolon : ':' ∈ f.localeText := by
    simp [Calendar.CivilTime.localeText, Calendar.CivilTime.clock]
  refine ⟨?_, ?_, ?_⟩
  · have hweek : '\n' ∉ f.weekDayName := newline_not_mem_getD (by decide) _
    have hmonth : '\n' ∉ f.monthName := newline_not_mem_getD (by decide) _
    have hyear : '\n' ∉ f.yearText := by
      unfold Calendar.CivilTime.yearText
      split
      · simp [newline_not_mem_padded]
      · exact newline_not_mem_padded _ _
    simp [Calendar.CivilTime.localeText, Calendar.CivilTime.localeDay, Calendar.CivilTime.clock,
      padLeft, hweek, hmonth, hyear, newline_not_mem_padded, newline_not_mem_digits]
  · intro h
    exact absurd (h ▸ hcolon) (by decide)
  · intro h
    exact absurd (h ▸ hcolon) (by decide)

theorem plainLine_toLocaleString (d : Date) : PlainLine d.toLocaleString.toList := by
  unfold Date.toLocaleString Date.localText
  split
  · rw [String.toList_ofList]
    exact plainLine_localeText _
  · constructor <;> decide

/-! ## Scripts -/

namespace Script

variable {α β : Type}

/-- A script that prints nothing but dates. -/
def PrintsDates (x : Script α) : Prop :=
  ∀ text, .print text ∈ x.actions → ∃ d : Date, text = d.toLocaleString.toList

theorem PrintsDates.bind {x : Script α} {f : α → Script β} (hx : PrintsDates x)
    (hf : ∀ a, PrintsDates (f a)) : PrintsDates (x >>= f) := by
  intro text h
  cases hvalue : x.outcome with
  | ok a =>
    rw [(bind_of_ok hvalue f).2, List.mem_append] at h
    exact h.elim (hx text) (hf a text)
  | error e =>
    rw [(bind_of_error hvalue f).2] at h
    exact hx text h

theorem printsDates_pure (a : α) : PrintsDates (pure a : Script α) := by
  simp [PrintsDates]

theorem printsDates_print (d : Date) : PrintsDates (print d.toLocaleString) := by
  intro text h
  simp only [print, actions_perform, List.mem_singleton, Action.print.injEq] at h
  exact ⟨d, h⟩

theorem printsDates_check (ok : Bool) : PrintsDates (check ok) := by
  simp [PrintsDates, check]

theorem printsDates_logged (x : Logged α) : PrintsDates (logged x) := by
  simp [PrintsDates]

theorem printsDates_attempt (x : Except Failure α) : PrintsDates (attempt x) := by
  simp [PrintsDates]

theorem printsDates_set (d : Date) (s : Setter) : PrintsDates (set d s) :=
  .bind (printsDates_logged _) fun _ => printsDates_pure _

end Script

namespace Case

open Script

theorem printsDates_script {case : Case} (h : case ∈ registry) (zone : Zone) :
    PrintsDates (case.script zone) := by
  simp only [registry, List.mem_cons, List.not_mem_nil, or_false] at h
  rcases h with rfl | rfl | rfl | rfl
  -- A script is a chain of commands, and each of these prints a date or nothing.
  all_goals
    dsimp only [seconds, getters, setters, formats, build, same, fields]
    with_reducible repeat' first
      | apply printsDates_check
      | apply printsDates_logged
      | apply printsDates_attempt
      | apply printsDates_set
      | apply printsDates_print
      | refine .bind ?_ fun _ => ?_

theorem plainLine_of_print {case : Case} (h : case ∈ registry) {zone : Zone} {text : List Char}
    (hprint : .print text ∈ case.actions zone) : PlainLine text := by
  obtain ⟨d, rfl⟩ := printsDates_script h zone text hprint
  exact plainLine_toLocaleString d

end Case

/-! ## Counting -/

/-- The checks of one outcome. -/
def Tally.of (t : Tally) (ok : Bool) : Nat := if ok then t.passed else t.failed

@[simp] theorem Tally.of_zero (ok : Bool) : (0 : Tally).of ok = 0 := by
  cases ok <;> rfl

@[simp] theorem Tally.of_add (t u : Tally) (ok : Bool) : (t + u).of ok = t.of ok + u.of ok := by
  cases ok <;> rfl

theorem Tally.of_record (ok ok' : Bool) :
    ((0 : Tally).record ok).of ok' = if ok = ok' then 1 else 0 := by
  cases ok <;> cases ok' <;> rfl

/-- A text has the marker lines that a tally counts, whatever follows it. -/
def Marked (text : List Char) (t : Tally) : Prop :=
  ∀ (ok : Bool) (rest : List Char),
    countLines (markerLine ok) (text ++ rest) = t.of ok + countLines (markerLine ok) rest

theorem marked_nil : Marked [] 0 := by
  simp [Marked]

theorem Marked.append {text text' : List Char} {t t' : Tally} (h : Marked text t)
    (h' : Marked text' t') : Marked (text ++ text') (t + t') := by
  intro ok rest
  rw [List.append_assoc, h, h', Tally.of_add, Nat.add_assoc]

theorem Marked.flatMap {α : Type} {text : α → List Char} {tally : α → Tally} :
    ∀ {xs : List α}, (∀ x ∈ xs, Marked (text x) (tally x)) →
      Marked (xs.flatMap text) (xs.map tally).sum
  | [], _ => marked_nil
  | x :: xs, h => by
    rw [List.flatMap_cons, List.map_cons, List.sum_cons]
    exact (h x List.mem_cons_self).append
      (Marked.flatMap fun y hy => h y (List.mem_cons_of_mem x hy))

theorem Marked.countLines_eq {text : List Char} {t : Tally} (h : Marked text t) (ok : Bool) :
    countLines (markerLine ok) text = t.of ok := by
  have hcount := h ok []
  rwa [List.append_nil, countLines_nil (markerLine_ne_nil ok)] at hcount

theorem Action.marked {a : Action} (h : ∀ text, a = .print text → PlainLine text) :
    Marked a.text a.tally := by
  intro ok rest
  cases a with
  | print text =>
    have hplain := h text rfl
    rw [Action.text, countLines_line hplain.newline, if_neg (hplain.ne_markerLine ok)]
    simp [Action.tally]
  | check ok' =>
    rw [Action.text, marker_eq_line, countLines_line (newline_not_mem_markerLine ok'),
      Action.tally, Tally.of_record]
    by_cases hok : ok' = ok
    · rw [if_pos hok, if_pos (hok ▸ rfl)]
    · rw [if_neg hok, if_neg fun h => hok (markerLine_inj h)]
  | log record => simp [Action.text, Action.tally]

namespace Case

theorem marked {case : Case} (h : case ∈ registry) (zone : Zone) :
    Marked (case.text zone) (case.tally zone) := by
  refine Marked.flatMap fun a ha => Action.marked ?_
  rintro text rfl
  exact plainLine_of_print h ha

/-- The part of an output that a case writes. -/
def part (case : Case) (zone : Zone) : List Char := (case.alone zone).2.out.written

theorem part_eq (case : Case) (zone : Zone) : case.part zone = case.text zone := by
  rw [part, alone_eq]

/-- The result of a case counts the marker lines of its part. -/
theorem result_eq {case : Case} (h : case ∈ registry) (zone : Zone) :
    case.result zone = ⟨case.id, countLines passLine (case.part zone),
      countLines failLine (case.part zone)⟩ := by
  rw [part_eq]
  have hpass := (marked h zone).countLines_eq true
  have hfail := (marked h zone).countLines_eq false
  rw [result, show passLine = markerLine true from rfl, show failLine = markerLine false from rfl,
    hpass, hfail]
  rfl

end Case

end ScriptDate.Suite
