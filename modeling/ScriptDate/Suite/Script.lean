import ScriptDate.Date.Setter
import ScriptDate.Failure

/-!
# Scripts

A script computes with dates and lists what it does on the way: the lines it prints, the outcomes
it checks, and the records it leaves in the log. It stops at the first error, and what it did until
then stays done.
-/

namespace ScriptDate.Suite

/-- Something that a script does. -/
inductive Action where
  | print (text : List Char)
  | check (ok : Bool)
  | log (record : LogRecord)

/-- A value, or the error that a script stopped at, and what it did to get there. -/
abbrev Script (α : Type) : Type := ExceptT Failure (Noted Action) α

namespace Script

variable {α β : Type}

/-- What a script does, in order. -/
def actions (x : Script α) : List Action := x.run.notes

/-- What a script computes, or its error. -/
def outcome (x : Script α) : Except Failure α := x.run.value

/-- An action by itself. -/
def perform (a : Action) : Script Unit := ExceptT.lift (.note a)

def print (text : String) : Script Unit := perform (.print text.toList)

def check (ok : Bool) : Script Unit := perform (.check ok)

/-- A computation that does nothing but write to the log. -/
def logged (x : Logged α) : Script α := ExceptT.lift ⟨x.value, x.notes.map .log⟩

/-- A computation that does nothing, and at whose error the script stops. -/
def attempt (x : Except Failure α) : Script α := ExceptT.mk (pure x)

/-- A date of components in local time. -/
def build (zone : Zone) (components : List Number) : Script Date :=
  logged (Date.ofComponents zone components)

/-- The date after a setter. -/
def set (d : Date) (s : Setter) : Script Date := do
  return (← logged (d.set s)).date

/-- Checks a text. -/
def same (text expected : String) : Script Unit := check (text = expected)

/-- Checks that local fields have the values given for them. -/
def fields (d : Date) (expected : List (Date.Field × Int)) : Script Unit :=
  check (expected.all fun (field, n) => (d.getLocal field).equals (.ofInt n))

section Laws

variable {x : Script α} {a : α} {e : Failure}

@[simp] theorem outcome_pure (a : α) : (pure a : Script α).outcome = .ok a := rfl

@[simp] theorem actions_pure (a : α) : (pure a : Script α).actions = [] := rfl

@[simp] theorem outcome_perform (a : Action) : (perform a).outcome = .ok () := rfl

@[simp] theorem actions_perform (a : Action) : (perform a).actions = [a] := rfl

@[simp] theorem outcome_logged (x : Logged α) : (logged x).outcome = .ok x.value := rfl

@[simp] theorem actions_logged (x : Logged α) : (logged x).actions = x.notes.map .log :=
  List.append_nil _

@[simp] theorem outcome_attempt (x : Except Failure α) : (attempt x).outcome = x := rfl

@[simp] theorem actions_attempt (x : Except Failure α) : (attempt x).actions = [] := rfl

/-- A script that got a value goes on with it. -/
theorem bind_of_ok (h : x.outcome = .ok a) (f : α → Script β) :
    (x >>= f).outcome = (f a).outcome ∧ (x >>= f).actions = x.actions ++ (f a).actions := by
  unfold outcome at h
  simp only [outcome, actions, ExceptT.run_bind, Noted.value_bind, Noted.notes_bind, h, and_self]

/-- A script that failed does no more. -/
theorem bind_of_error (h : x.outcome = .error e) (f : α → Script β) :
    (x >>= f).outcome = .error e ∧ (x >>= f).actions = x.actions := by
  unfold outcome at h
  simp only [outcome, actions, ExceptT.run_bind, Noted.value_bind, Noted.notes_bind, h,
    Noted.value_pure, Noted.notes_pure, List.append_nil, and_self]

end Laws

end Script

end ScriptDate.Suite
