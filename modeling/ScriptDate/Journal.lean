/-!
# Notes kept beside a value

What a computation writes to the log is part of its result: a value comes with the notes made on
the way to it, and a step that uses the value adds its own after them.
-/

namespace ScriptDate

/-- A value and the notes made on the way to it, the oldest first. -/
structure Noted (ν : Type) (α : Type) where
  value : α
  notes : List ν

namespace Noted

variable {ν α β : Type}

instance : Monad (Noted ν) where
  pure a := ⟨a, []⟩
  bind x f := ⟨(f x.value).value, x.notes ++ (f x.value).notes⟩

/-- A note by itself. -/
def note (n : ν) : Noted ν Unit := ⟨(), [n]⟩

@[simp] theorem value_pure (a : α) : (pure a : Noted ν α).value = a := rfl

@[simp] theorem notes_pure (a : α) : (pure a : Noted ν α).notes = [] := rfl

@[simp] theorem value_bind (x : Noted ν α) (f : α → Noted ν β) :
    (x >>= f).value = (f x.value).value := rfl

@[simp] theorem notes_bind (x : Noted ν α) (f : α → Noted ν β) :
    (x >>= f).notes = x.notes ++ (f x.value).notes := rfl

@[simp] theorem notes_note (n : ν) : (note n).notes = [n] := rfl

end Noted

/-- How much a log record matters. -/
inductive LogLevel where
  | trace
  | debug
  | warn
  deriving DecidableEq

/-- A line of the log. -/
structure LogRecord where
  level : LogLevel
  text : List Char
  deriving DecidableEq

/-- A value and the log records written on the way to it. -/
abbrev Logged (α : Type) : Type := Noted LogRecord α

end ScriptDate
