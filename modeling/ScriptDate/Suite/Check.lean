import ScriptDate.Suite.Output

/-!
# Checks

A check writes a marker for its outcome, and a tally counts the outcomes.
-/

namespace ScriptDate.Suite

/-- What is written for a check that passed. -/
def passMarker : List Char := "OK\n".toList

/-- What is written for a check that failed. -/
def failMarker : List Char := "*** ERROR ***\n".toList

/-- The marker of an outcome. -/
def marker (ok : Bool) : List Char := if ok then passMarker else failMarker

/-- Writes the marker of an outcome. -/
def Output.check (out : Output) (ok : Bool) : Logged Output :=
  out.write (marker ok) (byteLength (marker ok))

/-- How many checks passed and failed. -/
structure Tally where
  passed : Nat := 0
  failed : Nat := 0
  deriving DecidableEq

namespace Tally

def record (t : Tally) (ok : Bool) : Tally :=
  if ok then { t with passed := t.passed + 1 } else { t with failed := t.failed + 1 }

def total (t : Tally) : Nat := t.passed + t.failed

def allPassed (t : Tally) : Bool := t.failed = 0

end Tally

end ScriptDate.Suite
