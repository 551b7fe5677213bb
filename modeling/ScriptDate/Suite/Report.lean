import ScriptDate.Text.Digits
import ScriptDate.Text.Json

/-!
# Reports

The checks of each case that was run and their sums, as lines for a person and as JSON.
-/

namespace ScriptDate.Suite

open Text

/-- The checks of one run of a case. -/
structure CaseResult where
  id : String
  passed : Nat
  failed : Nat
  deriving DecidableEq

/-- The results of a run of several cases, in order. -/
structure Report where
  results : List CaseResult
  deriving DecidableEq

/-- How many checks were right and wrong. -/
def countText (passed failed : Nat) : List Char :=
  digits passed ++ " ok, ".toList ++ digits failed ++ " error".toList

namespace CaseResult

/-- The line of a case. -/
def text (r : CaseResult) : List Char :=
  (if r.failed = 0 then "PASS " else "FAIL ").toList ++ r.id.toList ++ " (".toList ++
    countText r.passed r.failed ++ [')']

def json (r : CaseResult) : Json :=
  .object [("id", .text r.id.toList), ("passed", .number r.passed), ("failed", .number r.failed)]

end CaseResult

namespace Report

def passed (r : Report) : Nat := r.results.foldl (fun n c => n + c.passed) 0

def failed (r : Report) : Nat := r.results.foldl (fun n c => n + c.failed) 0

def allPassed (r : Report) : Bool := r.failed = 0

/-- A line for each case and one for all of them. -/
def text (r : Report) : List Char :=
  r.results.flatMap (fun c => c.text ++ ['\n']) ++ digits r.results.length ++
    " cases, ".toList ++ countText r.passed r.failed

def json (r : Report) : Json :=
  .object
    [("cases", .array (r.results.map CaseResult.json)), ("passed", .number r.passed),
      ("failed", .number r.failed)]

end Report

end ScriptDate.Suite
