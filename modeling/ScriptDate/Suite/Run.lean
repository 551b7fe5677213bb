import ScriptDate.Suite.Registry
import ScriptDate.Suite.Report
import ScriptDate.Suite.Session

/-!
# Running cases

Running a case plays its script, and its result is what the tally gained by it. When cases are run
by their ids, all of them are found before the first one plays. A run that stops at an error leaves
the session as far as it came.
-/

namespace ScriptDate.Suite

open Text

/-- What the log says when a case begins. -/
def startRecord (case : Case) (zone : Zone) : LogRecord :=
  ⟨.debug, "running case ".toList ++ case.id.toList ++ " in zone ".toList ++ zone.text⟩

/-- What the log says of failed checks. -/
def failureRecord (r : CaseResult) : LogRecord :=
  ⟨.warn, "case ".toList ++ r.id.toList ++ " failed ".toList ++ digits r.failed ++
    " of ".toList ++ digits (r.passed + r.failed) ++ " checks".toList⟩

/-- What a tally gained since it was `before`. -/
def Tally.gain (id : String) (before after : Tally) : CaseResult :=
  ⟨id, after.passed - before.passed, after.failed - before.failed⟩

namespace Session

/-- Runs a case. When its script stops at an error, all that it did before is done. -/
def runCase (s : Session) (case : Case) : Logged (Except Failure CaseResult × Session) := do
  .note (startRecord case s.zone)
  let script := case.script s.zone
  let after ← s.play script.actions
  match script.outcome with
  | .error e => return (.error e, after)
  | .ok () =>
    let result := Tally.gain case.id s.tally after.tally
    if 0 < result.failed then .note (failureRecord result)
    return (.ok result, after)

/-- Runs cases one after another, up to the first that stops at an error. -/
def runAll (s : Session) : List Case → Logged (Except Failure (List CaseResult) × Session)
  | [] => pure (.ok [], s)
  | case :: rest => do
    match ← s.runCase case with
    | (.error e, s) => return (.error e, s)
    | (.ok result, s) =>
      let (results, s) ← s.runAll rest
      return (results.map (result :: ·), s)

/-- Runs the cases of ids, or every case for none. -/
def run (s : Session) (ids : List String) : Logged (Except Failure Report × Session) := do
  match Case.ofIds ids with
  | .error e => return (.error e, s)
  | .ok cases =>
    let (results, s) ← s.runAll cases
    return (results.map Report.mk, s)

end Session

end ScriptDate.Suite
