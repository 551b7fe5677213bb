import ScriptDate.Suite.Check
import ScriptDate.Suite.Script

/-!
# Sessions

A session plays scripts. It does their actions in order on its own output and tally, of which a
script sees nothing: all that a script depends on is the zone.
-/

namespace ScriptDate.Suite

/-- An output, a zone for the dates of scripts, and a tally. -/
structure Session where
  out : Output
  zone : Zone
  tally : Tally

namespace Session

/-- A session that has done nothing yet. -/
def new (zone : Zone) (out : Output) : Session := ⟨out, zone, {}⟩

/-- Prints a line. -/
def print (s : Session) (text : List Char) : Logged Session := do
  let out ← s.out.writeLine text
  return { s with out }

/-- Counts an outcome and writes its marker. -/
def check (s : Session) (ok : Bool) : Logged Session := do
  let out ← s.out.check ok
  return { s with out, tally := s.tally.record ok }

def perform (s : Session) : Action → Logged Session
  | .print text => s.print text
  | .check ok => s.check ok
  | .log record => ⟨s, [record]⟩

/-- Does actions in order. -/
def play (s : Session) : List Action → Logged Session
  | [] => pure s
  | action :: rest => do
    let s ← s.perform action
    s.play rest

end Session

end ScriptDate.Suite
