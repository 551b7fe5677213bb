import ScriptDate.CommandLine.Run
import ScriptDate.Zone.RuleText

/-!
# The suite runner

Takes the rules of the host's zone from the environment, prints what the run prints, and ends with
its status.
-/

def main (args : List String) : IO UInt32 := do
  let host := ScriptDate.Zone.Rules.ofHost ((← IO.getEnv "TZ").getD "")
  let outcome := ScriptDate.CommandLine.run host args
  IO.print (String.ofList outcome.stdout)
  IO.eprint (String.ofList outcome.stderr)
  return outcome.exit.toUInt32
