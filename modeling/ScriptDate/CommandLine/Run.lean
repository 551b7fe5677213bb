import ScriptDate.CommandLine.Request
import ScriptDate.Suite.Run

/-!
# Runs of the command line

What a run prints and the status it ends with. Status 2 is for a command line that is rejected,
and status 1 for an unknown case or a failed check.
-/

namespace ScriptDate.CommandLine

open Suite

/-- What a run leaves behind. -/
structure Outcome where
  exit : Nat
  stdout : List Char
  stderr : List Char
  deriving DecidableEq

def versionText : List Char := "esjs 0.1.0\n".toList

def usageText : List Char :=
  "usage: esjs [-l | --list] [--json] [--tz ZONE] [-V | --version] [CASE]...\n".toList

/-- The lines that list the registered cases. -/
def listing : List Char :=
  registry.flatMap fun case =>
    case.id.toList ++ List.replicate (14 - case.id.length) ' ' ++ ' ' :: case.description.toList ++
      ['\n']

/-- The summary after the output of the cases. -/
def summary (json : Bool) (report : Report) : List Char :=
  (if json then report.json.pretty 0 else report.text) ++ ['\n']

/-- The outcome of running cases. An error stands in for the summary, after what was written until
then. -/
def Options.run (o : Options) (host : Zone.Rules) : Outcome :=
  match ((Session.new (o.zone.getD (.host host)) .stdout).run o.cases).value with
  | (.error e, s) => ⟨1, s.out.written, e.display.toList ++ ['\n']⟩
  | (.ok report, s) =>
    ⟨if report.allPassed then 0 else 1, s.out.written ++ summary o.json report, []⟩

/-- The outcome of a command line on a host with the given rules. -/
def run (host : Zone.Rules) (args : List String) : Outcome :=
  match Request.ofArguments? host args with
  | none => ⟨2, [], usageText⟩
  | some .version => ⟨0, versionText, []⟩
  | some (.run o) => if o.list then ⟨0, listing, []⟩ else o.run host

end ScriptDate.CommandLine
