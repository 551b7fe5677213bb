import ScriptDate.Text.Digits

/-!
# Errors

The causes for which an operation fails, and their wording: what a script is told, and the fuller
form for a person, in which a range error also names the place that raised it.
-/

namespace ScriptDate

/-- The place that raised an error. -/
structure CallSite where
  method : String
  file : String
  line : Nat
  deriving DecidableEq

/-- The causes of errors. -/
inductive Failure where
  | range (message : String) (site : CallSite)
  | invalidZone (value : String)
  | unknownCase (id : String)
  | stream (text : String)
  deriving DecidableEq

namespace Failure

/-- The wording without the place. -/
def message : Failure → String
  | .range message _ => message
  | .invalidZone value => "Invalid time zone '" ++ value ++ "'"
  | .unknownCase id => "Unknown test case '" ++ id ++ "'"
  | .stream text => "std::io error: " ++ text

/-- The wording with the place of a range error. -/
def display : Failure → String
  | .range message site =>
    "RangeError: " ++ message ++ " (at " ++ site.method ++ " " ++ site.file ++ ":" ++
      String.ofList (Text.digits site.line) ++ ")"
  | e => e.message

end Failure

end ScriptDate
