/-!
# Names of days and months

Three-letter English names, weekdays from Sunday and months from January.
-/

namespace ScriptDate.Calendar

def weekDayNames : List String := ["Sun", "Mon", "Tue", "Wed", "Thu", "Fri", "Sat"]

def monthNames : List String :=
  ["Jan", "Feb", "Mar", "Apr", "May", "Jun", "Jul", "Aug", "Sep", "Oct", "Nov", "Dec"]

end ScriptDate.Calendar
