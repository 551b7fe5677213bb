import ScriptDate.Calendar.Names
import ScriptDate.Reading.Moment
import ScriptDate.Text.Blank

/-!
# Dates by month name

Three words: a month by its name, the day of the month with any commas after it, and the year.
-/

namespace ScriptDate.Reading

open Calendar Text

/-- The text without the commas it ends in. -/
def dropCommas (cs : List Char) : List Char := (cs.reverse.dropWhile (· = ',')).reverse

/-- A number with or without a plus sign. -/
def plusNumber? : List Char → Option Nat
  | '+' :: rest => wholeNumber? rest
  | cs => wholeNumber? cs

/-- The start of the day that a month name, a day and a year give. -/
def monthName? (cs : List Char) : Option Moment :=
  match words cs with
  | [name, date, year] => do
    let month ← monthNames.findIdx? fun n => n.toList = name
    let date ← plusNumber? (dropCommas date)
    let year ← wholeInt? year
    Parts.moment? { year, month := month + 1, date }
  | _ => none

end ScriptDate.Reading
