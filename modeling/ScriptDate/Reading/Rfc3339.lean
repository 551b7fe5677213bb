import ScriptDate.Reading.Moment

/-!
# Timestamps of RFC 3339

Every field has its full width, the date and the time are joined by a `T` or one space, and an
offset or a `Z` must end the text.
-/

namespace ScriptDate.Reading.Rfc3339

open Text

/-- The sign of an offset, which may be the mathematical minus. -/
def sign? : List Char → Option (Int × List Char)
  | '\u2212' :: rest => some (-1, rest)
  | cs => Text.sign? cs

/-- The offset that ends a timestamp, in seconds. -/
def zone? : List Char → Option Int
  | ['Z'] | ['z'] => some 0
  | cs => do
    let (factor, rest) ← sign? cs
    let (hours, rest) ← number? 2 2 rest
    let (minutes, rest) ← number? 2 2 (← char? ':' rest)
    if rest.isEmpty then offsetSeconds? factor hours minutes else none

/-- The rest after what joins the date and the time. -/
def joint? : List Char → Option (List Char)
  | 'T' :: rest | 't' :: rest | ' ' :: rest => some rest
  | _ => none

/-- The instant that a timestamp gives from its clock on, on a day already read. -/
def timeOn? (year : Int) (month date : Nat) (cs : List Char) : Option Moment := do
  let (hour, rest) ← number? 2 2 cs
  let (minute, rest) ← number? 2 2 (← char? ':' rest)
  let (second, rest) ← number? 2 2 (← char? ':' rest)
  let (ms, rest) ← fraction? rest
  let offset ← zone? rest
  let written ← Parts.moment? ⟨year, month, date, hour, minute, second, ms⟩
  some (written.behind offset)

/-- The instant of a timestamp. -/
def instant? (cs : List Char) : Option Moment := do
  let (year, rest) ← number? 4 4 cs
  let (month, rest) ← number? 2 2 (← char? '-' rest)
  let (date, rest) ← number? 2 2 (← char? '-' rest)
  timeOn? year month date (← joint? rest)

end ScriptDate.Reading.Rfc3339
