import ScriptDate.Text.Reader
import ScriptDate.Zone.Rules

/-!
# Zone rules in text

The rules of a zone are written as a name and an offset, and where daylight time is kept a name
for it, its offset if that is not an hour more, and the two changeovers after commas. Offsets are
written west of UTC.
-/

namespace ScriptDate.Zone

namespace RuleText

open Text

/-- The rest after a name: letters, or any characters between angle brackets. -/
def name? : List Char → Option (List Char)
  | '<' :: rest => char? '>' (rest.dropWhile (· != '>'))
  | cs => if (cs.takeWhile Char.isAlpha).isEmpty then none else some (cs.dropWhile Char.isAlpha)

/-- A part after a colon, below sixty, and zero when there is no colon. -/
def sixtieth? : List Char → Option (Int × List Char)
  | ':' :: rest => do
    let (n, rest) ← numeral? 1 rest
    if n < 60 then some (n, rest) else none
  | cs => some (0, cs)

/-- Hours, with minutes and seconds after colons, in seconds. -/
def duration? (cs : List Char) : Option (Int × List Char) := do
  let (hours, rest) ← numeral? 1 cs
  let (minutes, rest) ← sixtieth? rest
  let (seconds, rest) ← sixtieth? rest
  if hours ≤ 24 then some (3600 * (hours : Int) + 60 * minutes + seconds, rest) else none

/-- An offset east, from its text west. -/
def offset? (cs : List Char) : Option (Int × List Char) := do
  let (factor, rest) := (sign? cs).getD (1, cs)
  let (seconds, rest) ← duration? rest
  some (-factor * seconds, rest)

/-- The day of a changeover. -/
def ruleDay? : List Char → Option (RuleDay × List Char)
  | 'M' :: rest => do
    let (month, rest) ← numeral? 1 rest
    let (week, rest) ← numeral? 1 (← char? '.' rest)
    let (weekDay, rest) ← numeral? 1 (← char? '.' rest)
    if 1 ≤ month && month ≤ 12 && 1 ≤ week && week ≤ 5 && weekDay ≤ 6 then
      some (.inMonth month week weekDay, rest)
    else none
  | 'J' :: rest => do
    let (n, rest) ← numeral? 1 rest
    if 1 ≤ n && n ≤ 365 then some (.common n, rest) else none
  | cs => do
    let (n, rest) ← numeral? 1 cs
    if n ≤ 365 then some (.counted n, rest) else none

/-- A changeover after its comma, at two o'clock when no time is given. -/
def changeover? (cs : List Char) : Option (Changeover × List Char) := do
  let (day, rest) ← ruleDay? (← char? ',' cs)
  match rest with
  | '/' :: rest =>
    let (time, rest) ← duration? rest
    some (⟨day, time⟩, rest)
  | _ => some (⟨day, 7200⟩, rest)

/-- Daylight time after standard time, which it is an hour ahead of unless it says otherwise. -/
def daylight? (standard : Int) (cs : List Char) : Option Daylight := do
  let rest ← name? cs
  let (offset, rest) ←
    match rest with
    | ',' :: _ => some (standard + 3600, rest)
    | _ => offset? rest
  let (starts, rest) ← changeover? rest
  let (ends, rest) ← changeover? rest
  if rest.isEmpty then some ⟨offset, starts, ends⟩ else none

end RuleText

namespace Rules

open RuleText

/-- The rules that a text writes. -/
def ofText? (cs : List Char) : Option Rules := do
  let (standard, rest) ← offset? (← name? cs)
  if rest.isEmpty then some ⟨standard, none⟩
  else
    let daylight ← daylight? standard rest
    some ⟨standard, some daylight⟩

/-- The rules of the host, by what it says of them: UTC when it says nothing that can be read. -/
def ofHost (text : String) : Rules := (ofText? text.toList).getD utc

end Rules

end ScriptDate.Zone
