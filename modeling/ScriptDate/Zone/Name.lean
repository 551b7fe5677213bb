import ScriptDate.Failure
import ScriptDate.Text.Blank
import ScriptDate.Text.Reader
import ScriptDate.Zone.Basic

/-!
# Zone names

A zone is named by a word for the host's zone, by a word for UTC, or by a sign and two or four
digits, hours and minutes east of UTC. Colons after the sign only help the eye.
-/

namespace ScriptDate

open Text

namespace FixedOffset

/-- The offset of hours and minutes east or, with a factor of -1, west of UTC. -/
def ofParts? (factor : Int) (hours minutes : Nat) : Option FixedOffset :=
  if hours ≤ 23 && minutes ≤ 59 then
    let seconds := factor * (3600 * (hours : Int) + 60 * (minutes : Int))
    if h : seconds.natAbs < 86400 then some ⟨seconds, h⟩ else none
  else none

/-- The offset that a sign and digits write. -/
def ofText? (cs : List Char) : Option FixedOffset := do
  let (factor, rest) ← sign? cs
  let ds := rest.filter (· != ':')
  if !ds.all Char.isDigit then none
  else if ds.length = 2 then ofParts? factor (ofDigits ds) 0
  else if ds.length = 4 then
    ofParts? factor (ofDigits (ds.take 2)) (ofDigits (ds.drop 2))
  else none

/-- Sign, hours and minutes, and seconds when there are any. -/
def text (offset : FixedOffset) : List Char :=
  let sign := if offset.seconds < 0 then '-' else '+'
  let n := offset.seconds.natAbs
  let minutes := sign :: (padded 2 (n / 3600) ++ ':' :: padded 2 (n / 60 % 60))
  if n % 60 = 0 then minutes else minutes ++ ':' :: padded 2 (n % 60)

end FixedOffset

namespace Zone

/-- The zone that a name means on a host with the given rules. Words are read in any case. -/
def ofName? (host : Zone.Rules) (cs : List Char) : Option Zone :=
  let word := String.ofList (cs.map Char.toLower)
  if word = "local" || word = "system" then some (.host host)
  else if word = "utc" || word = "gmt" || word = "z" then some utc
  else (FixedOffset.ofText? cs).map .fixed

/-- The zone that a text names, blanks around the name aside. -/
def ofText (host : Zone.Rules) (text : String) : Except Failure Zone :=
  match ofName? host (trim text.toList) with
  | some zone => .ok zone
  | none => .error (.invalidZone text)

/-- The name that a zone is shown by. -/
def text : Zone → List Char
  | .host _ => "local".toList
  | .fixed offset => offset.text

end Zone

end ScriptDate
