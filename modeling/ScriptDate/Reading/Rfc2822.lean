import ScriptDate.Calendar.Names
import ScriptDate.Reading.Moment
import ScriptDate.Text.Blank

/-!
# Dates of RFC 2822

The form of mail headers: an optional weekday, which must be the day's own, then day, month name,
year, time and zone, and comments in parentheses after them. Short years are of the twentieth or
the early twenty-first century.
-/

namespace ScriptDate.Reading.Rfc2822

open Calendar Text

/-- The rest after one blank or more. -/
def blanks? : List Char → Option (List Char)
  | [] => none
  | c :: rest => if isBlank c then some (trimStart rest) else none

/-- The place in a list of three-letter names of the one in front, in any case. -/
def name? (names : List String) (cs : List Char) : Option (Nat × List Char) :=
  let word := (cs.take 3).map Char.toLower
  (names.findIdx? fun name => name.toList.map Char.toLower = word).map (·, cs.drop 3)

/-- The weekday before its comma, if one is named. -/
def weekDay? (cs : List Char) : Option (Option Nat × List Char) :=
  match name? weekDayNames cs with
  | some (d, rest) => (char? ',' rest).map (some d, ·)
  | none => some (none, cs)

/-- The year that `n` in `width` digits stands for. -/
def yearOf (n width : Nat) : Nat :=
  if width = 2 then (if n ≤ 49 then 2000 + n else 1900 + n)
  else if width = 3 then 1900 + n
  else n

def year? (cs : List Char) : Option (Nat × List Char) := do
  let (n, rest) ← numeral? 2 cs
  some (yearOf n (cs.length - rest.length), rest)

/-- The seconds after a second colon, and zero when there is none. -/
def second? (cs : List Char) : Option (Nat × List Char) :=
  match char? ':' (trimStart cs) with
  | some rest => number? 2 2 rest
  | none => some (0, cs)

/-- The hours east of UTC of a zone word. A single letter but `j` is a military zone, read as
UTC. -/
def hoursOfWord? (word : String) : Option Int :=
  if word = "gmt" || word = "ut" || word = "z" then some 0
  else if word = "edt" then some (-4)
  else if word = "est" || word = "cdt" then some (-5)
  else if word = "cst" || word = "mdt" then some (-6)
  else if word = "mst" || word = "pdt" then some (-7)
  else if word = "pst" then some (-8)
  else if word.length = 1 && word != "j" then some 0
  else none

/-- A zone in seconds: a word in any case, or a sign and four digits. -/
def zone? (cs : List Char) : Option (Int × List Char) :=
  let word := cs.takeWhile Char.isAlpha
  if word.isEmpty then do
    let (factor, rest) ← sign? cs
    let (hours, rest) ← number? 2 2 rest
    let (minutes, rest) ← number? 2 2 rest
    let seconds ← offsetSeconds? factor hours minutes
    some (seconds, rest)
  else do
    let hours ← hoursOfWord? (String.ofList (word.map Char.toLower))
    some (hours * 3600, cs.dropWhile Char.isAlpha)

/-- Whether there is nothing but comments, from a depth of open parentheses on. A backslash in a
comment takes the next character along. -/
def onlyComments : Nat → List Char → Bool
  | depth, [] => depth = 0
  | 0, c :: rest => if isBlank c then onlyComments 0 rest else c = '(' && onlyComments 1 rest
  | depth + 1, '\\' :: _ :: rest => onlyComments (depth + 1) rest
  | depth + 1, '(' :: rest => onlyComments (depth + 2) rest
  | depth + 1, ')' :: rest => onlyComments depth rest
  | depth + 1, _ :: rest => onlyComments (depth + 1) rest

/-- The instant that a date gives from its year on, after its weekday, day and month. -/
def inYear? (weekDay : Option Nat) (date month : Nat) (cs : List Char) : Option Moment := do
  let (year, rest) ← year? cs
  let (hour, rest) ← number? 2 2 (← blanks? rest)
  let (minute, rest) ← number? 2 2 (trimStart (← char? ':' (trimStart rest)))
  let (second, rest) ← second? rest
  let (offset, rest) ← zone? (← blanks? rest)
  let written ← Parts.moment? ⟨year, month + 1, date, hour, minute, second, 0⟩
  let instant := written.behind offset
  let agrees := weekDay.all fun d => (d : Int) = Calendar.weekDay (written.seconds * msPerSecond)
  if onlyComments 0 rest && agrees && timeInSpan (instant.seconds * msPerSecond) then
    some instant
  else none

/-- The instant of a date. -/
def instant? (cs : List Char) : Option Moment := do
  let (weekDay, rest) ← weekDay? (trimStart cs)
  let (date, rest) ← number? 1 2 (trimStart rest)
  let (month, rest) ← name? monthNames (← blanks? rest)
  inYear? weekDay date month (← blanks? rest)

end ScriptDate.Reading.Rfc2822
