import ScriptDate.Calendar.CivilTime

/-!
# Rules of a zone

A zone is a standard offset, to which daylight time may be added between two changeovers that
recur every year. The changeovers of all years are laid out as turns, instants from which an
offset holds, and the offset at an instant is that of the latest turn up to it. Offsets and
instants are in seconds here, offsets east of UTC.
-/

namespace ScriptDate.Zone

open Calendar

/-- The day of a changeover, as a rule for every year. -/
inductive RuleDay where
  /-- The `week`th day of the week in a month from one; the fifth stands for the last. -/
  | inMonth (month week weekDay : Nat)
  /-- The day of the year from one, with 29 February never counted. -/
  | common (n : Nat)
  /-- The day of the year from zero, with 29 February counted. -/
  | counted (n : Nat)
  deriving DecidableEq

/-- A changeover: a day, and the time on the clock that is changed, in seconds. -/
structure Changeover where
  day : RuleDay
  time : Int
  deriving DecidableEq

/-- Daylight time. It starts by the clock of standard time and ends by its own. -/
structure Daylight where
  offset : Int
  starts : Changeover
  ends : Changeover
  deriving DecidableEq

/-- The rules of a zone. -/
structure Rules where
  standard : Int
  daylight : Option Daylight
  deriving DecidableEq

/-- The seconds of a day. -/
def secondsPerDay : Int := 86400

/-- The number of the day that a rule means in a year. -/
def RuleDay.inYear (year : Int) : RuleDay → Int
  | .inMonth month week weekDay =>
    let m := month - 1
    let first := dayOfDate year m 1
    let later := ((weekDay : Int) - (first + 4)) % 7 + 7 * ((week : Int) - 1)
    if later < monthLength year m then first + later else first + later - 7
  | .common n => firstDay year + (n : Int) - 1 + (if isLeap year && 60 ≤ n then 1 else 0)
  | .counted n => firstDay year + n

/-- The instant of a changeover in a year, for a clock at `offset`. -/
def Changeover.instant (c : Changeover) (offset year : Int) : Int :=
  secondsPerDay * c.day.inYear year + c.time - offset

/-- An instant from which an offset holds. -/
structure Turn where
  instant : Int
  offset : Int

/-- The turns of a year, the start of daylight time before its end. -/
def Daylight.turns (d : Daylight) (standard year : Int) : List Turn :=
  [⟨d.starts.instant standard year, d.offset⟩, ⟨d.ends.instant d.offset year, standard⟩]

/-- The latest turn up to the instant `s`; of two at once, the later in the list. -/
def latest (s : Int) (turns : List Turn) : Option Turn :=
  turns.foldl
    (fun found turn =>
      if s < turn.instant then found
      else
        match found with
        | some f => if turn.instant < f.instant then found else some turn
        | none => some turn)
    none

/-- The year that holds an instant. -/
def yearOfSecond (s : Int) : Int := yearOf (s * msPerSecond)

/-- The offset in effect at an instant. A changeover is at most a few days away from the year it
belongs to, so the latest turn belongs to one of four years. -/
def Rules.offsetAt (r : Rules) (s : Int) : Int :=
  match r.daylight with
  | none => r.standard
  | some d =>
    let year := yearOfSecond s
    let turns := [year - 2, year - 1, year, year + 1].flatMap (d.turns r.standard)
    ((latest s turns).map Turn.offset).getD r.standard

/-- The rules of a zone that is always at UTC. -/
def Rules.utc : Rules := ⟨0, none⟩

end ScriptDate.Zone
