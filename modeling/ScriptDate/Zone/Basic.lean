import ScriptDate.Calendar.Span
import ScriptDate.Number.Decimal
import ScriptDate.Journal
import ScriptDate.Zone.Rules

/-!
# Zones and local time

A zone is the host's, with its rules, or a fixed offset under a day. The local time of an instant
adds the offset in effect there. Back from a local time, the offsets a day before and a day after
it are the two that can be meant: a repeated local time is the earlier instant, and one that a
forward changeover skips is read with the offset before it.
-/

namespace ScriptDate

open Calendar

/-- An offset east of UTC in seconds, under a day. -/
structure FixedOffset where
  seconds : Int
  under_a_day : seconds.natAbs < 86400
  deriving DecidableEq

/-- The zone in which the local fields of a date are read. -/
inductive Zone where
  | host (rules : Zone.Rules)
  | fixed (offset : FixedOffset)
  deriving DecidableEq

namespace Zone

def utc : Zone := .fixed ⟨0, by decide⟩

/-- The offset east of UTC in milliseconds at a time value. The host's rules apply in the span of
read dates, and elsewhere its zone is at UTC. -/
def offsetAt : Zone → Number → Int
  | .fixed offset, _ => offset.seconds * msPerSecond
  | .host rules, t =>
    if t.isFinite && timeInSpan t.toInt then rules.offsetAt (t.toInt / msPerSecond) * msPerSecond
    else 0

/-- The local time of a time value. -/
def toLocal (zone : Zone) (t : Number) : Number := t + Number.ofInt (zone.offsetAt t)

/-- The instant taken for a local time, and whether no instant has that local time. -/
structure Resolution where
  instant : Number
  inGap : Bool

/-- The instant for a local time under an offset that depends on the instant. -/
def resolve (offsetAt : Number → Int) (l : Number) : Resolution :=
  if l.isFinite then
    let before := offsetAt (l - Number.ofInt msPerDay)
    let after := offsetAt (l + Number.ofInt msPerDay)
    let earlier := l - Number.ofInt before
    if before = after then ⟨earlier, false⟩
    else
      let later := l - Number.ofInt after
      if (earlier + Number.ofInt (offsetAt earlier)).equals l then ⟨earlier, false⟩
      else if (later + Number.ofInt (offsetAt later)).equals l then ⟨later, false⟩
      else ⟨earlier, true⟩
  else ⟨.nan, false⟩

/-- The time value of a local time. -/
def toUTC (zone : Zone) (l : Number) : Number := (resolve zone.offsetAt l).instant

/-- What the log says of a local time that no instant has. -/
def gapRecord (l : Number) : LogRecord :=
  ⟨.trace, "local time ".toList ++ l.plainText ++ " falls in a transition gap".toList⟩

/-- The time value of a local time; a gap goes to the log. -/
def readLocal (zone : Zone) (l : Number) : Logged Number :=
  let resolution := resolve zone.offsetAt l
  ⟨resolution.instant, if resolution.inGap then [gapRecord l] else []⟩

@[simp] theorem value_readLocal (zone : Zone) (l : Number) :
    (zone.readLocal l).value = zone.toUTC l := rfl

end Zone

end ScriptDate
