import ScriptDate.Calendar.Names
import ScriptDate.Date.Basic

/-!
# Dates in text

The texts of a date are laid out from the fields of one time. Years have at least four digits; in
the ISO layout a year outside 0 to 9999 has a sign and six. An offset is shown in whole minutes.
-/

namespace ScriptDate

open Text

namespace Calendar.CivilTime

def weekDayName (f : CivilTime) : List Char := (weekDayNames.getD f.weekDay.toNat "").toList

def monthName (f : CivilTime) : List Char := (monthNames.getD f.month "").toList

/-- The year in four digits or more, after a minus sign when it is negative. -/
def yearText (f : CivilTime) : List Char :=
  if f.year < 0 then '-' :: padded 4 f.year.natAbs else padded 4 f.year.natAbs

/-- The year in four digits, or in six after its sign. -/
def isoYear (f : CivilTime) : List Char :=
  if 0 ≤ f.year && f.year ≤ 9999 then padded 4 f.year.natAbs
  else (if f.year < 0 then '-' else '+') :: padded 6 f.year.natAbs

/-- Hours, minutes and seconds. -/
def clock (f : CivilTime) : List Char :=
  padded 2 f.hour.toNat ++ ':' :: padded 2 f.minute.toNat ++ ':' :: padded 2 f.second.toNat

/-- Weekday, month, day and year. -/
def dateText (f : CivilTime) : List Char :=
  f.weekDayName ++ ' ' :: f.monthName ++ ' ' :: padded 2 f.date.toNat ++ ' ' :: f.yearText

/-- Weekday, month and day, the day filled with a space. -/
def localeDay (f : CivilTime) : List Char :=
  f.weekDayName ++ ' ' :: f.monthName ++ ' ' :: padLeft ' ' 2 (digits f.date.toNat)

def localeText (f : CivilTime) : List Char :=
  f.localeDay ++ ' ' :: f.clock ++ ' ' :: f.yearText

def localeDate (f : CivilTime) : List Char := f.localeDay ++ ' ' :: f.yearText

def utcText (f : CivilTime) : List Char :=
  f.weekDayName ++ ", ".toList ++ padded 2 f.date.toNat ++ ' ' :: f.monthName ++ ' ' ::
    f.yearText ++ ' ' :: f.clock ++ " GMT".toList

def isoText (f : CivilTime) : List Char :=
  f.isoYear ++ '-' :: padded 2 (f.month + 1) ++ '-' :: padded 2 f.date.toNat ++ 'T' ::
    f.clock ++ '.' :: padded 3 f.ms.toNat ++ ['Z']

end Calendar.CivilTime

/-- An offset in milliseconds as hours and minutes; a part of a minute is dropped. -/
def zoneText (offset : Int) : List Char :=
  let minutes := offset.tdiv Calendar.msPerMinute
  "GMT".toList ++ (if minutes < 0 then '-' else '+') ::
    padded 2 (minutes.natAbs / 60) ++ padded 2 (minutes.natAbs % 60)

namespace Date

open Calendar

/-- The text of an invalid date. -/
def invalidText : String := "Invalid Date"

/-- A text of the local fields. -/
def localText (d : Date) (layout : CivilTime → List Char) : String :=
  match d.localTime? with
  | some t => String.ofList (layout (.ofTime t))
  | none => invalidText

/-- The offset in effect at the date. -/
def zoneOffset (d : Date) : Int := d.zone.offsetAt d.timeValue

def toDateString (d : Date) : String := d.localText CivilTime.dateText

def toTimeString (d : Date) : String :=
  d.localText fun f => f.clock ++ ' ' :: zoneText d.zoneOffset

/-- Date, time and offset. -/
def toString (d : Date) : String :=
  d.localText fun f => f.dateText ++ ' ' :: f.clock ++ ' ' :: zoneText d.zoneOffset

def toLocaleString (d : Date) : String := d.localText CivilTime.localeText

def toLocaleDateString (d : Date) : String := d.localText CivilTime.localeDate

def toLocaleTimeString (d : Date) : String := d.localText CivilTime.clock

def toUTCString (d : Date) : String :=
  match d.utcTime? with
  | some t => String.ofList (CivilTime.ofTime t).utcText
  | none => invalidText

/-- The place named by the error for a date that has no ISO text. -/
def isoSite : CallSite := ⟨"toISOString", "Date", 0⟩

/-- The ISO text in UTC; an invalid date has none. -/
def toISOString (d : Date) : Except Failure String :=
  match d.utcTime? with
  | some t => .ok (String.ofList (CivilTime.ofTime t).isoText)
  | none => .error (.range "Invalid time value" isoSite)

/-- The ISO text where there is one. -/
def toJSON (d : Date) : Option String := d.toISOString.toOption

end Date

end ScriptDate
