import ScriptDate.Reading.Moment
import ScriptDate.Text.Blank

/-!
# Dates by pattern

A pattern is a row of fields and characters that a text must follow to its end. Blanks before a
number do not matter, a number may be shorter than its field, and a year with a sign may be longer.
-/

namespace ScriptDate.Reading

open Text

/-- A field of two digits. -/
inductive ShortField where
  | month
  | date
  | hour
  | minute
  | second
  deriving DecidableEq

/-- An item of a pattern. -/
inductive Item where
  /-- A character, as it is. -/
  | char (c : Char)
  /-- Any blanks, or none. -/
  | blanks
  | year
  | short (field : ShortField)
  /-- A fraction of a second, if a point begins one. -/
  | fraction
  deriving DecidableEq

/-- A year of up to four digits, or of any number after a sign. -/
def patternYear? (cs : List Char) : Option (Int × List Char) :=
  match sign? cs with
  | some (factor, rest) => (numeral? 1 rest).map fun (n, rest) => (factor * (n : Int), rest)
  | none => (number? 1 4 cs).map fun (n, rest) => ((n : Int), rest)

/-- The parts with one short field set. -/
def Parts.setShort (p : Parts) (n : Nat) : ShortField → Parts
  | .month => { p with month := n }
  | .date => { p with date := n }
  | .hour => { p with hour := n }
  | .minute => { p with minute := n }
  | .second => { p with second := n }

/-- Reads one item from the front of a text into the parts. -/
def Item.read? (p : Parts) (cs : List Char) : Item → Option (Parts × List Char)
  | .char c => (char? c cs).map (p, ·)
  | .blanks => some (p, trimStart cs)
  | .year => (patternYear? (trimStart cs)).map fun (y, rest) => ({ p with year := y }, rest)
  | .short field =>
    (number? 1 2 (trimStart cs)).map fun (n, rest) => (p.setShort n field, rest)
  | .fraction => (fraction? cs).map fun (ms, rest) => ({ p with ms := ms }, rest)

/-- Reads a whole text by a pattern. -/
def patternParts? : List Item → Parts → List Char → Option Parts
  | [], p, cs => if cs.isEmpty then some p else none
  | item :: items, p, cs => do
    let (p, rest) ← item.read? p cs
    patternParts? items p rest

/-- The moment that a text gives by a pattern. -/
def patternMoment? (items : List Item) (cs : List Char) : Option Moment := do
  (← patternParts? items {} cs).moment?

/-! ## The patterns that dates are read by -/

namespace Pattern

/-- Year, month and day, apart by `c`. -/
def yearFirst (c : Char) : List Item :=
  [.year, .char c, .short .month, .char c, .short .date]

/-- Month, day and year, apart by slashes. -/
def monthFirst : List Item :=
  [.short .month, .char '/', .short .date, .char '/', .year]

/-- Hour and minute. -/
def clock : List Item := [.short .hour, .char ':', .short .minute]

/-- Hour, minute and second. -/
def fullClock : List Item := clock ++ [.char ':', .short .second]

/-- The ISO form with seconds and perhaps a fraction. -/
def iso : List Item := yearFirst '-' ++ .char 'T' :: fullClock ++ [.fraction]

/-- The forms of a date and time in UTC, in the order they are tried. The first one reads all that
the second does. -/
def utcForms : List (List Item) :=
  [iso ++ [.char 'Z'], yearFirst '-' ++ .char 'T' :: fullClock ++ [.char 'Z']]

/-- The forms of a local date and time, in the order they are tried. -/
def localForms : List (List Item) :=
  [iso, yearFirst '-' ++ .char 'T' :: clock, yearFirst '-' ++ .blanks :: fullClock,
    yearFirst '/' ++ .blanks :: fullClock, monthFirst ++ .blanks :: fullClock]

end Pattern

end ScriptDate.Reading
