import ScriptDate.Text.Digits

/-!
# Reading from the front of a text

A reader takes what it reads from the front of a text and gives back the rest, or fails. Digits are
ASCII digits.
-/

namespace ScriptDate.Text

/-- The rest after the character `c`. -/
def char? (c : Char) : List Char → Option (List Char)
  | [] => none
  | d :: rest => if d = c then some rest else none

/-- The number written by the digits in front, at least `least` of them and no more than `most`. -/
def number? (least most : Nat) (cs : List Char) : Option (Nat × List Char) :=
  let ds := (cs.take most).takeWhile Char.isDigit
  if ds.length < least then none else some (ofDigits ds, cs.drop ds.length)

/-- The number written by all the digits in front, at least `least` of them. -/
def numeral? (least : Nat) (cs : List Char) : Option (Nat × List Char) :=
  number? least cs.length cs

/-- The sign in front, as a factor. -/
def sign? : List Char → Option (Int × List Char)
  | '+' :: rest => some (1, rest)
  | '-' :: rest => some (-1, rest)
  | _ => none

/-- The number that makes up the whole text, when it is nothing but digits. -/
def wholeNumber? (cs : List Char) : Option Nat :=
  match numeral? 1 cs with
  | some (n, []) => some n
  | _ => none

/-- The whole number that makes up the whole text, with or without a sign. -/
def wholeInt? (cs : List Char) : Option Int :=
  match sign? cs with
  | some (factor, rest) => (wholeNumber? rest).map fun n => factor * (n : Int)
  | none => (wholeNumber? cs).map fun n => (n : Int)

end ScriptDate.Text
