import ScriptDate.Number.Basic
import ScriptDate.Text.Digits

/-!
# Numbers in decimal

The text of a number has the fewest digits that round back to it. The reals that round to a
positive value of the format are an interval around it, with its ends when the significand is
even. On each decimal grid, from one digit on, only the value's two neighbours can be nearest to
it; the first grid with a neighbour in the interval gives the digits. A value midway between two
such neighbours takes the upper one.
-/

namespace ScriptDate

namespace Number

/-! ## Shortest digits -/

/-- `digits * 10 ^ exponent`. -/
structure Decimal where
  digits : Nat
  exponent : Int

/-- The exponent `p` with `10 ^ p ≤ q < 10 ^ (p + 1)`, for a positive `q`. -/
def decade (q : Rat) : Int :=
  let n := q.num.natAbs
  if q.den ≤ n then (Text.digits (n / q.den)).length - 1
  else -(Text.digits ((q.den - 1) / n)).length

/-- Whether the decimal value `x` rounds to the positive value `q`. -/
def readsAs (q x : Rat) : Bool :=
  let unit : Rat := 2 ^ quantum q
  let significand := (q / unit).num
  let low :=
    if significand = hiddenBit && -1074 < quantum q then q - unit / 4
    else q - unit / 2
  let high := q + unit / 2
  if significand % 2 = 0 then low ≤ x && x ≤ high else low < x && x < high

/-- The neighbour of `q` on the grid of `count` digits that reads back as `q`, if one does. -/
def onGrid (q : Rat) (count : Nat) : Option Decimal :=
  let exponent := decade q - (count : Int) + 1
  let unit : Rat := 10 ^ exponent
  let below := (q / unit).floor
  let low : Rat := below * unit
  let high : Rat := (below + 1) * unit
  let chosen :=
    match readsAs q low, readsAs q high with
    | true, true => if q - low < high - q then some below else some (below + 1)
    | true, false => some below
    | false, true => some (below + 1)
    | false, false => none
  chosen.map fun d =>
    if count = 1 && d = 10 then ⟨1, exponent + 1⟩ else ⟨d.toNat, exponent⟩

/-- The decimal of fewest digits that reads back as the positive value `q`; seventeen always do. -/
def shortest (q : Rat) : Decimal :=
  ((List.range 17).findSome? fun k => onGrid q (k + 1)).getD ⟨0, 0⟩

/-! ## Layouts -/

/-- A decimal written out with its places in full: zeros up to the point, and after the point no
more than its digits. -/
def positional (d : Decimal) : List Char :=
  let ds := Text.digits d.digits
  if 0 ≤ d.exponent then ds ++ List.replicate d.exponent.toNat '0'
  else
    let places := d.exponent.natAbs
    if places < ds.length then
      ds.take (ds.length - places) ++ '.' :: ds.drop (ds.length - places)
    else '0' :: '.' :: (List.replicate (places - ds.length) '0' ++ ds)

/-- A decimal as one digit, the others after a point, and a power of ten. -/
def scientific (d : Decimal) : List Char :=
  let ds := Text.digits d.digits
  let exponent := d.exponent + (ds.length : Int) - 1
  let tail := ds.drop 1
  ds.take 1 ++ (if tail.isEmpty then [] else '.' :: tail) ++ 'e' :: Text.signed exponent

/-- The text with its sign, of which `body` gives the part for a positive value. -/
def withSign (body : Rat → List Char) (zeroText : List Char) : Number → List Char
  | .nan => "NaN".toList
  | .infinity s => if s then "-inf".toList else "inf".toList
  | .negZero => '-' :: zeroText
  | .finite q => if q = 0 then zeroText else if q < 0 then '-' :: body (-q) else body q

/-- The plain text: never an exponent, and a point only before a fraction. -/
def plainText : Number → List Char :=
  withSign (fun q => positional (shortest q)) ['0']

/-- The text that shows a fraction in any case: an exponent from `1e16` on and below `1e-4`, and
otherwise a point, with a zero after it when there is no fraction. -/
def pointedText : Number → List Char :=
  withSign
    (fun q =>
      if 10000000000000000 ≤ q || q < 1 / 10000 then scientific (shortest q)
      else
        let text := positional (shortest q)
        if text.contains '.' then text else text ++ ".0".toList)
    "0.0".toList

end Number

end ScriptDate
