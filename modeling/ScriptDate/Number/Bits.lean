import ScriptDate.Number.Basic

/-!
# The interchange encoding of numbers

Sixty-four bits: a sign, eleven bits of exponent and fifty-two of fraction. A zero exponent field
is a zero or a subnormal, the largest one an infinity or NaN, and any other stands for a
significand with a hidden leading one.
-/

namespace ScriptDate

namespace Number

/-- The exponent field of the infinities and NaN. -/
def topField : Nat := 2047

/-- The number that a 64-bit word encodes. -/
def ofBits (word : Nat) : Number :=
  let negative := word.testBit 63
  let field := word / hiddenBit % (topField + 1)
  let fraction := word % hiddenBit
  if field = topField then (if fraction = 0 then .infinity negative else .nan)
  else
    let significand : Int := if field = 0 then fraction else (hiddenBit + fraction : Nat)
    let q : Rat := significand * (2 : Rat) ^ ((max field 1 : Nat) - 1075 : Int)
    if q = 0 then zero negative else .finite (if negative then -q else q)

/-- The word that encodes a number; NaN is the quiet one with no payload. -/
def toBits : Number → Nat
  | .nan => topField * hiddenBit + hiddenBit / 2
  | .infinity s => sign s + topField * hiddenBit
  | .negZero => sign true
  | .finite q =>
    let exponent := quantum q
    let significand := (magnitude q / (2 : Rat) ^ exponent).floor.toNat
    let field := if significand < hiddenBit then 0 else (exponent + 1074).toNat
    sign (q < 0) + field * hiddenBit + significand
where
  sign (negative : Bool) : Nat := if negative then 1 <<< 63 else 0

end Number

end ScriptDate
