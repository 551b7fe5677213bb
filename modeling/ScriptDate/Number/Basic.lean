/-!
# Numbers as scripts have them

A script's number is a binary64 value. A finite one is held as its exact rational value, so an
operation is the exact operation on rationals followed by one `Number.round`, which takes the
nearest value of the format and, of two equally near, the one with the even significand. The two
zeros are apart, because a result of zero keeps a sign.
-/

namespace ScriptDate

/-- A binary64 value. -/
inductive Number where
  | nan
  | infinity (negative : Bool)
  | negZero
  | finite (value : Rat)
  deriving DecidableEq

namespace Number

/-! ## Rounding -/

/-- The whole number nearest to `q`; a half goes to the even neighbour. -/
def nearestEven (q : Rat) : Int :=
  let below := q.floor
  let part := q - below
  if part < 1 / 2 then below else if 1 / 2 < part then below + 1 else below + below % 2

/-- The magnitude of `q`. -/
def magnitude (q : Rat) : Rat := if q < 0 then -q else q

/-- The exponent `e` with `2 ^ e ≤ |q| < 2 ^ (e + 1)`, for `q` other than zero. -/
def binade (q : Rat) : Int :=
  let e : Int := (q.num.natAbs.log2 : Int) - (q.den.log2 : Int)
  if (2 : Rat) ^ e ≤ magnitude q then e else e - 1

/-- The exponent of the spacing of the format's values around `q`: 53 significant bits, and
never finer than the least subnormal. -/
def quantum (q : Rat) : Int := max (binade q - 52) (-1074)

/-- The leading one of a full significand, which the encoding leaves out. -/
def hiddenBit : Nat := 1 <<< 52

/-- Zero with the sign asked for. -/
def zero (negative : Bool) : Number := if negative then .negZero else .finite 0

/-- The value of the format nearest to `q`. Past the largest finite value that is an infinity, and
below half the least subnormal a zero; both take the sign of `q`. -/
def round (q : Rat) : Number :=
  let unit : Rat := 2 ^ quantum q
  let r := nearestEven (q / unit) * unit
  if r = 0 then zero (q < 0)
  else if (2 : Rat) ^ (1024 : Int) ≤ magnitude r then .infinity (q < 0)
  else .finite r

/-- The number nearest to a whole number. -/
def ofInt (n : Int) : Number := round n

instance {n : Nat} : OfNat Number n := ⟨ofInt n⟩

/-! ## Views -/

/-- Neither NaN nor an infinity. -/
def isFinite : Number → Bool
  | .nan | .infinity _ => false
  | .negZero | .finite _ => true

def isNaN : Number → Bool
  | .nan => true
  | _ => false

/-- The sign bit; NaN counts as positive. -/
def isNegative : Number → Bool
  | .nan => false
  | .infinity s => s
  | .negZero => true
  | .finite q => q < 0

/-- The value of a finite number, and zero for the rest. -/
def value : Number → Rat
  | .finite q => q
  | _ => 0

def isZero (x : Number) : Bool := x.isFinite && x.value = 0

/-- The whole number at or below a finite number. -/
def toInt (x : Number) : Int := x.value.floor

/-! ## Arithmetic -/

def neg : Number → Number
  | .nan => .nan
  | .infinity s => .infinity (!s)
  | .negZero => .finite 0
  | .finite q => if q = 0 then .negZero else .finite (-q)

/-- Infinities of unlike sign cancel to NaN, and only two negative zeros sum to one. -/
def add : Number → Number → Number
  | .nan, _ | _, .nan => .nan
  | .infinity s, .infinity t => if s = t then .infinity s else .nan
  | .infinity s, _ | _, .infinity s => .infinity s
  | .negZero, .negZero => .negZero
  | x, y => round (x.value + y.value)

def sub (x y : Number) : Number := add x y.neg

/-- The sign of a product is negative when exactly one factor is, also for zeros and infinities. -/
def mul (x y : Number) : Number :=
  if x.isNaN || y.isNaN then .nan
  else
    let negative := x.isNegative != y.isNegative
    if x.isFinite && y.isFinite then
      if x.value * y.value = 0 then zero negative else round (x.value * y.value)
    else if x.isZero || y.isZero then .nan
    else .infinity negative

/-- A zero divided by a zero, or an infinity by an infinity, is NaN. -/
def div (x y : Number) : Number :=
  if x.isNaN || y.isNaN then .nan
  else
    let negative := x.isNegative != y.isNegative
    match x.isFinite, y.isFinite with
    | false, false => .nan
    | false, true => .infinity negative
    | true, false => zero negative
    | true, true =>
      if y.value = 0 then (if x.value = 0 then .nan else .infinity negative)
      else if x.value = 0 then zero negative
      else round (x.value / y.value)

instance : Neg Number := ⟨neg⟩
instance : Add Number := ⟨add⟩
instance : Sub Number := ⟨sub⟩
instance : Mul Number := ⟨mul⟩
instance : Div Number := ⟨div⟩

/-- The greatest whole number not above; a negative zero stays one. -/
def floor : Number → Number
  | .finite q => .finite q.floor
  | x => x

/-- The whole part, toward zero; a negative number above -1 leaves a negative zero. -/
def trunc : Number → Number
  | .finite q =>
    if q < 0 then (if -1 < q then .negZero else .finite (-(-q).floor)) else .finite q.floor
  | x => x

def abs : Number → Number
  | .infinity _ => .infinity false
  | .negZero => .finite 0
  | .finite q => .finite (magnitude q)
  | .nan => .nan

/-! ## Comparison -/

/-- Strictly below; never true of NaN. -/
def lt : Number → Number → Bool
  | .nan, _ | _, .nan => false
  | .infinity s, .infinity t => s && !t
  | .infinity s, _ => s
  | _, .infinity t => !t
  | x, y => x.value < y.value

/-- Equal as numbers: the two zeros are, and NaN equals nothing. -/
def equals : Number → Number → Bool
  | .nan, _ | _, .nan => false
  | .infinity s, .infinity t => s == t
  | .infinity _, _ | _, .infinity _ => false
  | x, y => x.value = y.value

/-! ## Whole numbers -/

/-- The whole number at or below the quotient of two whole numbers, which is rounded first. -/
def quotient (k n : Int) : Int := (ofInt k / ofInt n).toInt

/-- The remainder of `k` by `n` for a positive `n`, at least zero as a value; an exact multiple
below zero leaves the negative zero. -/
def remainder (k n : Int) : Number :=
  if k % n = 0 then zero (k < 0) else ofInt (k % n)

end Number

end ScriptDate
