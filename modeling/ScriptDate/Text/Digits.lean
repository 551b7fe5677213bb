/-!
# Decimal digits

Writing a natural number in ASCII digits, padded on the left to a width if asked, and reading
digits back.
-/

namespace ScriptDate.Text

/-- The digit for the last decimal place of `n`. -/
def digit (n : Nat) : Char := Char.ofNat ('0'.toNat + n % 10)

/-- The decimal digits of `n`, the most significant first, and a single zero for zero. -/
def digits (n : Nat) : List Char :=
  if n < 10 then [digit n] else digits (n / 10) ++ [digit n]

/-- `text` with enough of `fill` before it to make `width` characters. -/
def padLeft (fill : Char) (width : Nat) (text : List Char) : List Char :=
  List.replicate (width - text.length) fill ++ text

/-- The digits of `n`, with leading zeros up to `width` characters. -/
def padded (width n : Nat) : List Char := padLeft '0' width (digits n)

/-- The digits of a whole number after its sign, which only a negative one has. -/
def signed (n : Int) : List Char :=
  if n < 0 then '-' :: digits n.natAbs else digits n.natAbs

/-- The number that `ds` writes, when all of it are digits. -/
def ofDigits (ds : List Char) : Nat := ds.foldl (fun n c => 10 * n + (c.toNat - '0'.toNat)) 0

end ScriptDate.Text
