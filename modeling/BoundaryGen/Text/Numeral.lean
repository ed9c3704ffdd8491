-- Numbers from their digits, and whether a decimal number has a place among
-- the doubles.

namespace BoundaryGen.Text

/-! ## Digits -/

/-- The value of a hexadecimal digit. -/
def hexValue (c : Char) : Option Nat :=
  if '0' ≤ c ∧ c ≤ '9' then some (c.toNat - '0'.toNat)
  else if 'a' ≤ c ∧ c ≤ 'f' then some (c.toNat - 'a'.toNat + 10)
  else if 'A' ≤ c ∧ c ≤ 'F' then some (c.toNat - 'A'.toNat + 10)
  else none

/-- The number that digits write in a base. -/
def digitsValue (base : Nat) (cs : List Char) : Nat :=
  cs.foldl (fun n c => n * base + (hexValue c).getD 0) 0

/-! ## Size -/

/-- Whether `mantissa` times ten to the power `exponent` rounds to a double, and not beyond
the largest one. The first two tests only keep the powers small. -/
def fitsDouble (mantissa : Nat) (exponent : Int) : Bool :=
  let size : Int := (Nat.toDigits 10 mantissa).length + exponent
  if mantissa == 0 || size < 300 then true
  else if size > 320 then false
  else mantissa * Nat.pow 10 exponent.toNat
    < (1 <<< 1024 - 1 <<< 970) * Nat.pow 10 (-exponent).toNat

end BoundaryGen.Text
