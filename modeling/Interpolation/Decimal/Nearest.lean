import Interpolation.Decimal.Shortest

/-!
# The double nearest to a decimal

A decimal of any length is rounded once. Far outside the range of the doubles the answer is known
without the digits.
-/

namespace Interpolation.Decimal

/-- The number that a run of digits writes. -/
def valueOfDigits (digits : List Nat) : Nat :=
  digits.foldl (fun n d => 10 * n + d) 0

/-- The double nearest to a decimal. -/
def nearest (d : Decimal) : Float :=
  let top := d.exponent + width d.digits
  if d.digits = 0 || top < -330 then 0
  else if 310 < top then 1 / 0
  else
    match d.exponent with
    | .ofNat n => Float.ofScientific d.digits false n
    | .negSucc n => Float.ofScientific d.digits true (n + 1)

end Interpolation.Decimal
