import Interpolation.Decimal.Nearest

/-!
# Decimals with a number of places

A fraction is rounded to the nearest decimal with a given number of places or of digits; a tie goes
to the even one. The places are filled up with zeros.
-/

namespace Interpolation.Decimal

/-- A fraction of whole numbers that is not below zero. -/
structure Fraction where
  numerator : Nat
  denominator : Nat

def Fraction.ofFloat (x : Float) : Fraction :=
  let b := Binary.ofBits (x.toBits.toNat % Nat.pow 2 63)
  ⟨b.mantissa * Nat.pow 2 b.exponent.toNat, Nat.pow 2 (-b.exponent).toNat⟩

namespace Fraction

def roundTo (f : Fraction) (exponent : Int) : Nat :=
  let numerator := f.numerator * Nat.pow 10 (-exponent).toNat
  let unit := f.denominator * Nat.pow 10 exponent.toNat
  let below := numerator / unit
  let twice := 2 * (numerator % unit)
  if twice < unit || (twice == unit && below % 2 == 0) then below else below + 1

/-- The power of ten of the first digit; zero for zero. -/
def magnitude (f : Fraction) : Int :=
  if f.numerator = 0 then 0
  else
    let guess : Int := (width f.numerator : Int) - width f.denominator
    let reaches (e : Int) : Bool :=
      f.denominator * Nat.pow 10 e.toNat ≤ f.numerator * Nat.pow 10 (-e).toNat
    if reaches guess then guess else guess - 1

def pointed (places : Nat) (keepsPoint : Bool) (digits : Text) : Text :=
  let digits := Text.padLeft '0' (places + 1) digits
  let whole := digits.take (digits.length - places)
  whole ++ (if places = 0 && !keepsPoint then [] else '.' :: digits.drop (digits.length - places))

def fixed (f : Fraction) (places : Nat) (keepsPoint : Bool) : Text :=
  pointed places keepsPoint (Text.ofNat (f.roundTo (-places)))

def rounded (f : Fraction) (places : Nat) : Nat × Int :=
  let first := f.magnitude
  let digits := f.roundTo (first - places)
  if width digits = places + 2 then (digits / 10, first + 1) else (digits, first)

def scientific (f : Fraction) (places : Nat) (keepsPoint : Bool) : Text :=
  let (digits, first) := f.rounded places
  let sign := if first < 0 then '-' else '+'
  pointed places keepsPoint (Text.ofNat digits) ++
    'e' :: sign :: Text.padLeft '0' 2 (Text.ofNat first.natAbs)

def dropZeros (t : Text) : Text :=
  let mantissa := t.takeWhile (· != 'e')
  let mantissa :=
    if mantissa.contains '.' then Text.dropTrailing '.' (Text.dropTrailing '0' mantissa)
    else mantissa
  mantissa ++ t.dropWhile (· != 'e')

/-- The text with a number of digits, in whichever of the two ways is shorter. -/
def general (f : Fraction) (digits : Nat) (keepsZeros : Bool) : Text :=
  let digits := max digits 1
  let (_, first) := f.rounded (digits - 1)
  let text :=
    if -4 ≤ first && first < digits then f.fixed (digits - 1 - first).toNat keepsZeros
    else f.scientific (digits - 1) keepsZeros
  if keepsZeros then text else dropZeros text

end Fraction

/-- The hexadecimal digits of the mantissa of a finite double and the exponent of two behind them:
as many places as asked for, or as are needed. A tie goes to the even digit. -/
def hexadecimal (x : Float) (places : Option Nat) (keepsPoint : Bool) : Text :=
  let bits := x.toBits.toNat % Nat.pow 2 63
  let field : Nat := bits / Nat.pow 2 52
  let low : Nat := bits % Nat.pow 2 52
  let exponent : Int := if bits = 0 then 0 else if field = 0 then -1022 else (field : Int) - 1023
  let mantissa := (if field = 0 then 0 else Nat.pow 2 52) + low
  let rounded := match places with
    | some n =>
      if 13 ≤ n then mantissa * Nat.pow 16 (n - 13)
      else
        let unit := Nat.pow 16 (13 - n)
        let below := mantissa / unit
        let twice := 2 * (mantissa % unit)
        if twice < unit || (twice == unit && below % 2 == 0) then below else below + 1
    | none => mantissa
  let digits := Fraction.pointed (places.getD 13) keepsPoint (Nat.toDigits 16 rounded)
  let digits :=
    if places.isNone then
      let bare := Text.dropTrailing '0' digits
      if keepsPoint then bare else Text.dropTrailing '.' bare
    else digits
  digits ++ 'p' :: (if exponent < 0 then '-' else '+') :: Text.ofNat exponent.natAbs

end Interpolation.Decimal
