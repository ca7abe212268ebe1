import Interpolation.Text

/-!
# The shortest decimal of a binary fraction

A double stands for an interval of reals that round to it. Its decimal is the one with the fewest
digits inside that interval, and among those the one nearest to the double; of two equally near ones
the even one is taken.
-/

structure Interpolation.Decimal where
  digits : Nat
  exponent : Int
  deriving DecidableEq, Repr

namespace Interpolation.Decimal

/-- A positive binary fraction `mantissa` · 2 ^ `exponent`. At the lower end of a binade the
neighbour below is only half as far away as the one above. -/
structure Binary where
  mantissa : Nat
  exponent : Int
  lowerEnd : Bool
  deriving DecidableEq, Repr

structure Interval where
  least : Nat
  value : Nat
  greatest : Nat
  denominator : Nat
  ends : Bool

/-- The interval of the reals that round to a binary fraction. An even mantissa owns the ends. -/
def Binary.interval (b : Binary) : Interval :=
  let scale := Nat.pow 2 (b.exponent - 2).toNat
  { least := (4 * b.mantissa - (if b.lowerEnd then 1 else 2)) * scale
    value := 4 * b.mantissa * scale
    greatest := (4 * b.mantissa + 2) * scale
    denominator := Nat.pow 2 (2 - b.exponent).toNat
    ends := b.mantissa % 2 == 0 }

def Interval.holds (i : Interval) (d : Decimal) : Bool :=
  let point := d.digits * Nat.pow 10 d.exponent.toNat * i.denominator
  let scale := Nat.pow 10 (-d.exponent).toNat
  if i.ends then i.least * scale ≤ point && point ≤ i.greatest * scale
  else i.least * scale < point && point < i.greatest * scale

/-- The number of decimal digits of a positive number. -/
def width (n : Nat) : Nat :=
  (Nat.toDigits 10 n).length

def Interval.magnitude (i : Interval) : Int :=
  if i.denominator ≤ i.value then (width (i.value / i.denominator) : Int) - 1
  else -(width ((i.denominator + i.value - 1) / i.value - 1) : Int)

def Interval.onGrid? (i : Interval) (exponent : Int) : Option Decimal :=
  let numerator := i.value * Nat.pow 10 (-exponent).toNat
  let unit := i.denominator * Nat.pow 10 exponent.toNat
  let below : Decimal := ⟨numerator / unit, exponent⟩
  let above : Decimal := ⟨numerator / unit + 1, exponent⟩
  let twice := 2 * (numerator % unit)
  let preferBelow := twice < unit || (twice == unit && below.digits % 2 == 0)
  match i.holds below && 0 < below.digits, i.holds above with
  | true, true => some (if preferBelow then below else above)
  | true, false => some below
  | false, true => some above
  | false, false => none

def Interval.search (i : Interval) (digits : Nat) : Nat → Decimal
  | 0 => ⟨i.value / i.denominator, 0⟩
  | tries + 1 =>
    match i.onGrid? (i.magnitude + 1 - digits) with
    | some d => d
    | none => i.search (digits + 1) tries

def shortest (b : Binary) : Decimal :=
  b.interval.search 1 17

def Binary.ofBits (bits : Nat) : Binary :=
  let fraction := bits % Nat.pow 2 52
  let stored := (bits / Nat.pow 2 52) % Nat.pow 2 11
  if stored = 0 then ⟨fraction, -1074, false⟩
  else ⟨Nat.pow 2 52 + fraction, Int.ofNat stored - 1075, fraction == 0 && decide (1 < stored)⟩

def stripZeros : Nat → Decimal → Decimal
  | 0, d => d
  | tries + 1, d =>
    if d.digits % 10 = 0 then stripZeros tries ⟨d.digits / 10, d.exponent + 1⟩ else d

/-- How a decimal is laid out: from which power of ten on, and below which, with an exponent. -/
structure Layout where
  greatestPlain : Int
  leastPlain : Int

/-- The text of a positive decimal: plain with at least one place, or one digit before the point and
a signed exponent. -/
def Layout.text (layout : Layout) (d : Decimal) : Text :=
  let d := d.stripZeros (width d.digits)
  let digits := Text.ofNat d.digits
  let first := d.exponent + digits.length - 1
  if first < layout.leastPlain || layout.greatestPlain < first then
    let mantissa := match digits with
      | [] => []
      | [c] => [c]
      | c :: rest => c :: '.' :: rest
    let sign := if first < 0 then '-' else '+'
    mantissa ++ 'e' :: sign :: Text.ofNat first.natAbs
  else if first < 0 then
    '0' :: '.' :: (List.replicate (-first - 1).toNat '0' ++ digits)
  else
    let whole := first.toNat + 1
    if digits.length ≤ whole then
      digits ++ List.replicate (whole - digits.length) '0' ++ ['.', '0']
    else digits.take whole ++ '.' :: digits.drop whole

/-- The text of a finite double in a layout; both zeros are written, and the sign comes first. -/
def Layout.ofFloat (layout : Layout) (x : Float) : Text :=
  let bits := x.toBits.toNat
  let magnitude := bits % Nat.pow 2 63
  let text :=
    if magnitude = 0 then ['0', '.', '0'] else layout.text (shortest (Binary.ofBits magnitude))
  if bits < Nat.pow 2 63 then text else '-' :: text

end Interpolation.Decimal
