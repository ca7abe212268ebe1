import Interpolation.Shell.Format

/-!
# Numbers with fractions

Some utilities read decimal and hexadecimal fractions and keep 64 binary digits of them, which is
more than a double has. A tie goes to the even neighbour.
-/

namespace Interpolation.Shell

open Decimal (Fraction)

/-- How far a number is from zero. -/
inductive Magnitude where
  | finite (f : Fraction)
  | infinity
  | nan

/-- A number with a sign. -/
structure Real where
  isNegative : Bool := false
  magnitude : Magnitude

namespace Real

def mostPower : Int :=
  4933

def divideEven (numerator denominator : Nat) : Nat :=
  let below := numerator / denominator
  let twice := 2 * (numerator % denominator)
  if twice < denominator || (twice == denominator && below % 2 == 0) then below else below + 1

def binary (f : Fraction) : Nat × Int :=
  if f.numerator = 0 then (0, 0)
  else
    let guess : Int := (f.numerator.log2 : Int) - f.denominator.log2 - 63
    let scaled (power : Int) : Nat :=
      divideEven (f.numerator * Nat.pow 2 (-power).toNat) (f.denominator * Nat.pow 2 power.toNat)
    let floor (power : Int) : Nat :=
      f.numerator * Nat.pow 2 (-power).toNat / (f.denominator * Nat.pow 2 power.toNat)
    let power := if floor guess < Nat.pow 2 63 then guess - 1 else guess
    let n := scaled power
    if n = Nat.pow 2 64 then (Nat.pow 2 63, power + 1) else (n, power)

def kept (f : Fraction) : Fraction :=
  let (n, power) := binary f
  ⟨n * Nat.pow 2 power.toNat, Nat.pow 2 (-power).toNat⟩

def ofDecimal (digits : Nat) (power : Int) : Magnitude :=
  let top := power + Decimal.width digits
  if digits = 0 || top < -5000 then .finite ⟨0, 1⟩
  else if mostPower < top then .infinity
  else .finite (kept ⟨digits * Nat.pow 10 power.toNat, Nat.pow 10 (-power).toNat⟩)

def takePointed (base : Nat) (o : Octets) : Option (Nat × Nat × Octets) :=
  let (wholeCount, whole, rest) := Octets.takeDigits base o
  match rest with
  | '.' :: behind =>
    let (count, _, after) := Octets.takeDigits base behind
    if wholeCount + count = 0 then none
    else
      let digits := o.take wholeCount ++ behind.take count
      some ((Octets.takeDigits base digits).2.1, count, after)
  | rest => if wholeCount = 0 then none else some (whole, 0, rest)

def takeUnsigned? (o : Octets) : Option (Magnitude × Octets) :=
  let decimal : Option (Magnitude × Octets) := (takePointed 10 o).map fun (n, places, rest) =>
    let (power, rest) := Format.takeExponent ['e', 'E'] rest
    (ofDecimal n (power - places), rest)
  match o with
  | '0' :: x :: rest =>
    let hexadecimal := if x == 'x' || x == 'X' then takePointed 16 rest else none
    match hexadecimal with
    | some (n, places, rest) =>
      let (power, rest) := Format.takeExponent ['p', 'P'] rest
      let power := power - 4 * places
      if n != 0 && 16400 < power then some (.infinity, rest)
      else some (.finite (kept ⟨n * Nat.pow 2 power.toNat, Nat.pow 2 (-(max power (-20000))).toNat⟩), rest)
    | none => decimal
  | _ => decimal

def decimal? (o : Octets) : Option (Int × Nat) := do
  let (isNegative, unsigned) := match o.dropWhile Octets.isSpace with
    | '-' :: rest => (true, rest)
    | '+' :: rest => (false, rest)
    | rest => (false, rest)
  let (n, places, rest) ← takePointed 10 unsigned
  let (power, rest) := Format.takeExponent ['e', 'E'] rest
  let power := power - places
  if !rest.isEmpty || 10000 < power.natAbs then none
  else
    let n : Int := n * Nat.pow 10 power.toNat
    some (if isNegative then -n else n, Nat.pow 10 (-power).toNat)

def words : List (String × Magnitude) :=
  [("infinity", .infinity), ("inf", .infinity), ("nan", .nan)]

/-- Take a number behind white space; the result also has the rest. -/
def take? (o : Octets) : Option (Real × Octets) :=
  let (isNegative, unsigned) := match o.dropWhile Octets.isSpace with
    | '-' :: rest => (true, rest)
    | '+' :: rest => (false, rest)
    | rest => (false, rest)
  let lower := unsigned.map Char.toLower
  let ofWord : Option (Magnitude × Octets) := words.findSome? fun (word, m) =>
    if word.toList.isPrefixOf lower then some (m, unsigned.drop word.length) else none
  (ofWord.or (takeUnsigned? unsigned)).map fun (magnitude, rest) =>
    ({ isNegative, magnitude }, rest)

def value? (x : Real) : Option (Int × Nat) :=
  match x.magnitude with
  | .finite f => some (if x.isNegative then -(f.numerator : Int) else f.numerator, f.denominator)
  | _ => none

def hexadecimal (f : Fraction) (places : Option Nat) (keepsPoint : Bool) : Octets :=
  let (n, power) := binary f
  let (n, power) : Nat × Int := if n = 0 then (0, -60) else (n, power)
  let rounded := match places with
    | some p => if 15 ≤ p then n * Nat.pow 16 (p - 15) else divideEven n (Nat.pow 16 (15 - p))
    | none => n
  let digits := Fraction.pointed (places.getD 15) keepsPoint (Nat.toDigits 16 rounded)
  let digits :=
    if places.isNone then
      let bare := Text.dropTrailing '0' digits
      if keepsPoint then bare else Text.dropTrailing '.' bare
    else digits
  let power := power + 60
  digits ++ 'p' :: (if power < 0 then '-' else '+') :: Text.ofNat power.natAbs

def text (x : Real) (d : Format.Directive) : Octets :=
  let keeps := d.flags.contains '#'
  let places := d.precision.getD 6
  let cased (o : Octets) : Octets := if d.conversion.isUpper then o.map Char.toUpper else o
  match x.magnitude with
  | .nan => d.pad (d.sign x.isNegative) (cased "nan".toList) false
  | .infinity => d.pad (d.sign x.isNegative) (cased "inf".toList) false
  | .finite f =>
    match d.conversion.toLower with
    | 'a' =>
      d.pad (d.sign x.isNegative ++ cased "0x".toList) (cased (hexadecimal f d.precision keeps))
        true
    | 'f' => d.pad (d.sign x.isNegative) (f.fixed places keeps) true
    | 'e' => d.pad (d.sign x.isNegative) (cased (f.scientific places keeps)) true
    | _ => d.pad (d.sign x.isNegative) (cased (f.general places keeps)) true

end Real

end Interpolation.Shell
