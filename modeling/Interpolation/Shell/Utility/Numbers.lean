import Interpolation.Shell.Real
import Interpolation.Shell.Utility.Options

/-!
# Utilities for numbers

These utilities print rows of numbers, the prime factors of numbers, and numbers with units.
-/

namespace Interpolation.Shell.Utility

/-! ### Rows -/

structure RowNumber where
  value : Option (Int × Nat)
  isNegative : Bool := false
  width : Int := 0
  places : Option Nat

def rowShape (o : Octets) : Int × Nat :=
  let isExponent (c : Char) : Bool := c == 'e' || c == 'E'
  let mantissa := o.takeWhile fun c => !isExponent c
  let length : Int := o.length
  let (fraction, width, hasPoint) : Nat × Int × Bool := match Text.cutFirst '.' mantissa with
    | some (before, after) =>
      let isBare := !(before.getLast?.any Char.isDigit)
      (after.length, length + (if after.isEmpty then -1 else if isBare then 1 else 0), true)
    | none => (0, length, false)
  match o.drop mantissa.length with
  | [] => (width, fraction)
  | _ :: exponent =>
    let exponent := (Octets.takeInteger exponent).2.1
    let width := width - (length - mantissa.length)
    if exponent < 0 then
      let isUndone := if hasPoint then mantissa.getLast? == some '.' else true
      (width + (if isUndone then 1 else 0) - exponent, fraction + exponent.natAbs)
    else
      let places := fraction - exponent.toNat
      let width := if hasPoint && places = 0 && fraction != 0 then width - 1 else width
      (width + max 0 (exponent - fraction), places)

def rowNumber? (o : Octets) : Option RowNumber := do
  let o := o.dropWhile fun c => Octets.isSpace c || c == '+'
  match Real.decimal? o with
  | some value =>
    let (width, places) := rowShape o
    some { value, width, places }
  | none =>
    let (x, rest) ← Real.take? o
    if !rest.isEmpty then none
    else some { value := x.value?, isNegative := x.isNegative, places := some 0 }

def fixedText (n : Int × Nat) (places : Nat) : Octets :=
  let text := (Decimal.Fraction.mk n.1.natAbs n.2).fixed places false
  if n.1 < 0 then '-' :: text else text

def rowFormat (format : Octets) : Except Octets (Octets × Format.Directive × Octets) :=
  let plain (o : Octets) : Nat → Octets × Octets := fun n => go n [] o
  let (before, rest) := plain format format.length
  let named := "format ".toList ++ quote format
  match rest with
  | [] => .error (named ++ " has no % directive".toList)
  | _ :: rest =>
    let flags := rest.takeWhile "-+#0 '".toList.contains
    let (_, width, rest) := Octets.takeDigits 10 (rest.drop flags.length)
    let (precision, rest) := match rest with
      | '.' :: rest =>
        let (_, n, rest) := Octets.takeDigits 10 rest
        (some n, rest)
      | rest => (none, rest)
    let rest := if rest.head? == some 'L' then rest.tail else rest
    match rest with
    | [] => .error (named ++ " ends in %".toList)
    | c :: rest =>
      if !"efgaEFGA".toList.contains c then
        .error (named ++ " has unknown %".toList ++ c :: " directive".toList)
      else
        let (after, more) := plain rest rest.length
        if !more.isEmpty then .error (named ++ " has too many % directives".toList)
        else
          let d : Format.Directive :=
            { text := [], flags, width, isLeft := flags.contains '-', precision, conversion := c }
          .ok (before, d, after)
where
  go : Nat → Octets → Octets → Octets × Octets
    | 0, done, rest => (done.reverse, rest)
    | n + 1, done, '%' :: '%' :: rest => go n ('%' :: done) rest
    | n + 1, done, c :: rest =>
      if c == '%' then (done.reverse, c :: rest) else go n (c :: done) rest
    | _ + 1, done, [] => (done.reverse, [])

structure Row where
  first : Int × Nat
  step : Int × Nat
  last : Option (Int × Nat)
  written : Int × Nat → Octets
  separator : Octets

def Row.number? (r : Row) (i : Nat) : Option (Int × Nat) :=
  let n : Int := r.first.1 * r.step.2 + i * r.step.1 * r.first.2
  let d := r.first.2 * r.step.2
  match r.last with
  | none => some (n, d)
  | some last =>
    let isBeyond := if 0 < r.step.1 then last.1 * d < n * last.2 else n * last.2 < last.1 * d
    if isBeyond then none else some (n, d)

def Row.print (r : Row) : Exec Unit := do
  let stretch : Nat := 500
  Exec.loop (fun (start : Nat) => do
    let numbers := (List.range stretch).filterMap fun i => r.number? (start + i)
    let texts := numbers.map r.written
    let lead := if start = 0 || texts.isEmpty then [] else r.separator
    Exec.print (lead ++ r.separator.intercalate texts)
    if numbers.length < stretch then
      if start + numbers.length != 0 then Exec.print ['\n']
      return .inr ()
    else if (← Exec.ask Process.lost).isSome then return .inr ()
    else return .inl (start + stretch)) 0

def seqKnown : Known :=
  { name := "seq", letters := "f:s:w", anywhere := false, hasNumbers := true
    words := [("format", 'f'), ("separator", 's'), ("equal-width", 'w')] }

def seq : Utility :=
  withOperands seqKnown "missing operand" fun _ found operands => do
    if let _ :: _ :: _ :: extra :: _ := operands then return ← tooMany seqKnown extra
    let isNan (w : Octets) : Bool := match Real.take? w with
      | some ({ magnitude := .nan, .. }, []) => true
      | _ => false
    if let some wrong := operands.find? fun w => isNan w || (rowNumber? w).isNone then
      let kind := if isNan wrong then "invalid 'not-a-number' argument: "
        else "invalid floating point argument: "
      return ← misuse seqKnown (kind.toList ++ quote wrong)
    let one : RowNumber := { value := some (1, 1), width := 1, places := some 0 }
    let (first, step, last) := match operands.filterMap rowNumber? with
      | [last] => (one, one, last)
      | [first, last] => (first, one, last)
      | first :: step :: last :: _ => (first, step, last)
      | [] => (one, one, one)
    if step.value.any fun (n, _) => n = 0 then
      return ← misuse seqKnown
        ("invalid Zero increment value: ".toList ++ quote (operands.getD 1 []))
    let format? ← match argument? found 'f' with
      | none => pure none
      | some format =>
        match rowFormat format with
        | .error complaint => return ← refuse "seq" complaint
        | .ok format => pure (some format)
    if format?.isSome && has found 'w' then
      return ← misuse seqKnown
        "format string may not be specified when printing equal width strings".toList
    let places := max (first.places.getD 0) (step.places.getD 0)
    let point (n : RowNumber) : Int := if n.places == some 0 && places != 0 then 1 else 0
    let lastPlaces := last.places.getD 0
    let firstWidth := first.width + (places - first.places.getD 0 : Int) + point first
    let lastWidth := last.width + (places - lastPlaces : Int) + point last -
      (if lastPlaces != 0 && places = 0 then 1 else 0)
    let width := if has found 'w' then (max firstWidth lastWidth).toNat else 0
    let fill (t : Octets) : Octets := match t with
      | '-' :: rest => '-' :: Text.padLeft '0' (width - 1) rest
      | rest => Text.padLeft '0' width rest
    let written (n : Int × Nat) : Octets := match format? with
      | some (before, d, after) =>
        let x : Real := ⟨n.1 < 0, .finite (Real.kept ⟨n.1.natAbs, n.2⟩)⟩
        before ++ x.text d ++ after
      | none => fill (fixedText n places)
    match first.value, step.value with
    | some start, some increment =>
      let isEmpty := last.value.isNone && (last.isNegative == decide (0 < increment.1))
      let row : Row :=
        { first := start, step := increment
          last := last.value
          written, separator := (argument? found 's').getD ['\n'] }
      if !isEmpty then row.print
      return 0
    | some start, none =>
      Exec.printLine (written start)
      return 0
    | none, _ => return 0

/-! ### Factors -/

def powerMod (modulus base exponent : Nat) : Nat :=
  (Nat.toDigits 2 exponent).foldl (fun r bit =>
    let square := r * r % modulus
    if bit == '1' then square * base % modulus else square) 1

def passes (n base : Nat) : Bool :=
  let twos := ((List.range (n.log2 + 1)).find? fun i => (n - 1) / Nat.pow 2 i % 2 = 1).getD 0
  let start := powerMod n (base % n) ((n - 1) / Nat.pow 2 twos)
  base % n = 0 || start = 1 ||
    (List.range twos).any fun i => powerMod n start (Nat.pow 2 i) = n - 1

def smallPrimes : List Nat :=
  [2, 3, 5, 7, 11, 13, 17, 19, 23, 29, 31, 37]

def isPrime (n : Nat) : Bool :=
  2 ≤ n && (smallPrimes.contains n ||
    (smallPrimes.all fun p => n % p != 0) && smallPrimes.all (passes n))

def meeting (n step : Nat) : Nat → Nat → Nat → Option Nat
  | 0, _, _ => none
  | fuel + 1, slow, fast =>
    let next (x : Nat) : Nat := (x * x + step) % n
    let slow := next slow
    let fast := next (next fast)
    let d := Nat.gcd (max slow fast - min slow fast) n
    if d = 1 then meeting n step fuel slow fast
    else if d = n then none
    else some d

def primeFactors : Nat → Nat → List Nat
  | 0, n => [n]
  | depth + 1, n =>
    if n < 2 then []
    else if isPrime n then [n]
    else
      match (2 :: 3 :: 5 :: (List.range 200).map fun i => 2 * i + 7).find? fun p => n % p = 0 with
      | some p => p :: primeFactors depth (n / p)
      | none =>
        match (List.range 20).findSome? fun step => meeting n (step + 1) 2000000 2 2 with
        | some d => primeFactors depth d ++ primeFactors depth (n / d)
        | none => [n]

/-- Print the prime factors of numbers. -/
def factor : Utility :=
  withOptions { name := "factor" } fun _ _ operands => do
    let words ← if operands.isEmpty then do
        match ← content ['-'] with
        | .ok text => pure ((text.splitOnP Octets.isBlank).filter fun w => !w.isEmpty)
        | .error _ => pure []
      else pure operands
    forAll words fun w => do
      let digits := (w.dropWhile fun c => c == ' ')
      let digits := if digits.head? == some '+' then digits.tail else digits
      match Octets.natural? digits with
      | none =>
        complain "factor" (quote w ++ " is not a valid positive integer".toList)
        return false
      | some n =>
        let factors := (primeFactors 1000 n).mergeSort (· ≤ ·)
        Exec.printLine (Text.ofNat n ++ ':' :: factors.flatMap fun p => ' ' :: Text.ofNat p)
        return true

end Interpolation.Shell.Utility
