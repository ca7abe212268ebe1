import Interpolation.Decimal.Places
import Interpolation.Shell.Escape

/-!
# Formats

A format prints arguments by its directives. It is printed again while it takes arguments and some
are left; arguments that are missing are empty.
-/

namespace Interpolation.Shell.Format

/-- How an argument is printed. -/
structure Directive where
  text : Octets
  flags : List Char := []
  width : Nat := 0
  isLeft : Bool := false
  precision : Option Nat := none
  conversion : Char

/-- What printing has come to. -/
structure Printed where
  output : Octets := []
  complaints : List Octets := []
  left : List Octets := []
  stops : Bool := false
  fault : Option Octets := none

/-- Fill up to the width of a directive; zeros may stand behind a sign. -/
def Directive.pad (d : Directive) (sign body : Octets) (mayFill : Bool) : Octets :=
  let missing := d.width - (sign.length + body.length)
  if d.isLeft then sign ++ body ++ List.replicate missing ' '
  else if mayFill && d.flags.contains '0' then sign ++ List.replicate missing '0' ++ body
  else List.replicate missing ' ' ++ sign ++ body

def Directive.sign (d : Directive) (isNegative : Bool) : Octets :=
  if isNegative then ['-']
  else if d.flags.contains '+' then ['+']
  else if d.flags.contains ' ' then [' ']
  else []

def Directive.digits (d : Directive) (base n : Nat) : Octets :=
  let digits := if n = 0 && d.precision == some 0 then [] else Nat.toDigits base n
  Text.padLeft '0' (d.precision.getD 1) digits

def Directive.signed (d : Directive) (n : Int) : Octets :=
  d.pad (d.sign (n < 0)) (d.digits 10 n.natAbs) d.precision.isNone

def Directive.unsigned (d : Directive) (n : Nat) : Octets :=
  let isAlternate := d.flags.contains '#'
  match d.conversion with
  | 'o' =>
    let digits := d.digits 8 n
    let digits := if isAlternate && digits.head? != some '0' then '0' :: digits else digits
    d.pad [] digits d.precision.isNone
  | 'x' => d.pad (if isAlternate && n != 0 then "0x".toList else []) (d.digits 16 n)
      d.precision.isNone
  | 'X' => d.pad (if isAlternate && n != 0 then "0X".toList else [])
      ((d.digits 16 n).map Char.toUpper) d.precision.isNone
  | _ => d.pad [] (d.digits 10 n) d.precision.isNone

def Directive.real (d : Directive) (x : Float) : Octets :=
  let isNegative := Nat.pow 2 63 ≤ x.toBits.toNat
  let keeps := d.flags.contains '#'
  let places := d.precision.getD 6
  let cased (o : Octets) : Octets := if d.conversion.isUpper then o.map Char.toUpper else o
  if x.isNaN then d.pad (d.sign isNegative) (cased "nan".toList) false
  else if x.isInf then d.pad (d.sign isNegative) (cased "inf".toList) false
  else if d.conversion.toLower = 'a' then
    d.pad (d.sign isNegative ++ cased "0x".toList)
      (cased (Decimal.hexadecimal x d.precision keeps)) true
  else
    let f := Decimal.Fraction.ofFloat x
    let body := match d.conversion.toLower with
      | 'f' => f.fixed places keeps
      | 'e' => f.scientific places keeps
      | _ => f.general places keeps
    d.pad (d.sign isNegative) (cased body) true

def Directive.characters (d : Directive) (o : Octets) : Octets :=
  d.pad [] ((d.precision.map o.take).getD o) false

def incomplete (argument rest : Octets) (found isInRange : Bool) : List Octets :=
  if !found && argument.isEmpty then []
  else if !found then [argument ++ ": expected numeric value".toList]
  else if !rest.isEmpty then [argument ++ ": not completely converted".toList]
  else if !isInRange then [argument ++ ": Numerical result out of range".toList]
  else []

def quoted? : Octets → Option Int
  | c :: rest =>
    if c = '"' || c = '\'' then some ((rest.head?.map Char.toNat).getD 0 : Nat) else none
  | [] => none

def integer (least greatest : Int) (argument : Octets) : Int × List Octets :=
  match quoted? argument with
  | some n => (n, [])
  | none =>
    let (found, n, rest) := Octets.takeInteger argument
    (max least (min greatest n), incomplete argument rest found (least ≤ n && n ≤ greatest))

def takeExponent (letters : List Char) (o : Octets) : Int × Octets :=
  match o with
  | e :: signed =>
    let (sign, unsigned) : Int × Octets := match signed with
      | '-' :: rest => (-1, rest)
      | '+' :: rest => (1, rest)
      | rest => (1, rest)
    let (count, n, after) := Octets.takeDigits 10 unsigned
    if letters.contains e && count != 0 then (sign * n, after) else (0, o)
  | [] => (0, [])

def takeHexadecimal (o : Octets) : Option (Float × Octets) :=
  let (wholeCount, _, rest) := Octets.takeDigits 16 o
  let (placesCount, rest) := match rest with
    | '.' :: behind =>
      let (count, _, after) := Octets.takeDigits 16 behind
      if wholeCount + count = 0 then (0, rest) else (count, after)
    | rest => (0, rest)
  if wholeCount + placesCount = 0 then none
  else
    let digits := (o.take (wholeCount + placesCount + 1)).filter (· != '.')
    let (_, n, _) := Octets.takeDigits 16 (digits.take (wholeCount + placesCount))
    let (exponent, rest) := takeExponent ['p', 'P'] rest
    some ((Float.ofNat n).scaleB (exponent - 4 * placesCount), rest)

def takeDecimal (o : Octets) : Option (Float × Octets) :=
  let whole := o.takeWhile Char.isDigit
  let rest := o.drop whole.length
  let places := match rest with
    | '.' :: rest => rest.takeWhile Char.isDigit
    | _ => []
  let hasPoint := rest.head? == some '.' && !(whole.isEmpty && places.isEmpty)
  let rest := if hasPoint then rest.drop (places.length + 1) else rest
  if whole.isEmpty && places.isEmpty then none
  else
    let (exponent, rest) := takeExponent ['e', 'E'] rest
    let (_, digits, _) := Octets.takeDigits 10 (whole ++ places)
    some (Decimal.nearest ⟨digits, exponent - places.length⟩, rest)

def takeReal (o : Octets) : Option (Float × Octets) :=
  match o with
  | '0' :: x :: rest =>
    if x == 'x' || x == 'X' then (takeHexadecimal rest).or (takeDecimal o) else takeDecimal o
  | o => takeDecimal o

def wordReals : List (String × Float) :=
  [("infinity", 1 / 0), ("inf", 1 / 0), ("nan", 0 / 0)]

def double (argument : Octets) : Float × List Octets :=
  match quoted? argument with
  | some n => (Float.ofInt n, [])
  | none =>
    let (isNegative, unsigned) := match argument.dropWhile Octets.isSpace with
      | '-' :: rest => (true, rest)
      | '+' :: rest => (false, rest)
      | rest => (false, rest)
    let lower := unsigned.map Char.toLower
    let ofWord := wordReals.findSome? fun (word, x) =>
      (word.toList.isPrefixOf? lower).map fun rest => (x, rest)
    match ofWord.or (takeReal unsigned) with
    | some (x, rest) => (if isNegative then -x else x, incomplete argument rest true true)
    | none => (0, incomplete argument argument false true)

def conversions : List Char :=
  "diouxXaAeEfFgGscb".toList

def Directive.print (d : Directive) (arguments : List Octets) : Printed :=
  let argument := arguments.head?.getD []
  let left := arguments.tail
  match d.conversion with
  | 's' => { output := d.characters argument, left }
  | 'c' =>
    { output := d.pad [] [argument.head?.getD (Char.ofNat 0)] false, left }
  | 'b' =>
    let (text, stops) := Escape.text argument
    { output := d.characters text, left, stops }
  | 'd' | 'i' =>
    let (n, complaints) := integer Octets.least Octets.greatest argument
    { output := d.signed n, complaints, left }
  | 'o' | 'u' | 'x' | 'X' =>
    let most : Int := Nat.pow 2 64 - 1
    let (n, complaints) := integer (-most - 1) (most + 1) argument
    let n := if n.natAbs ≤ most.natAbs then n else most
    { output := d.unsigned (n % Nat.pow 2 64).toNat, complaints, left }
  | _ =>
    let (x, complaints) := double argument
    { output := d.real x, complaints, left }

def narrow (n : Int) : Int :=
  (n + Nat.pow 2 31) % Nat.pow 2 32 - Nat.pow 2 31

def number (o : Octets) (arguments : List Octets) :
    Option Int × List Octets × Octets × List Octets :=
  match o with
  | '*' :: rest =>
    let (n, complaints) := integer Octets.least Octets.greatest (arguments.head?.getD [])
    (some (narrow n), complaints, rest, arguments.tail)
  | _ =>
    let (count, n, rest) := Octets.takeDigits 10 o
    (if count = 0 then none else some n, [], rest, arguments)

structure Reading where
  directive : Option Directive
  complaints : List Octets
  rest : Octets
  arguments : List Octets

def readDirective (o : Octets) (arguments : List Octets) : Reading :=
  let flags := o.takeWhile "#-+ 0".toList.contains
  let (width, first, rest, arguments) := number (o.drop flags.length) arguments
  let (precision, second, rest, arguments) := match rest with
    | '.' :: rest =>
      let (n, complaints, rest, arguments) := number rest arguments
      (some (n.getD 0), complaints, rest, arguments)
    | rest => (none, [], rest, arguments)
  let width := width.getD 0
  let directive := rest.head?.map fun conversion =>
    { text := '%' :: o.take (o.length - rest.length + 1)
      flags, width := width.natAbs, isLeft := flags.contains '-' || width < 0
      precision := precision.bind fun n => if n < 0 then none else some n.toNat
      conversion }
  ⟨directive, first ++ second, rest.tail, arguments⟩

def Printed.after (p : Printed) (output : Octets) (complaints : List Octets) : Printed :=
  { p with output := output ++ p.output, complaints := complaints ++ p.complaints }

def once : Nat → Octets → List Octets → Printed
  | 0, _, arguments => { left := arguments }
  | _, [], arguments => { left := arguments }
  | n + 1, '\\' :: rest, arguments =>
    let (text, rest) := Escape.inFormat rest
    (once n rest arguments).after text []
  | n + 1, '%' :: '%' :: rest, arguments => (once n rest arguments).after ['%'] []
  | n + 1, '%' :: rest, arguments =>
    let r := readDirective rest arguments
    match r.directive with
    | none =>
      { stops := true, complaints := r.complaints
        fault := some "missing format character".toList }
    | some d =>
      if !conversions.contains d.conversion then
        { stops := true, complaints := r.complaints
          fault := some (d.text ++ ": invalid directive".toList) }
      else
        let first := d.print r.arguments
        let complaints := r.complaints ++ first.complaints
        if first.stops then { first with complaints }
        else (once n r.rest first.left).after first.output complaints
  | n + 1, c :: rest, arguments => (once n rest arguments).after [c] []

def repeated (format : Octets) : Nat → List Octets → Printed
  | 0, arguments => { left := arguments }
  | times + 1, arguments =>
    let p := once (format.length + 1) format arguments
    if p.stops || p.left.isEmpty || p.left.length = arguments.length then p
    else (repeated format times p.left).after p.output p.complaints

def print (format : Octets) (arguments : List Octets) : Printed :=
  repeated format (arguments.length + 1) arguments

end Interpolation.Shell.Format
