import Interpolation.Shell.Format

/-!
# Values of programs for records

A value is a number or a text, and each can be taken for the other. A text that comes from the input
and looks like a number is compared as a number.
-/

namespace Interpolation.Shell.Utility.Awk

inductive Value where
  | unset
  | number (x : Float)
  | text (o : Octets)
  | input (o : Octets)
  deriving Inhabited

def takeFloat? (o : Octets) : Option (Float × Octets) :=
  let (isNegative, unsigned) := match o.dropWhile Octets.isSpace with
    | '-' :: rest => (true, rest)
    | '+' :: rest => (false, rest)
    | rest => (false, rest)
  let lower := (unsigned.take 8).map Char.toLower
  let ofWord := Format.wordReals.findSome? fun (word, x) =>
    if word.toList.isPrefixOf lower then some (x, unsigned.drop word.length) else none
  (ofWord.or (Format.takeReal unsigned)).map fun (x, rest) => (if isNegative then -x else x, rest)

def floatOf (o : Octets) : Float :=
  ((takeFloat? o).map Prod.fst).getD 0

def looksLike? (o : Octets) : Option Float :=
  let ends (c : Char) : Bool := c.isDigit || c == '.'
  let bare := o.dropWhile Octets.isSpace
  let last := (o.reverse.dropWhile Octets.isSpace).head?
  if !(bare.head?.any fun c => ends c || c == '-' || c == '+') || !(last.any ends) then none
  else
    match takeFloat? bare with
    | some (x, rest) => if rest.all Octets.isSpace then some x else none
    | none => none

def whole? (x : Float) : Option Int :=
  if x.floor == x && x.abs ≤ 9223372036854775808 then
    let n := x.abs.toUInt64.toNat
    let n := if x.abs == 9223372036854775808 then Nat.pow 2 63 - 1 else n
    some (if x < 0 then -(n : Int) else n)
  else none

def truncated (x : Float) : Int :=
  if x.isNaN then Octets.least
  else if 9223372036854775808 ≤ x.abs then if x < 0 then -Octets.greatest else Octets.greatest
  else
    let n : Int := x.abs.toUInt64.toNat
    if x < 0 then -n else n

def unsigned (x : Float) : Nat :=
  if 18446744073709551615 ≤ x then Nat.pow 2 64 - 1
  else if x ≤ -18446744073709551615 then 1
  else if 0 ≤ x then x.toUInt64.toNat
  else if -9223372036854775808 < x then Nat.pow 2 64 - (-x).toUInt64.toNat
  else Nat.pow 2 63

def floatText (d : Format.Directive) (x : Float) : Octets :=
  if x.isNaN then d.pad ['-'] (if d.conversion.isUpper then "NAN" else "nan").toList false
  else d.real x

namespace Value

def toFloat : Value → Float
  | unset => 0
  | number x => x
  | text o | input o => floatOf o

def asNumber? : Value → Option Float
  | unset => some 0
  | number x => some x
  | text _ => none
  | input o => looksLike? o

def isTrue (v : Value) : Bool :=
  match v with
  | unset => false
  | number x => x != 0
  | text o => !o.isEmpty
  | input o =>
    match looksLike? o with
    | some x => x != 0
    | none => !o.isEmpty

def ofBool (b : Bool) : Value :=
  number (if b then 1 else 0)

/-- The value of a natural number. -/
def ofNat (n : Nat) : Value :=
  number n.toFloat

end Value

/-! ### Formats -/

/-- Why a format cannot be printed to its end: a value is missing, or a directive is wrong. -/
inductive FormatFault where
  | missing (printed : Octets)
  | improper (printed : Octets) (number : Nat)

def formatFrom (textOf : Value → Octets) :
    Nat → Nat → Octets → List Value → List Octets → Except FormatFault Octets
  | 0, _, _, _, done => .ok done.reverse.flatten
  | _, _, [], _, done => .ok done.reverse.flatten
  | n + 1, count, '%' :: '%' :: rest, values, done =>
    formatFrom textOf n count rest values (['%'] :: done)
  | n + 1, count, '%' :: rest, values, done =>
    let flags := rest.takeWhile "#-+ 0".toList.contains
    let (width, o, values) := starred (rest.drop flags.length) values
    let (precision, o, values) := match o with
      | '.' :: o =>
        let (p, o, values) := starred o values
        (some (p.getD 0), o, values)
      | o => (none, o, values)
    let o := o.dropWhile "hlLq".toList.contains
    match o with
    | [] =>
      .error (if values.isEmpty then .missing done.reverse.flatten
        else .improper done.reverse.flatten (count + 1))
    | c :: after =>
      let width := width.getD 0
      let d : Format.Directive :=
        { text := [], flags, width := width.natAbs, isLeft := flags.contains '-' || width < 0
          precision := precision.bind fun p => if p < 0 then none else some p.toNat
          conversion := c }
      match values with
      | [] => .error (.missing done.reverse.flatten)
      | v :: values =>
        if !"diouxXcseEfFgGaA".toList.contains c then
          .error (.improper done.reverse.flatten (count + 1))
        else
          let text := match c with
            | 'd' =>
              if 9223372036854775808 ≤ v.toFloat then d.signed (unsigned v.toFloat)
              else d.signed (truncated v.toFloat)
            | 'i' => d.signed (truncated v.toFloat)
            | 'o' | 'u' | 'x' | 'X' => d.unsigned (unsigned v.toFloat)
            | 'c' => d.pad [] [character v] false
            | 's' => d.characters (textOf v)
            | _ => floatText d v.toFloat
          formatFrom textOf n (count + 1) after values (text :: done)
  | n + 1, count, c :: rest, values, done =>
    let plain := c :: rest.takeWhile (· != '%')
    formatFrom textOf n count ((c :: rest).drop plain.length) values (plain :: done)
where
  character (v : Value) : Char :=
    let numbered (x : Float) : Char := Char.ofNat (truncated x % 256).toNat
    match v with
    | .number x => numbered x
    | .input o =>
      match looksLike? o with
      | some x => numbered x
      | none => o.headD (Char.ofNat 0)
    | v => (textOf v).headD (Char.ofNat 0)
  starred (o : Octets) (values : List Value) : Option Int × Octets × List Value :=
    match o, values with
    | '*' :: o, v :: values => (some (truncated v.toFloat), o, values)
    | o, values =>
      let (count, n, rest) := Octets.takeDigits 10 o
      (if count = 0 then none else some n, rest, values)

def numberText (format : Octets) (x : Float) : Octets :=
  match whole? x with
  | some n => Text.ofInt n
  | none =>
    match formatFrom (fun _ => []) (format.length + 1) 0 format [.number x] [] with
    | .ok o => o
    | .error _ => []

/-- The text of a value; numbers with places are written by a format. -/
def Value.toText (format : Octets) : Value → Octets
  | unset => []
  | number x => numberText format x
  | text o | input o => o

/-! ### Calculation -/

def floatRemainder (x y : Float) : Float :=
  match whole? x, whole? y with
  | some a, some b =>
    if b = 0 then 0 / 0
    else
      let r := Int.tmod a b
      if r = 0 && x < 0 then -0.0 else Float.ofInt r
  | _, _ =>
    let quotient := x / y
    let whole := if quotient < 0 then quotient.ceil else quotient.floor
    if y.isInf && !x.isInf then x else x - y * whole

end Interpolation.Shell.Utility.Awk
