import Interpolation.Reader
import Interpolation.Value

/-!
# JSON documents

A document is one value with blanks around it. Whole numbers of 64 bits stay whole, any other number
becomes a double: as many of its leading digits as fit into 64 bits are rounded to a double, which
is then scaled once by a power of ten. Lists and tables nest at most 127 deep.
-/

namespace Interpolation.Json

def isSpace (c : Char) : Bool :=
  c == ' ' || c == '\n' || c == '\t' || c == '\r'

def space : Reader Unit :=
  Reader.skipWhile isSpace

structure Numeral where
  negative : Bool
  whole : List Nat
  fraction : Option (List Nat)
  exponent : Option (Bool × List Nat)

/-- Read an exponent: whether it is negative, and its digits. -/
def exponent : Reader (Bool × List Nat) := do
  let _ ← Reader.satisfy fun c => c == 'e' || c == 'E'
  let sign ← optional (Reader.satisfy fun c => c == '+' || c == '-')
  let digits ← Reader.digits1
  pure (sign == some '-', digits)

def announced {α : Type} (first : Char → Bool) (r : Reader α) : Reader (Option α) := do
  match ← Reader.peek? with
  | some c => if first c then some <$> r else pure none
  | none => pure none

/-- Read a number. A leading zero stands alone. -/
def numeral : Reader Numeral := do
  let sign ← optional (Reader.char '-')
  let whole ← Reader.digits1
  Reader.ensure (whole.head? != some 0 || whole.length == 1)
  let fraction ← announced (· == '.') do
    Reader.char '.'
    Reader.digits1
  let exponent ← announced (fun c => c == 'e' || c == 'E') exponent
  pure ⟨sign.isSome, whole, fraction, exponent⟩

/-- Append digits while the number fits into 64 bits: the number and how many digits were left. -/
def absorb (significand : Nat) : List Nat → Nat × Nat
  | [] => (significand, 0)
  | d :: digits =>
    if 10 * significand + d < Nat.pow 2 64 then absorb (10 * significand + d) digits
    else (significand, digits.length + 1)

def powerOfTen (n : Nat) : Float :=
  Float.ofScientific 1 false n

def scaleDown (x : Float) (n : Nat) : Float :=
  if h : 308 < n then
    if x == 0 then x else scaleDown (x / powerOfTen 308) (n - 308)
  else x / powerOfTen n
termination_by n
decreasing_by omega

/-- Multiply by a power of ten; a result beyond the doubles is refused. -/
def scaleUp (x : Float) (n : Nat) : Option Float :=
  if 308 < n then if x == 0 then some x else none
  else
    let y := x * powerOfTen n
    if y.isInf then none else some y

def scale (significand : Nat) (exponent : Int) : Option Float :=
  let x := Float.ofScientific significand false 0
  match exponent with
  | .ofNat n => scaleUp x n
  | .negSucc n => some (scaleDown x (n + 1))

def Numeral.toNumber? (n : Numeral) : Option Number :=
  let (significand, left) := absorb 0 n.whole
  let (significand, shift) : Nat × Int := match n.fraction with
    | none => (significand, left)
    | some digits =>
      let (s, unread) := absorb significand digits
      (s, (left : Int) - (digits.length - unread : Nat))
  let signed (x : Float) : Number := .real (if n.negative then -x else x)
  match n.fraction, n.exponent, left with
  | none, none, 0 =>
    if n.negative then
      if significand = 0 || Nat.pow 2 63 < significand then
        some (signed (Float.ofScientific significand false 0))
      else some (.whole (-significand))
    else some (.whole significand)
  | _, none, _ => (scale significand shift).map signed
  | _, some (negative, digits), _ =>
    let size : Nat := digits.foldl (fun e d => 10 * e + d) 0
    if Nat.pow 2 31 ≤ size then
      if significand = 0 || negative then some (signed 0) else none
    else (scale significand (if negative then shift - size else shift + size)).map signed

/-- The value of a hexadecimal digit. -/
def hexValue? (c : Char) : Option Nat :=
  if c.isDigit then some (c.toNat - '0'.toNat)
  else if 'a' ≤ c ∧ c ≤ 'f' then some (c.toNat - 'a'.toNat + 10)
  else if 'A' ≤ c ∧ c ≤ 'F' then some (c.toNat - 'A'.toNat + 10)
  else none

def hexDigit : Reader Nat := do
  let c ← Reader.satisfy fun c => (hexValue? c).isSome
  pure ((hexValue? c).getD 0)

def hexNumber : Nat → Reader Nat
  | 0 => pure 0
  | digits + 1 => do
    let high ← hexDigit
    let low ← hexNumber digits
    pure (high * Nat.pow 16 digits + low)

/-- Read an escaped code point; the halves of a pair come together. -/
def escapedPoint : Reader Char := do
  let first ← hexNumber 4
  if first < 0xD800 || 0xE000 ≤ first then pure (Char.ofNat first)
  else
    Reader.ensure (first < 0xDC00)
    Reader.word "\\u"
    let second ← hexNumber 4
    Reader.ensure (0xDC00 ≤ second && second < 0xE000)
    pure (Char.ofNat (0x10000 + (first - 0xD800) * 0x400 + (second - 0xDC00)))

def escape : Reader Char := do
  match ← Reader.satisfy fun _ => true with
  | '"' => pure '"'
  | '\\' => pure '\\'
  | '/' => pure '/'
  | 'b' => pure (Char.ofNat 8)
  | 'f' => pure (Char.ofNat 12)
  | 'n' => pure '\n'
  | 'r' => pure '\r'
  | 't' => pure '\t'
  | 'u' => escapedPoint
  | _ => failure

def quotedChar : Reader Char := do
  match ← Reader.satisfy fun c => c != '"' && 32 ≤ c.toNat with
  | '\\' => escape
  | c => pure c

def quoted : Reader Text := do
  Reader.char '"'
  let t ← Reader.many quotedChar
  Reader.char '"'
  pure t

def comma : Reader Unit := do
  space
  Reader.char ','
  space

def enclosed {α : Type} (opening closing : Char) (item : Reader α) : Reader (List α) := do
  Reader.char opening
  space
  let items ← Reader.separated comma item <|> pure []
  space
  Reader.char closing
  pure items

def entry (value : Reader Value) : Reader (Text × Value) := do
  let key ← quoted
  space
  Reader.char ':'
  space
  let v ← value
  pure (key, v)

def atom : Reader Value := do
  match ← Reader.peek? with
  | some '"' => .text <$> quoted
  | some 'n' => do Reader.word "null"; pure .null
  | some 't' => do Reader.word "true"; pure (.boolean true)
  | some 'f' => do Reader.word "false"; pure (.boolean false)
  | _ =>
    match (← numeral).toNumber? with
    | some n => pure (.number n)
    | none => failure

def value : Nat → Reader Value
  | 0 => atom
  | depth + 1 => do
    match ← Reader.peek? with
    | some '[' => .list <$> enclosed '[' ']' (value depth)
    | some '{' =>
      (fun entries => .table (Table.ofList entries)) <$> enclosed '{' '}' (entry (value depth))
    | _ => atom

def greatestDepth : Nat := 127

def spaced {α : Type} (r : Reader α) : Reader α := do
  space
  let a ← r
  space
  pure a

/-- The value of a document. -/
def read? (t : Text) : Option Value :=
  (spaced (value greatestDepth)).whole? t

/-! ## Values that are passed over

A value that nobody asks for has to be well formed, but it may nest at any depth, its numbers may be
out of any range, and its escapes need not come in pairs.
-/

def skipChar : Reader Unit := do
  match ← Reader.satisfy fun c => c != '"' && 32 ≤ c.toNat with
  | '\\' =>
    match ← Reader.satisfy fun c => "\"\\/bfnrtu".toList.contains c with
    | 'u' => let _ ← hexNumber 4
    | _ => pure ()
  | _ => pure ()

def skipQuoted : Reader Unit := do
  Reader.char '"'
  let _ ← Reader.many skipChar
  Reader.char '"'

def skipAtom : Reader Unit := do
  match ← Reader.peek? with
  | some '"' => skipQuoted
  | some 'n' => Reader.word "null"
  | some 't' => Reader.word "true"
  | some 'f' => Reader.word "false"
  | _ => let _ ← numeral

def skipValue : Nat → Reader Unit
  | 0 => skipAtom
  | depth + 1 => do
    match ← Reader.peek? with
    | some '[' => let _ ← enclosed '[' ']' (skipValue depth)
    | some '{' =>
      let _ ← enclosed '{' '}' do
        skipQuoted
        space
        Reader.char ':'
        space
        skipValue depth
    | _ => skipAtom

/-- Read an entry of a table: its value if the entry is under a key, and nothing otherwise. -/
def entryUnder (key : Text) : Reader (Option Value) := do
  let found ← quoted
  space
  Reader.char ':'
  space
  if found = key then some <$> value (greatestDepth - 1)
  else
    let left ← Reader.ahead
    skipValue left.length
    pure none

def readUnder? (key : Text) (t : Text) : Option (List Value) :=
  ((spaced (enclosed '{' '}' (entryUnder key))).whole? t).map fun found => found.filterMap id

end Interpolation.Json
