import Interpolation.Text.Utf8

/-!
# Bytes of a shell

A shell and its commands work on bytes, most of which are ASCII characters. A byte is written as the
character of its number.
-/

namespace Interpolation.Shell

/-- Bytes, each as the character of its number. -/
abbrev Octets := List Char

namespace Octets

def ofBytes (bytes : List UInt8) : Octets :=
  bytes.map fun b => Char.ofNat b.toNat

def toBytes (o : Octets) : List UInt8 :=
  o.map fun c => UInt8.ofNat c.toNat

def ofText (t : Text) : Octets :=
  ofBytes (Utf8.encode t)

def toText (o : Octets) : Text :=
  Utf8.decodeLossy (toBytes o)

/-- Whether a character is a blank of the shell: a space, a tab or a line feed. -/
def isBlank (c : Char) : Bool :=
  c == ' ' || c == '\t' || c == '\n'

/-- Whether a character is white space: a blank, or one of the three characters that move down or
back. -/
def isSpace (c : Char) : Bool :=
  isBlank c || c == '\r' || c == Char.ofNat 11 || c == Char.ofNat 12

def beginsName (c : Char) : Bool :=
  c.isAlpha || c == '_'

def isNameChar (c : Char) : Bool :=
  c.isAlphanum || c == '_'

def isName : Octets → Bool
  | [] => false
  | c :: rest => beginsName c && rest.all isNameChar

def digit? (base : Nat) (c : Char) : Option Nat :=
  let n :=
    if c.isDigit then c.toNat - '0'.toNat
    else if c.isLower then c.toNat - 'a'.toNat + 10
    else if c.isUpper then c.toNat - 'A'.toNat + 10
    else base
  if n < base then some n else none

/-- The digits of a base at the front: how many they are, their number, and the rest. -/
def takeDigits (base : Nat) (o : Octets) : Nat × Nat × Octets :=
  let digits := o.takeWhile fun c => (digit? base c).isSome
  (digits.length, digits.foldl (fun n c => base * n + (digit? base c).getD 0) 0,
    o.drop digits.length)

/-- The largest number that the shell counts with. -/
def greatest : Int :=
  9223372036854775807

/-- The smallest number that the shell counts with. -/
def least : Int :=
  -9223372036854775808

def clamp (n : Int) : Int :=
  max least (min greatest n)

def takeUnsigned (o : Octets) : Bool × Nat × Octets :=
  match o with
  | '0' :: x :: h :: rest =>
    if (x == 'x' || x == 'X') && (digit? 16 h).isSome then
      let (_, n, rest) := takeDigits 16 (h :: rest)
      (true, n, rest)
    else
      let (_, n, rest) := takeDigits 8 o
      (true, n, rest)
  | '0' :: _ =>
    let (_, n, rest) := takeDigits 8 o
    (true, n, rest)
  | _ =>
    let (count, n, rest) := takeDigits 10 o
    (count != 0, n, rest)

/-- A number at the front, behind white space and a sign: whether there is one, the number before
any bound, and the rest. -/
def takeInteger (o : Octets) : Bool × Int × Octets :=
  let signed := o.dropWhile isSpace
  let (negative, unsigned) := match signed with
    | '-' :: rest => (true, rest)
    | '+' :: rest => (false, rest)
    | rest => (false, rest)
  let (found, n, rest) := takeUnsigned unsigned
  if found then (true, if negative then -(n : Int) else n, rest) else (false, 0, o)

/-- A decimal number and nothing else. -/
def natural? (o : Octets) : Option Nat :=
  Text.digits? o

/-- A whole number with white space around it and a sign before it. -/
def integer? (o : Octets) : Option Int :=
  let trimmed := ((o.dropWhile isSpace).reverse.dropWhile isSpace).reverse
  match trimmed with
  | '-' :: rest => (Text.digits? rest).map fun n => -(n : Int)
  | '+' :: rest => (Text.digits? rest).map Int.ofNat
  | rest => (Text.digits? rest).map Int.ofNat

/-- Lists of a size, of which the last one may be shorter, at most a number of them. -/
def grouped {α : Type} (size : Nat) : Nat → List α → List (List α)
  | 0, _ => []
  | _, [] => []
  | n + 1, all => all.take size :: grouped size n (all.drop size)

def spaced (pieces : List Octets) : Octets :=
  [' '].intercalate pieces

/-- The lines of bytes, each with its line feed; the last one may lack it. -/
def linesWithEnds : Octets → List Octets
  | [] => []
  | c :: rest =>
    if c = '\n' then ['\n'] :: linesWithEnds rest
    else
      match linesWithEnds rest with
      | line :: lines => (c :: line) :: lines
      | [] => [[c]]

def lines (o : Octets) : List Octets :=
  (linesWithEnds o).map fun line => if line.getLast? == some '\n' then line.dropLast else line

def ofLines (lines : List Octets) : Octets :=
  lines.flatMap fun line => line ++ ['\n']

def before : Octets → Octets → Bool
  | _, [] => false
  | [], _ :: _ => true
  | a :: as, b :: bs => a.toNat < b.toNat || (a == b && before as bs)

end Octets

end Interpolation.Shell
