import Interpolation.Text

/-!
# Places in a YAML document

A place counts the bytes, the lines and the columns before it. Lines end with a line feed or with
one of the two separators of Unicode; the other line ends are written as line feeds before a
document is read.
-/

namespace Interpolation.Yaml

def isAllowed (c : Char) : Bool :=
  let n := c.toNat
  c == '\t' || c == '\n' || c == '\r' || (0x20 ≤ n && n ≤ 0x7E) || n == 0x85 ||
    (0xA0 ≤ n && n ≤ 0xFFFD) || 0x10000 ≤ n

def unifyBreaks : Text → Text
  | '\r' :: '\n' :: t => '\n' :: unifyBreaks t
  | '\r' :: t => '\n' :: unifyBreaks t
  | c :: t => (if c.toNat = 0x85 then '\n' else c) :: unifyBreaks t
  | [] => []

def isBlank (c : Char) : Bool :=
  c == ' ' || c == '\t'

def isBreak (c : Char) : Bool :=
  c == '\n' || c.toNat == 0x2028 || c.toNat == 0x2029

def isOrderMark (c : Char) : Bool :=
  c.toNat == 0xFEFF

def atLineEnd : Text → Bool
  | [] => true
  | c :: _ => isBreak c

/-- Whether a text begins with a blank or is at the end of a line. -/
def isSpaced : Text → Bool
  | [] => true
  | c :: _ => isBlank c || isBreak c

def isWordChar (c : Char) : Bool :=
  c.isAlphanum || c == '_' || c == '-'

/-- A place in a document. -/
structure Place where
  bytes : Nat := 0
  line : Nat := 0
  column : Nat := 0
  deriving DecidableEq, Repr

namespace Place

def next (p : Place) (c : Char) : Place :=
  if isBreak c then ⟨p.bytes + c.utf8Size, p.line + 1, 0⟩
  else ⟨p.bytes + c.utf8Size, p.line, p.column + 1⟩

def behind (p : Place) (t : Text) : Place :=
  t.foldl next p

end Place

def isMark (mark : Char) (p : Place) (t : Text) : Bool :=
  match p.column, t with
  | 0, a :: b :: c :: rest => a == mark && b == mark && c == mark && isSpaced rest
  | _, _ => false

def isBoundary (p : Place) (t : Text) : Bool :=
  isMark '-' p t || isMark '.' p t

/-- What is left to read of a document. -/
structure Remains where
  place : Place := {}
  text : Text
  deriving DecidableEq, Repr

namespace Remains

/-- Step over characters of a kind: the characters, and what is left. -/
def span (r : Remains) (kind : Char → Bool) : Text × Remains :=
  let taken := r.text.takeWhile kind
  (taken, ⟨r.place.behind taken, r.text.dropWhile kind⟩)

def skip (r : Remains) (kind : Char → Bool) : Remains :=
  (r.span kind).2

/-- Step over so many characters. -/
def drop (r : Remains) (n : Nat) : Remains :=
  ⟨r.place.behind (r.text.take n), r.text.drop n⟩

def skipComment (r : Remains) : Remains :=
  if r.text.head? = some '#' then r.skip fun c => !isBreak c else r

/-- Step over the rest of a line that holds no more than blanks and a comment. -/
def skipLine? (r : Remains) : Option Remains :=
  let r := (r.skip isBlank).skipComment
  match r.text with
  | [] => some r
  | c :: _ => if isBreak c then some (r.drop 1) else none

end Remains

end Interpolation.Yaml
