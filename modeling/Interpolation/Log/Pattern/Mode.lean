import Interpolation.Text.Blank

/-!
# Modes of patterns

A pattern may say how the rest of it, up to the end of the group, is meant: about characters or
about bytes, and with blanks and remarks between its items or without.
-/

namespace Interpolation.Log.Pattern

/-- How a part of a pattern is meant. -/
structure Mode where
  isUnicode : Bool := true
  isSpaced : Bool := false
  deriving DecidableEq, Repr

/-- Drop blanks and remarks; a remark may be open already. -/
def dropRemarks (isRemark : Bool) : Text → Text
  | [] => []
  | c :: t =>
    if isRemark then dropRemarks (c != '\n') t
    else if isBlank c then dropRemarks false t
    else if c = '#' then dropRemarks true t
    else c :: t

namespace Mode

/-- What is left behind the blanks and remarks, where they mean nothing. -/
def skip (m : Mode) (t : Text) : Text :=
  if m.isSpaced then dropRemarks false t else t

def next? (m : Mode) (t : Text) : Option Char :=
  if m.isSpaced then
    match t.dropWhile isBlank with
    | '#' :: t => (t.dropWhile isBlank).head?
    | t => t.head?
  else t.head?

/-- The letters that switch modes of a group; those not kept here change no rule of writing. -/
def letters : List Char :=
  "imsUuRx".toList

def switch (m : Mode) (letter : Char) (isOn : Bool) : Mode :=
  if letter = 'u' then { m with isUnicode := isOn }
  else if letter = 'x' then { m with isSpaced := isOn }
  else m

/-- Read letters up to a colon or a closing bracket. No letter occurs twice, and behind a minus
sign, of which there is one at most, stands a letter. Reports the switched mode, the letters, the
character that ends them and the text behind it. -/
def switches? (m : Mode) (isOn : Bool) (seen : List Char) :
    Text → Option (Mode × List Char × Char × Text)
  | [] => none
  | c :: t =>
    if c = ':' || c = ')' then
      if seen.head? = some '-' then none else some (m, seen, c, t)
    else if seen.contains c then none
    else if c = '-' then switches? m false (c :: seen) t
    else if letters.contains c then switches? (m.switch c isOn) isOn (c :: seen) t
    else none

end Mode

end Interpolation.Log.Pattern
