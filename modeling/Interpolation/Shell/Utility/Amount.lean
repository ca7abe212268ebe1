import Interpolation.Shell.Octets

/-!
# Amounts

Numbers with units, as utilities take them in their arguments.
-/

namespace Interpolation.Shell.Utility

def tooLarge : Nat :=
  Nat.pow 2 63

/-- What a text is as a number with a unit. -/
inductive Amount where
  | invalid
  | overflow
  | number (n : Nat)
  deriving DecidableEq, Repr

def unitLetters : List (Char × Nat) :=
  [('K', 1), ('k', 1), ('M', 2), ('G', 3), ('T', 4), ('P', 5), ('E', 6), ('Z', 7), ('Y', 8),
    ('R', 9), ('Q', 10)]

def unit? (letters : String) : Octets → Option Nat
  | [] => some 1
  | c :: rest =>
    if !letters.toList.contains c then none
    else
      match unitLetters.lookup c, c, rest with
      | none, 'b', [] => some 512
      | none, 'c', [] => some 1
      | none, 'w', [] => some 2
      | some power, _, [] => some (Nat.pow 1024 power)
      | some power, _, ['B'] | some power, _, ['D'] => some (Nat.pow 1000 power)
      | some power, _, ['i', 'B'] => some (Nat.pow 1024 power)
      | _, _, _ => none

/-- Read a number with a unit. -/
def amount (letters : String) (o : Octets) : Amount :=
  let o := o.dropWhile Octets.isSpace
  let o := match o with
    | '+' :: rest => rest
    | o => o
  let (count, n, rest) := Octets.takeDigits 10 o
  let (n, isFound) :=
    if count = 0 && !rest.isEmpty then (1, letters.toList.contains (rest.headD ' '))
    else (n, count != 0)
  if !isFound then .invalid
  else
    match unit? letters rest with
    | none => .invalid
    | some unit => if 2 * tooLarge ≤ n * unit then .overflow else .number (n * unit)

/-- Read a number with a unit, if it is one. -/
def amount? (letters : String) (o : Octets) : Option Nat :=
  match amount letters o with
  | .number n => some n
  | _ => none

end Interpolation.Shell.Utility
