import Interpolation.Text

/-!
# Durations

A duration is a number of nanoseconds. It is written in the largest unit that it reaches, with the
places it needs and no more.
-/

namespace Interpolation

/-- A span of time in nanoseconds. -/
abbrev Duration := Nat

namespace Duration

def millisecond : Duration := 1000000

/-- The first whole number of milliseconds that is not shorter. -/
def roundUp (d : Duration) : Duration :=
  (d + (millisecond - 1)) / millisecond * millisecond

def units : List (Nat × String) :=
  [(9, "s"), (6, "ms"), (3, "µs"), (0, "ns")]

def decimal (places count : Nat) : Text :=
  let fraction := Text.padLeft '0' places (Text.ofNat (count % Nat.pow 10 places))
  let digits := Text.dropTrailing '0' fraction
  Text.ofNat (count / Nat.pow 10 places) ++
    (if places = 0 || digits.isEmpty then [] else '.' :: digits)

def toText (d : Duration) : Text :=
  match units.find? fun (places, _) => Nat.pow 10 places ≤ d with
  | some (places, unit) => decimal places d ++ unit.toList
  | none => "0ns".toList

end Duration

end Interpolation
