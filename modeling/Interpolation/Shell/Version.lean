import Interpolation.Shell.Octets

/-!
# Versions

Names of versions are compared by stretches: those without digits character by character, letters
before other characters and a tilde before everything, also before the end; those of digits by their
numbers. The endings of file names count only if the rest is equal.
-/

namespace Interpolation.Shell.Version

def rank : Octets → Int
  | [] => -1
  | c :: _ =>
    if c.isDigit then 0
    else if c.isAlpha then c.toNat
    else if c == '~' then -2
    else c.toNat + 256

def beginsPlain (o : Octets) : Bool :=
  o.head?.any fun c => !c.isDigit

def comparePlain : Nat → Octets → Octets → Ordering × Octets × Octets
  | 0, a, b => (.eq, a, b)
  | fuel + 1, a, b =>
    if beginsPlain a || beginsPlain b then
      match compare (rank a) (rank b) with
      | .eq => comparePlain fuel a.tail b.tail
      | order => (order, a, b)
    else (.eq, a, b)

def compareStretches : Nat → Octets → Octets → Ordering
  | 0, _, _ => .eq
  | fuel + 1, a, b =>
    if a.isEmpty && b.isEmpty then .eq
    else
      match comparePlain (a.length + b.length) a b with
      | (.eq, a, b) =>
        let m := a.takeWhile Char.isDigit
        let n := b.takeWhile Char.isDigit
        let number (digits : Octets) : Nat := (Octets.natural? digits).getD 0
        match compare (number m) (number n) with
        | .eq => compareStretches fuel (a.drop m.length) (b.drop n.length)
        | order => order
      | (order, _, _) => order

def isEndings (o : Octets) : Bool :=
  match o with
  | [] => true
  | '.' :: rest =>
    (rest.splitOn '.').all fun ending =>
      ending.head?.any (fun c => c.isAlpha || c == '~') &&
        ending.all fun c => c.isAlphanum || c == '~'
  | _ => false

def bare (o : Octets) : Octets :=
  match (List.range o.length).find? fun i => isEndings (o.drop (i + 1)) with
  | some i => o.take (i + 1)
  | none => o

def early (o : Octets) : Nat :=
  if o.isEmpty then 0
  else if o == ['.'] then 1
  else if o == ['.', '.'] then 2
  else if o.head? == some '.' then 3
  else 4

/-- Compare names. -/
def compare (a b : Octets) : Ordering :=
  let plain (a b : Octets) : Ordering := compareStretches (a.length + b.length + 1) a b
  match Ord.compare (early a) (early b) with
  | .eq => if early a < 3 then .eq else (plain (bare a) (bare b)).then (plain a b)
  | order => order

end Interpolation.Shell.Version
