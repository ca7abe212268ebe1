import Interpolation.Shell.Real
import Interpolation.Shell.Utility.Escapes

/-!
# Printing by a format

A format is printed again while it takes arguments and some are left. What is wrong with an argument
is complained about as soon as it is printed; what is wrong with the format ends the printing.
-/

namespace Interpolation.Shell.Utility

namespace Printf

structure Progress where
  arguments : List Octets
  isFine : Bool := true
  ended : Option Nat := none

def refuse (complaint : Octets) (p : Progress) : Exec Progress := do
  complain "printf" complaint
  return { p with ended := some 1 }

def check (argument rest : Octets) (isFound isInRange : Bool) : Exec Bool := do
  let wrong (what : String) : Exec Bool := do
    complain "printf" (quote argument ++ what.toList)
    return false
  if argument.isEmpty then return true
  else if !isFound then wrong ": expected a numeric value"
  else if !isInRange then wrong ": Numerical result out of range"
  else if !rest.isEmpty then wrong ": value not completely converted"
  else return true

def quoted? (argument : Octets) : Exec (Option Nat) := do
  match argument with
  | q :: c :: rest =>
    if q != '"' && q != '\'' then return none
    if !rest.isEmpty then
      complain "printf" ("warning: ".toList ++ rest ++
        ": character(s) following character constant have been ignored".toList)
    return some c.toNat
  | _ => return none

def integer (least greatest : Int) (argument : Octets) : Exec (Int × Bool) := do
  match ← quoted? argument with
  | some n => return (n, true)
  | none =>
    let (isFound, n, rest) := Octets.takeInteger argument
    let isFine ← check argument rest isFound (least ≤ n && n ≤ greatest)
    return (max least (min greatest n), isFine)

def real (argument : Octets) : Exec (Real × Bool) := do
  match ← quoted? argument with
  | some n => return ({ magnitude := .finite ⟨n, 1⟩ }, true)
  | none =>
    match Real.take? argument with
    | some (x, rest) =>
      let unsigned := argument.dropWhile fun c => Octets.isSpace c || c == '-' || c == '+'
      let isWord := match unsigned with
        | c :: _ => c.toLower == 'i'
        | [] => false
      let isInRange := match x.magnitude with
        | .infinity => isWord
        | _ => true
      return (x, ← check argument rest true isInRange)
    | none => return ({ magnitude := .finite ⟨0, 1⟩ }, ← check argument [] false true)

def allowed (flags : Octets) (hasPrecision : Bool) : Octets :=
  "aAcdeEfFgGiosuxX".toList.filter fun c =>
    !((flags.contains '#' && "cdisu".toList.contains c) ||
      (flags.contains '0' && "cs".toList.contains c) ||
      ((flags.contains '\'' || flags.contains 'I') && "aAceEosxX".toList.contains c) ||
      (hasPrecision && c == 'c'))

def number (o : Octets) (p : Progress) : Exec (Option Int × Octets × Progress) := do
  match o with
  | '*' :: rest =>
    match p.arguments with
    | [] => return (some 0, rest, p)
    | argument :: arguments =>
      let (n, isFine) ← integer Octets.least Octets.greatest argument
      return (some n, rest, { p with arguments, isFine := p.isFine && isFine })
  | _ =>
    let (count, n, rest) := Octets.takeDigits 10 o
    return (if count = 0 then none else some n, rest, p)

def put (d : Format.Directive) (p : Progress) : Exec Progress := do
  let argument := p.arguments.headD []
  let next (isFine : Bool) : Progress :=
    { p with arguments := p.arguments.tail, isFine := p.isFine && isFine }
  match d.conversion with
  | 's' =>
    Exec.print (d.characters argument)
    return next true
  | 'c' =>
    Exec.print (d.pad [] [argument.headD (Char.ofNat 0)] false)
    return next true
  | 'd' | 'i' =>
    let (n, isFine) ← integer Octets.least Octets.greatest argument
    Exec.print (d.signed n)
    return next isFine
  | 'o' | 'u' | 'x' | 'X' =>
    let most : Int := Nat.pow 2 64 - 1
    let (n, isFine) ← integer (-most) most argument
    Exec.print (d.unsigned (n % Nat.pow 2 64).toNat)
    return next isFine
  | _ =>
    let (x, isFine) ← real argument
    Exec.print (x.text d)
    return next isFine

def directive (o : Octets) (p : Progress) : Exec (Octets × Progress) := do
  let flags := o.takeWhile "-+ #0'I".toList.contains
  let (width, rest, p) ← number (o.drop flags.length) p
  let (hasPrecision, precision, rest, p) ← match rest with
    | '.' :: rest => do
      let (n, rest, p) ← number rest p
      pure (true, n.getD 0, rest, p)
    | rest => pure (false, 0, rest, p)
  let rest := rest.dropWhile "lLhjtz".toList.contains
  let written := '%' :: o.take (o.length - rest.length + 1)
  match rest with
  | [] => return ([], ← refuse (written ++ ": invalid conversion specification".toList) p)
  | conversion :: rest =>
    if !(allowed flags hasPrecision).contains conversion then
      return (rest, ← refuse (written ++ ": invalid conversion specification".toList) p)
    else if Nat.pow 2 24 < (width.getD 0).natAbs then
      complain "printf" "write error".toList
      return (rest, { p with ended := some 1 })
    else
      let d : Format.Directive :=
        { text := written, flags, width := (width.getD 0).natAbs
          isLeft := flags.contains '-' || width.any (· < 0)
          precision := if hasPrecision && 0 ≤ precision then some precision.toNat else none
          conversion }
      return (rest, ← put d p)

def escape (isArgument : Bool) (o : Octets) (p : Progress) : Exec (Octets × Progress) := do
  match escapeOf isArgument o with
  | (.text t, rest) =>
    Exec.print t
    return (rest, p)
  | (.stop, rest) => return (rest, { p with ended := some 0 })
  | (.wrong complaint, rest) => return (rest, ← refuse complaint p)

def withEscapes : Nat → Octets → Progress → Exec Progress
  | 0, _, p => return p
  | n + 1, o, p => do
    let plain := o.takeWhile (· != '\\')
    Exec.print plain
    match o.drop plain.length with
    | [] => return p
    | _ :: rest =>
      let (rest, p) ← escape true rest p
      if p.ended.isSome then return p else withEscapes n rest p

def once : Nat → Octets → Progress → Exec Progress
  | 0, _, p => return p
  | n + 1, o, p => do
    if p.ended.isSome then return p
    match o with
    | [] => return p
    | '\\' :: rest =>
      let (rest, p) ← escape false rest p
      once n rest p
    | '%' :: '%' :: rest =>
      Exec.print ['%']
      once n rest p
    | '%' :: 'b' :: rest =>
      let argument := p.arguments.headD []
      let p ← withEscapes (argument.length + 1) argument { p with arguments := p.arguments.tail }
      once n rest p
    | '%' :: 'q' :: rest =>
      match p.arguments with
      | [] => once n rest p
      | argument :: arguments =>
        Exec.print (shown argument)
        once n rest { p with arguments }
    | '%' :: rest =>
      let (rest, p) ← directive rest p
      once n rest p
    | _ =>
      let plain := o.takeWhile fun c => c != '\\' && c != '%'
      Exec.print plain
      once n (o.drop plain.length) p

def repeated (format : Octets) : Nat → Progress → Exec Progress
  | 0, p => return p
  | n + 1, p => do
    let next ← once (format.length + 1) format p
    let isUsed := next.arguments.length < p.arguments.length
    if next.ended.isSome || next.arguments.isEmpty || !isUsed then return next
    else repeated format n next

end Printf

/-- Print arguments by a format. -/
def printf : Utility := fun _ arguments => do
  match if arguments.head? == some ['-', '-'] then arguments.tail else arguments with
  | [] => misuse { name := "printf" } "missing operand".toList
  | format :: arguments =>
    let p ← Printf.repeated format (arguments.length + 1) { arguments }
    if let some status := p.ended then return status
    if let extra :: _ := p.arguments then
      complain "printf" ("warning: ignoring excess arguments, starting with ".toList ++ quote extra)
    return status p.isFine

end Interpolation.Shell.Utility
