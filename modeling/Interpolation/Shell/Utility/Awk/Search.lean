import Interpolation.Shell.Regex.Reading
import Interpolation.Shell.Utility.Awk.Token

/-!
# Regular expressions of programs for records

They have the extended form without bounds. Escapes mean the same in brackets and outside of them;
any other character behind a backslash stands for itself.
-/

namespace Interpolation.Shell.Utility.Awk

def withoutGroups : Regex → Regex
  | .group _ r => withoutGroups r
  | .both a b => .both (withoutGroups a) (withoutGroups b)
  | .either a b => .either (withoutGroups a) (withoutGroups b)
  | .repeated r least most isShort => .repeated (withoutGroups r) least most isShort
  | r => r

def escapedChar (o : Octets) : Char × Octets :=
  match escape? o with
  | some found => found
  | none => (o.headD '\\', o.tail)

def setChar : Octets → Option (Char × Octets)
  | '\\' :: rest => if rest.isEmpty then none else some (escapedChar rest)
  | c :: rest => some (c, rest)
  | [] => none

def setMembers : Nat → Bool → Octets → Option (List Member × Octets)
  | 0, _, _ => none
  | n + 1, isFirst, o =>
    match o with
    | ']' :: rest =>
      if isFirst then (rangeFrom n ']' rest) else some ([], rest)
    | '[' :: ':' :: rest =>
      let name := rest.takeWhile Char.isAlpha
      match rest.drop name.length with
      | ':' :: ']' :: rest =>
        if Pattern.kinds.contains (String.ofList name) then
          (setMembers n false rest).map fun (members, rest) =>
            (.kind (String.ofList name) :: members, rest)
        else rangeFrom n '[' (o.drop 1)
      | _ => rangeFrom n '[' (o.drop 1)
    | o => (setChar o).bind fun (c, rest) => rangeFrom n c rest
where
  rangeFrom (n : Nat) (c : Char) (rest : Octets) : Option (List Member × Octets) :=
    let (last, rest) := match rest with
      | '-' :: ']' :: _ => (c, rest)
      | '-' :: more =>
        match setChar more with
        | some (d, more) => (d, more)
        | none => (c, rest)
      | rest => (c, rest)
    (setMembers n false rest).map fun (members, rest) => (.range c last :: members, rest)

def readPiece (s : Regex.Reading) (c : Char) (rest : Octets) :
    Except String (Regex.Reading × Octets) :=
  let next (s : Regex.Reading) : Except String (Regex.Reading × Octets) := .ok (s, rest)
  let again (least : Nat) (most : Option Nat) : Except String (Regex.Reading × Octets) :=
    match s.inner.last with
    | some r => next (s.repeat r least most)
    | none =>
      .error (if s.isFirst then "missing operand" else "syntax error ^* or ^+")
  match c with
  | '*' => again 0 none
  | '+' => again 1 none
  | '?' => again 0 (some 1)
  | '|' => if s.isFirst then .error "missing operand" else next s.divide
  | '(' =>
    match rest with
    | ')' :: rest => .ok (s.push .nothing, rest)
    | _ => next s.enter
  | ')' =>
    if s.isFirst && !s.outer.isEmpty then .error "missing operand"
    else next ((s.leave?).getD (s.push (.char ')')))
  | '.' => next (s.push (.set true []))
  | '^' => next (s.pushSign .atStart)
  | '$' => next (s.pushSign .atEnd)
  | '[' =>
    let (isInverted, inner) := match rest with
      | '^' :: inner => (true, inner)
      | inner => (false, inner)
    match setMembers (inner.length + 1) true inner with
    | some (members, rest) => .ok (s.push (.set isInverted members), rest)
    | none => next (s.push (.char '['))
  | '\\' =>
    if rest.isEmpty then next (s.push (.char '\\'))
    else
      let (c, rest) := escapedChar rest
      .ok (s.push (.char c), rest)
  | c => next (s.push (.char c))

def readPieces : Nat → Regex.Reading → Octets → Except String Regex.Reading
  | n + 1, s, c :: rest => do
    let (s, rest) ← readPiece s c rest
    readPieces n s rest
  | _, s, _ => .ok s

/-- Read a regular expression. -/
def readRegex (o : Octets) : Except String Regex := do
  let s ← readPieces o.length {} o
  if !s.outer.isEmpty then .error "missing ')'"
  if s.isFirst && !o.isEmpty then .error "missing operand"
  return withoutGroups s.inner.whole

end Interpolation.Shell.Utility.Awk
