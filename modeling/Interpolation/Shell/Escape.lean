import Interpolation.Shell.Octets

/-!
# Escapes of printed text

The utilities that print text read a backslash with a letter as one control character, and a
backslash with octal digits as the byte of that number. Nothing else is changed: a backslash before
any other character stands for itself.
-/

namespace Interpolation.Shell.Escape

def control? : Char → Option Char
  | 'a' => some (Char.ofNat 7)
  | 'b' => some (Char.ofNat 8)
  | 't' => some '\t'
  | 'n' => some '\n'
  | 'v' => some (Char.ofNat 11)
  | 'f' => some (Char.ofNat 12)
  | 'r' => some '\r'
  | 'e' => some (Char.ofNat 27)
  | '\\' => some '\\'
  | _ => none

inductive Pending where
  | nothing
  | backslash
  | digits (left number : Nat)

def byte (n : Nat) : Char :=
  Char.ofNat (n % 256)

def inFormat : Octets → Octets × Octets
  | [] => (['\\'], [])
  | c :: rest =>
    match control? c with
    | some c => ([c], rest)
    | none =>
      let digits := ((c :: rest).take 3).takeWhile fun d => (Octets.digit? 8 d).isSome
      if digits.isEmpty then (['\\'], c :: rest)
      else ([byte (Octets.takeDigits 8 digits).2.1], (c :: rest).drop digits.length)

def read : Pending → Octets → Octets × Bool
  | .nothing, [] => ([], false)
  | .backslash, [] => (['\\'], false)
  | .digits _ n, [] => ([byte n], false)
  | .nothing, c :: rest =>
    if c = '\\' then read .backslash rest
    else
      let (text, stops) := read .nothing rest
      (c :: text, stops)
  | .backslash, c :: rest =>
    if c = 'c' then ([], true)
    else
      match control? c, Octets.digit? 8 c with
      | some c, _ =>
        let (text, stops) := read .nothing rest
        (c :: text, stops)
      | none, some d => read (.digits (if d = 0 then 3 else 2) d) rest
      | none, none =>
        let (text, stops) := read .nothing rest
        ('\\' :: c :: text, stops)
  | .digits left n, c :: rest =>
    match left, Octets.digit? 8 c with
    | left + 1, some d => read (.digits left (8 * n + d)) rest
    | _, _ =>
      let (text, stops) :=
        if c = '\\' then read .backslash rest
        else
          let (text, stops) := read .nothing rest
          (c :: text, stops)
      (byte n :: text, stops)

/-- Read the escapes of a text. -/
def text (o : Octets) : Octets × Bool :=
  read .nothing o

end Interpolation.Shell.Escape
