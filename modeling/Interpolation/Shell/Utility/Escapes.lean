import Interpolation.Shell.Escape
import Interpolation.Shell.Utility.Options

/-!
# Escapes of utilities

The utilities that print text read more escapes than the shell does: bytes by hexadecimal digits,
and characters by their numbers.
-/

namespace Interpolation.Shell.Utility

/-- What an escape stands for. -/
inductive Escaped where
  | text (o : Octets)
  | stop
  | wrong (complaint : Octets)

def takeUpTo (most base : Nat) (o : Octets) : Option (Nat × Octets) :=
  let digits := (o.take most).takeWhile fun c => (Octets.digit? base c).isSome
  if digits.isEmpty then none
  else some ((Octets.takeDigits base digits).2.1, o.drop digits.length)

def universal (letter : Char) (width n : Nat) : Escaped :=
  let digits := Text.padLeft '0' width (Nat.toDigits 16 n)
  if (n < 160 && !([36, 64, 96].contains n)) || (0xD800 ≤ n && n < 0xE000) then
    .wrong ("invalid universal character name \\".toList ++ letter :: digits)
  else if n < 128 then .text [Char.ofNat n]
  else
    let digits := (Nat.toDigits 16 n).map Char.toUpper
    .text ('\\' :: if n < 65536 then 'u' :: Text.padLeft '0' 4 digits
      else 'U' :: Text.padLeft '0' 8 digits)

def escapeOf (isArgument : Bool) (o : Octets) : Escaped × Octets :=
  match o with
  | [] => (.text ['\\'], [])
  | '"' :: rest => (.text ['"'], rest)
  | 'c' :: rest => (.stop, rest)
  | 'x' :: rest =>
    match takeUpTo 2 16 rest with
    | some (n, rest) => (.text [Char.ofNat n], rest)
    | none => (.wrong "missing hexadecimal number in escape".toList, rest)
  | c :: rest =>
    if c == 'u' || c == 'U' then
      let width := if c == 'u' then 4 else 8
      let (count, n, _) := Octets.takeDigits 16 (rest.take width)
      if count < width then (.wrong "missing hexadecimal number in escape".toList, rest)
      else (universal c width n, rest.drop width)
    else
      match takeUpTo 3 8 (if isArgument && c == '0' then rest else o), Escape.control? c with
      | some (n, rest), _ => (.text [Escape.byte n], rest)
      | none, some control => (.text [control], rest)
      | none, none =>
        if isArgument && c == '0' then (.text [Char.ofNat 0], rest) else (.text ['\\', c], rest)

def echoEscape (o : Octets) : Option (Octets × Octets) :=
  match o with
  | [] => some (['\\'], [])
  | 'c' :: _ => none
  | 'x' :: rest =>
    match takeUpTo 2 16 rest with
    | some (n, rest) => some ([Char.ofNat n], rest)
    | none => some (['\\', 'x'], rest)
  | c :: rest =>
    match takeUpTo 3 8 (if c == '0' then rest else o), Escape.control? c with
    | some (n, rest), _ => some ([Escape.byte n], rest)
    | none, some control => some ([control], rest)
    | none, none => some (if c == '0' then [Char.ofNat 0] else ['\\', c], rest)

def echoText : Nat → Octets → Octets × Bool
  | 0, o => (o, false)
  | n + 1, o =>
    let plain := o.takeWhile (· != '\\')
    match o.drop plain.length with
    | [] => (plain, false)
    | _ :: rest =>
      match echoEscape rest with
      | none => (plain, true)
      | some (text, rest) =>
        let (more, stops) := echoText n rest
        (plain ++ text ++ more, stops)

end Interpolation.Shell.Utility
