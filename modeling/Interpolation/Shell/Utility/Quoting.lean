import Interpolation.Shell.Octets

/-!
# Names in complaints

A name is shown so that it can be told apart from the words around it. In one form it stands between
apostrophes with escapes, in the other it can be given back to a shell, and then it may stand bare
if nothing in it means anything to a shell.
-/

namespace Interpolation.Shell.Utility

/-- Whether a character can be shown. -/
def isShowable (c : Char) : Bool :=
  32 ≤ c.toNat && c.toNat < 127

def escapeLetter? (c : Char) : Option Char :=
  match c.toNat with
  | 7 => some 'a'
  | 8 => some 'b'
  | 9 => some 't'
  | 10 => some 'n'
  | 11 => some 'v'
  | 12 => some 'f'
  | 13 => some 'r'
  | _ => none

def octal (c : Char) : Octets :=
  Text.padLeft '0' 3 (Nat.toDigits 8 c.toNat)

def caret (c : Char) : Octets :=
  let plain (n : Nat) : Octets :=
    if n < 32 then ['^', Char.ofNat (n + 64)] else if n = 127 then ['^', '?'] else [Char.ofNat n]
  if c.toNat < 128 then plain c.toNat else 'M' :: '-' :: plain (c.toNat - 128)

def escaped (c : Char) : Octets :=
  match escapeLetter? c with
  | some letter => ['\\', letter]
  | none => '\\' :: octal c

/-- A name between apostrophes with escapes. -/
def quote (name : Octets) : Octets :=
  let inner := name.flatMap fun c =>
    if c == '\'' || c == '\\' then ['\\', c] else if isShowable c then [c] else escaped c
  '\'' :: inner ++ ['\'']

def isSpecial (c : Char) : Bool :=
  " !\"$&'()*;<=>?[^|".toList.contains c || c == Char.ofNat 96 || (escapeLetter? c).isSome

def needsQuotes (name : Octets) : Bool :=
  name.isEmpty || name.any (fun c => isSpecial c || !isShowable c) ||
    name.head?.any (fun c => c == '#' || c == '~') || name == ['\x7b'] || name == ['\x7d']

def isTame (c : Char) : Bool :=
  isShowable c && (!isSpecial c || c == ' ' || c == '\'') && c != '\\'

def shellInside (isEscaping : Bool) : Octets → Octets
  | [] => []
  | c :: rest =>
    if !isShowable c then
      (if isEscaping then [] else "'$'".toList) ++ escaped c ++ shellInside true rest
    else
      (if isEscaping then "''".toList else []) ++
        (if c == '\'' then "'\\''".toList else [c]) ++ shellInside false rest

/-- A name in quotes of a shell. -/
def shellQuote (name : Octets) : Octets :=
  if name.contains '\'' && name.all isTame then '"' :: name ++ ['"']
  else '\'' :: shellInside false name ++ ['\'']

/-- A name, in quotes of a shell if it needs them. -/
def shown (name : Octets) : Octets :=
  if needsQuotes name then shellQuote name else name

end Interpolation.Shell.Utility
