import Interpolation.Text.Shape

/-!
# Quoted text in the log

Quotes, backslashes and line breaks are escaped, so that a quoted text stays on its line and shows
where it ends. Characters without a shape of their own are written by their code point.
-/

namespace Interpolation.Quoted

def codePoint (c : Char) : Text :=
  '\\' :: 'u' :: '{' :: (Nat.toDigits 16 c.toNat ++ ['}'])

def encodeChar (c : Char) : Text :=
  if c = '"' then ['\\', '"']
  else if c = '\\' then ['\\', '\\']
  else if c = '\n' then ['\\', 'n']
  else if c = '\r' then ['\\', 'r']
  else if c = '\t' then ['\\', 't']
  else if c.toNat = 0 then ['\\', '0']
  else if Shape.isMissing c then codePoint c
  else [c]

/-- A text in quotes. -/
def encode (t : Text) : Text :=
  '"' :: (t.flatMap encodeChar ++ ['"'])

end Interpolation.Quoted
