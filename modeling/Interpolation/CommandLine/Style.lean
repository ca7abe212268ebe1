import Interpolation.Host

/-!
# Styles of terminal text

Text is shown in a style by a sequence before it and another one behind it, if colours are wanted.
-/

namespace Interpolation.CommandLine

inductive Style where
  | bold
  | cyan
  | dimmed
  | alarm
  deriving DecidableEq, Repr

namespace Style

def code : Style → String
  | bold => "1"
  | cyan => "36"
  | dimmed => "2"
  | alarm => "1;31"

def sequence (code : String) : Text :=
  Char.ofNat 27 :: '[' :: (code.toList ++ ['m'])

def plain : Text :=
  sequence "0"

def resume (opening : Text) : Nat → Text → Text
  | _, [] => []
  | left + 1, c :: t => c :: ((if left = 0 then opening else []) ++ resume opening left t)
  | 0, c :: t =>
    if plain.isPrefixOf (c :: t) then c :: resume opening (plain.length - 1) t
    else c :: resume opening 0 t

/-- Show a text in a style. Where another style ends inside the text, this one goes on. -/
def paint (isColoured : Bool) (style : Style) (t : Text) : Text :=
  if isColoured then sequence style.code ++ resume (sequence style.code) 0 t ++ plain else t

/-- Whether a variable says yes: it does unless it is missing or zero. -/
def isForced (host : Host) (name : String) : Bool :=
  match host.textVariable? name.toList with
  | some value => value != ['0']
  | none => false

/-- Whether colours are wanted: by force, or on a terminal if nothing speaks against it. -/
def isWanted (host : Host) (isTerminal : Bool) : Bool :=
  isForced host "CLICOLOR_FORCE" ||
    (isTerminal && (host.textVariable? "NO_COLOR".toList).isNone &&
      host.textVariable? "CLICOLOR".toList != some ['0'])

end Style

end Interpolation.CommandLine
