import Interpolation.Value

/-!
# Commands

A command is invoked by its id. It may answer with a value, answer with nothing, or fail.
-/

namespace Interpolation

inductive CommandError where
  | notFound (id : Text)
  | failed (id message : Text)
  deriving DecidableEq, Repr

def CommandError.message : CommandError → Text
  | notFound id => "Command not found: ".toList ++ id
  | failed id message => "Command ".toList ++ id ++ " failed: ".toList ++ message

abbrev Reply := Except CommandError (Option Value)

namespace Reply

/-- What an answer puts into a text: nothing for no value. -/
def textOf : Option Value → Text
  | none => []
  | some v => v.plain

/-- What a reply puts into a text: nothing for a failure. -/
def replacement : Reply → Text
  | .ok answer => textOf answer
  | .error _ => []

end Reply

end Interpolation
