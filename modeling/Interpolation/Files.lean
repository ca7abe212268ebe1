import Interpolation.Text

/-!
# Files

A source of files answers a path with the bytes of the file, or with the reason why it cannot be
read.
-/

namespace Interpolation

/-- Why a file cannot be read. -/
inductive ReadError where
  | notFound
  | notFolder
  | isFolder
  | notText
  deriving DecidableEq, Repr

/-- The wording of a failure to read. -/
def ReadError.message : ReadError → String
  | notFound => "No such file or directory (os error 2)"
  | notFolder => "Not a directory (os error 20)"
  | isFolder => "Is a directory (os error 21)"
  | notText => "stream did not contain valid UTF-8"

abbrev Files := Text → Except ReadError (List UInt8)

end Interpolation
