import Interpolation.FileTree
import Interpolation.Text.Utf8
import Interpolation.Value

/-!
# Hosts

What a program finds around it: the directory in which it runs, its environment and the files. The
values of variables are bytes, which are mostly text.
-/

namespace Interpolation

/-- The surroundings of a program. -/
structure Host where
  directory : Text := ['/']
  environment : Table (List UInt8) := []
  tree : FileTree := {}

namespace Host

def variablesOfBlock (block : List UInt8) : List (Text × List UInt8) :=
  (block.splitOn 0).filterMap fun entry =>
    let name := entry.takeWhile (· != UInt8.ofNat '='.toNat)
    if name.isEmpty || name.length = entry.length then none
    else some (Utf8.decodeLossy name, entry.drop (name.length + 1))

def files (host : Host) : Files :=
  host.tree.read

def lossyVariable? (host : Host) (name : Text) : Option Text :=
  (host.environment.lookup name).map Utf8.decodeLossy

/-- The text of a variable that holds nothing but text. -/
def textVariable? (host : Host) (name : Text) : Option Text :=
  (host.environment.lookup name).bind Utf8.decode?

end Host

end Interpolation
