import Interpolation.Shell.Builtin.Control
import Interpolation.Shell.Builtin.Printing
import Interpolation.Shell.Builtin.Variables

/-!
# The utilities of the shell itself

They run inside the shell, so that they may change it.
-/

namespace Interpolation.Shell.Builtin

def constant (status : Nat) : Builtin := fun _ _ =>
  return status

def all : List (String × Builtin) :=
  [(":", constant 0), (".", source), ("[", bracketed), ("alias", setAlias), ("bg", resumeJob),
    ("break", leaveLoops .broken), ("cd", cd), ("chdir", cd), ("command", command),
    ("continue", leaveLoops .continued), ("echo", echo), ("eval", eval), ("exit", exit),
    ("export", exporting), ("false", constant 1), ("fg", resumeJob), ("getopts", nextOption),
    ("hash", hash), ("jobs", jobs), ("kill", kill), ("local", localize), ("printf", printf),
    ("pwd", pwd), ("read", read), ("readonly", fixing), ("return", «return»), ("set", set),
    ("shift", shift), ("test", test), ("times", times), ("trap", trap), ("true", constant 0),
    ("type", type), ("ulimit", ulimit), ("umask", umask), ("unalias", dropAlias), ("unset", unset),
    ("wait", wait)]

/-- The utility of a name. -/
def find? (name : Octets) : Option Builtin :=
  (all.find? fun (n, _) => n.toList == name).map Prod.snd

end Interpolation.Shell.Builtin
