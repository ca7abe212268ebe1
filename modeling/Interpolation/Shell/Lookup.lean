import Interpolation.Shell.Process

/-!
# What the name of a command stands for

A name with a slash is a path. Any other name is looked for among the functions, the utilities that
the shell has itself, and the files in the folders of the variable `PATH`.
-/

namespace Interpolation.Shell

/-- What a name stands for. -/
inductive Found where
  | function (body : Command)
  | special
  | builtin
  | file (path : Octets)
  | nothing (complaint : String)

namespace Lookup

def isSpecial (name : Octets) : Bool :=
  Parse.reserved.any (·.toList == name) || name == "local".toList

def builtins : List String :=
  ["[", "alias", "bg", "cd", "chdir", "command", "echo", "false", "fg", "getopts", "hash", "jobs",
    "kill", "local", "printf", "pwd", "read", "test", "true", "type", "ulimit", "umask", "unalias",
    "wait"]

def isBuiltin (name : Octets) : Bool :=
  isSpecial name || builtins.any (·.toList == name)

def takesAssignments (name : Octets) : Bool :=
  ["export", "readonly", "local"].any (·.toList == name)

def defaultPath : Octets :=
  "/bin:/usr/bin".toList

def usualPath : Octets :=
  "/usr/local/sbin:/usr/local/bin:/usr/sbin:/usr/bin:/sbin:/bin".toList

def folders (path : Option Octets) : List Octets :=
  (path.getD []).splitOn ':'

/-- The path of a name in a folder. -/
def inFolder (folder name : Octets) : Octets :=
  if folder.isEmpty then name
  else if folder.getLast? == some '/' then folder ++ name
  else folder ++ '/' :: name

end Lookup

namespace Exec

/-- Look for a file that may be run in the folders of a search path. -/
def search (path : Option Octets) (name : Octets) : Exec Found := do
  let visit (sofar : Found) (folder : Octets) : Exec Found := do
    match sofar with
    | .file _ => return sofar
    | _ =>
      let candidate := Lookup.inFolder folder name
      match ← node? true candidate with
      | .ok node =>
        if isRunnable node then return .file candidate
        match node.body with
        | .file _ => return .nothing "Permission denied"
        | _ => return sofar
      | .error _ => return sofar
  if name.isEmpty then return .nothing "Permission denied"
  (Lookup.folders path).foldlM visit (.nothing "not found")

def lookup (withFunctions : Bool) (path : Option Octets) (name : Octets) : Exec Found := do
  if name.contains '/' then return .file name
  let functions ← ask Process.functions
  match if withFunctions then functions.lookup name else none with
  | some body => return .function body
  | none =>
    if Lookup.isSpecial name then return .special
    if Lookup.isBuiltin name then return .builtin
    search path name

/-- Why a file cannot be run, and the status that says so. -/
def refusal? (path : Octets) : Exec (Option (Nat × String)) := do
  match ← node? true path with
  | .error _ => return some (127, "not found")
  | .ok node => return if isRunnable node then none else some (126, "Permission denied")

end Exec

end Interpolation.Shell
