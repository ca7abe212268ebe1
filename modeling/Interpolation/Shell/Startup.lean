import Interpolation.Shell.Builtin.Variables

/-!
# Starting a shell

A shell is started with a line, with a file or with what its input holds. Its variables are those of
its environment and some that every shell has.
-/

namespace Interpolation.Shell

/-- A variable with a value. -/
def Variable.ofValue (isExported : Bool) (value : Octets) : Variable :=
  { value := some value, isExported }

def initialVariables (environment : List (Octets × Octets)) (parent : Nat) (directory : Octets) :
    List (Octets × Variable) :=
  let usual : List (String × Octets) :=
    [("PATH", Lookup.usualPath), ("PS1", "# ".toList), ("PS2", "> ".toList), ("PS4", "+ ".toList)]
  let own : List (String × Octets) :=
    [("IFS", " \t\n".toList), ("OPTIND", ['1']), ("PPID", Text.ofNat parent)]
  let start := usual.map fun (name, value) => (name.toList, Variable.ofValue false value)
  let given := (environment.filter fun (name, _) => Octets.isName name).foldl
    (fun all (name, value) => Exec.update name (fun _ => Variable.ofValue true value) all) start
  let all := own.foldl (fun all (name, value) =>
    Exec.update name.toList (fun old =>
      Variable.ofValue (old.any Variable.isExported) value) all) given
  Exec.update "PWD".toList (fun _ => Variable.ofValue true directory) all

namespace Exec

def shellOptions : Nat → Bool → Bool → List Octets → Exec (Bool × Bool × List Octets)
  | n + 1, hasLine, readsInput, (sign :: c :: letters) :: rest => do
    if sign != '-' && sign != '+' then return (hasLine, readsInput, (sign :: c :: letters) :: rest)
    if sign == '-' && c == '-' && letters.isEmpty then return (hasLine, readsInput, rest)
    let letters := c :: letters
    let others := letters.filter fun d => d != 'c' && d != 's'
    let rest ← Builtin.readOptions (sign == '-') others rest
    shellOptions n (hasLine || letters.contains 'c') (readsInput || letters.contains 's') rest
  | _, hasLine, readsInput, ['-'] :: rest => return (hasLine, readsInput, rest)
  | _, hasLine, readsInput, rest => return (hasLine, readsInput, rest)

def runShell (run : Runner) (arguments : List Octets) : Exec Unit := do
  let environment ← environment
  let parent ← ask fun p => p.parents.headD 0
  let directory ← ask Process.directory
  change fun p =>
    { p with
      isShell := true, line := 0
      bindings := initialVariables environment parent directory }
  let (hasLine, readsInput, rest) ← shellOptions (arguments.length + 1) false false arguments
  let text ← match hasLine, readsInput, rest with
    | true, _, line :: names => do
      change fun p =>
        { p with name := (names.head?).getD p.name, positional := names.drop 1 }
      pure line
    | true, _, [] => fail "-c requires an argument".toList
    | false, false, file :: positional => do
      let text ← match ← content? file with
        | .ok text => pure text
        | .error .isFolder => pure []
        | .error _ => fail ("cannot open ".toList ++ file ++ ": No such file".toList)
      change fun p => { p with name := file, positional }
      pure text
    | false, _, positional => do
      change fun p => { p with positional }
      match ← takeFrom 0 everything with
      | .ok text => pure text
      | .error _ => pure []
  change fun p => { p with line := 1 }
  run (.text text false)

end Exec

end Interpolation.Shell
