import Interpolation.Shell.Stream

/-!
# Variables

A variable has a value or none, may be handed on to commands, and may be fixed.
-/

namespace Interpolation.Shell.Exec

/-- Change the entry of a name, which may be new. -/
def update {α : Type} (name : Octets) (f : Option α → α) :
    List (Octets × α) → List (Octets × α)
  | [] => [(name, f none)]
  | (n, a) :: rest => if n = name then (n, f (some a)) :: rest else (n, a) :: update name f rest

def valueOf (p : Process) (name : Octets) : Option Octets :=
  (p.bindings.lookup name).bind Variable.value

def value? (name : Octets) : Exec (Option Octets) :=
  ask fun p => valueOf p name

def hasOption (c : Char) : Exec Bool :=
  ask fun p => p.options.contains c

def resetOptions (value : Octets) : Exec Unit := do
  match Octets.natural? value with
  | some n => change fun p => { p with optionIndex := max n 1, optionPlace := 0 }
  | none => fail ("Illegal number: ".toList ++ value)

/-- Set a variable or take its value away, and mark it. -/
def assign (name : Octets) (value : Option Octets) (exports : Bool) : Exec Unit := do
  if !Octets.isName name then fail (name ++ ": bad variable name".toList)
  if ((← ask Process.bindings).lookup name).any Variable.isReadOnly then
    fail (name ++ ": is read only".toList)
  let exports := exports || ((← hasOption 'a') && value.isSome)
  change fun p =>
    { p with
      bindings := update name (fun old =>
        { old.getD {} with value, isExported := (old.any Variable.isExported) || exports })
        p.bindings }
  if name = "OPTIND".toList then resetOptions (value.getD [])

def setVariable (name value : Octets) : Exec Unit :=
  assign name (some value) false

def restore (saved : Saved) : Exec Unit :=
  change fun p =>
    match saved with
    | .variable name (some v) => { p with bindings := update name (fun _ => v) p.bindings }
    | .variable name none => { p with bindings := p.bindings.filter fun (n, _) => n != name }
    | .options letters => { p with options := letters }

/-- The entries that the environment of a command has. A shell hands them on in the order of their
keeping: by the sum that is made of the characters of a name. -/
def environment : Exec (List (Octets × Octets)) := do
  let p ← ask id
  let exported := p.bindings.filterMap fun (n, v) =>
    if v.isExported then v.value.map (n, ·) else none
  if !p.isShell then return exported
  let place (n : Octets) : Nat :=
    (n.foldl (fun sum c => sum + c.toNat) (16 * (n.head?.map Char.toNat).getD 0)) % 39
  return exported.mergeSort fun a b => place a.1 ≤ place b.1

end Interpolation.Shell.Exec
