import Interpolation.Shell.Lookup

/-!
# Options of the shell's own utilities

Options come before other arguments, each a letter behind a minus sign. Letters may share a sign,
and some take an argument. Two minus signs end the options.
-/

namespace Interpolation.Shell

/-- A utility of the shell: it runs other things by the first argument, and its result is its
status. -/
abbrev Builtin := Runner → List Octets → Exec Nat

namespace Builtin

structure Options where
  found : List (Char × Octets) := []
  letters : Octets := []
  rest : List Octets

/-- Read options out of letters; those before a colon take an argument. -/
def options (allowed : String) (arguments : List Octets) :
    Exec (List (Char × Octets) × List Octets) :=
  Exec.loop (fun (o : Options) => do
    match o.letters with
    | [] =>
      match o.rest with
      | ['-', '-'] :: rest => return .inr (o.found, rest)
      | ('-' :: c :: letters) :: rest => return .inl { o with letters := c :: letters, rest }
      | rest => return .inr (o.found, rest)
    | c :: letters =>
      match Text.cutFirst c allowed.toList with
      | none => Exec.fail ("Illegal option -".toList ++ [c])
      | some (_, ':' :: _) =>
        match letters, o.rest with
        | [], [] => Exec.fail ("No arg for -".toList ++ [c] ++ " option".toList)
        | [], argument :: rest =>
          return .inl { found := o.found ++ [(c, argument)], letters := [], rest }
        | argument, rest =>
          return .inl { found := o.found ++ [(c, argument)], letters := [], rest }
      | some _ => return .inl { o with found := o.found ++ [(c, [])], letters }) ⟨[], [], arguments⟩

def behindOptions : List Octets → List Octets
  | ['-', '-'] :: rest => rest
  | arguments => arguments

def number (argument : Octets) : Exec Nat := do
  match Octets.natural? argument with
  | some n =>
    if n < Nat.pow 2 31 then return n else Exec.fail ("Illegal number: ".toList ++ argument)
  | none => Exec.fail ("Illegal number: ".toList ++ argument)

/-- Write a text so that a shell reads it back as one word. -/
def quoted (t : Octets) : Octets :=
  let pieces := t.splitOn '\''
  ("'\"'\"'".toList).intercalate (pieces.map id) |> fun inner => '\'' :: inner ++ ['\'']

end Builtin

end Interpolation.Shell
