import Interpolation.Shell.Condition
import Interpolation.Shell.Utility.Escapes
import Interpolation.Shell.Utility.Numbers

/-!
# Utilities that print

These utilities print their arguments, numbers, parts of paths, the environment, and what is known
of the host.
-/

namespace Interpolation.Shell.Utility

def echo : Utility := fun _ arguments => do
  let isOption (w : Octets) : Bool := match w with
    | '-' :: c :: letters => (c :: letters).all "neE".toList.contains
    | _ => false
  let options := (arguments.takeWhile isOption).flatten
  let text := Octets.spaced (arguments.dropWhile isOption)
  let readsEscapes := (options.filter fun c => c == 'e' || c == 'E').getLast? == some 'e'
  let (text, stops) := if readsEscapes then echoText (text.length + 1) text else (text, false)
  Exec.print (if stops || options.contains 'n' then text else text ++ ['\n'])
  return 0

def yes : Utility := fun _ arguments => do
  let line := (if arguments.isEmpty then ['y'] else Octets.spaced arguments) ++ ['\n']
  let block := (List.replicate (8192 / line.length + 1) line).flatten
  Exec.loop (fun (n : Nat) => do
    Exec.print block
    if (← Exec.ask Process.lost).isSome then return .inr 1
    else if 4000 < n then throw .endless
    else return .inl (n + 1)) 0

def printenv : Utility :=
  withOptions { name := "printenv", letters := "0", words := [("null", '0')], wrong := 2 }
    fun _ found operands => do
      let last := if has found '0' then [Char.ofNat 0] else ['\n']
      let entries ← Exec.environment
      if operands.isEmpty then
        for (name, value) in entries do Exec.print (name ++ '=' :: value ++ last)
        return 0
      for name in operands do
        match entries.lookup name with
        | some value => Exec.print (value ++ last)
        | none => pure ()
      return status (operands.all fun name => (entries.lookup name).isSome)

def tty : Utility :=
  withOptions { name := "tty", letters := "s", wrong := 2 } fun _ found _ => do
    if !has found 's' then Exec.printLine "not a tty".toList
    return 1

def whoami : Utility := fun _ _ => do
  Exec.printLine "root".toList
  return 0

def groups : Utility :=
  withOptions { name := "groups" } fun _ _ operands => do
    forAll (if operands.isEmpty then [[]] else operands) fun name => do
      if name.isEmpty then Exec.printLine "root".toList
      else if name == "root".toList then Exec.printLine "root : root".toList
      else
        complain "groups" (quote name ++ ": no such user".toList)
        return false
      return true

def identity : Utility :=
  withOptions { name := "id", letters := "ugGnr", words := [("user", 'u'), ("group", 'g'),
      ("groups", 'G'), ("name", 'n'), ("real", 'r')] } fun _ found _ => do
    let isName := has found 'n'
    if has found 'u' || has found 'g' || has found 'G' then
      Exec.printLine (if isName then "root".toList else ['0'])
    else Exec.printLine "uid=0(root) gid=0(root) groups=0(root)".toList
    return 0

def uname : Utility :=
  withOptions { name := "uname", letters := "asnrvmpio" } fun _ found _ => do
    let parts := [('s', "Linux"), ('m', "x86_64"), ('p', "x86_64"), ('i', "x86_64"),
      ('o', "GNU/Linux")]
    let chosen := if found.isEmpty then ["Linux"]
      else parts.filterMap fun (c, text) => if has found c || has found 'a' then some text else none
    Exec.printLine (Octets.spaced (chosen.map String.toList))
    return 0

def logname : Utility := fun _ _ => do
  complain "logname" "no login name".toList
  return 1

def architecture : Utility := fun _ _ => do
  Exec.printLine "x86_64".toList
  return 0

def pwd : Utility := fun _ _ => do
  Exec.printLine (← Exec.ask Process.directory)
  return 0

def constant (status : Nat) : Utility := fun _ _ =>
  return status

def test : Utility := fun _ arguments => do
  match ← Exec.attempt (Condition.holds arguments) with
  | .ok answer => return status answer
  | .error .failed => return 2
  | .error stop => throw stop

def bracketed : Utility := fun run arguments => do
  match arguments.getLast? with
  | some [']'] => test run arguments.dropLast
  | _ =>
    complain "[" "missing ']'".toList
    return 2

def timeUnits : List (Char × Nat) :=
  [('s', 1), ('m', 60), ('h', 3600), ('d', 86400)]

def pause? (t : Octets) : Option Duration := do
  if t == "inf".toList || t == "infinity".toList then some (Duration.millisecond * Nat.pow 10 12)
  else
    let (number, unit) := match t.getLast?.bind fun c => timeUnits.lookup c with
      | some unit => (t.dropLast, unit)
      | none => (t, 1)
    let (n, denominator) ← Real.decimal? number
    if n < 0 then none
    else some (n.toNat * unit * 1000 * Duration.millisecond / denominator)

/-- Let time pass; background jobs go on in it. -/
def sleep : Utility :=
  let known : Known := { name := "sleep" }
  withOptions known fun run _ operands => do
    if operands.isEmpty then misuse known "missing operand".toList
    else
      match operands.filter fun a => (pause? a).isNone with
      | [] =>
        for job in ← Exec.pendingJobs do Exec.runJob run (Exec.finish run) job
        Exec.pass (Text.total (operands.filterMap pause?))
        return 0
      | wrong =>
        for w in wrong do complain "sleep" ("invalid time interval ".toList ++ quote w)
        hint "sleep"
        return 1

end Interpolation.Shell.Utility
