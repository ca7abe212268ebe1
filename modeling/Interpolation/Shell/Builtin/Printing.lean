import Interpolation.Shell.Builtin.Options
import Interpolation.Shell.Condition
import Interpolation.Shell.Format

/-!
# Utilities that print and ask

These utilities of the shell print text and directories, change the directory, work out conditions
and say what a name stands for.
-/

namespace Interpolation.Shell.Builtin

def echo : Builtin := fun _ arguments => do
  let (words, last) := match arguments with
    | ['-', 'n'] :: rest => (rest, [])
    | words => (words, ['\n'])
  let (text, stops) := Escape.text (Octets.spaced words)
  Exec.print (if stops then text else text ++ last)
  return 0

def printf : Builtin := fun _ arguments => do
  let (_, arguments) ← options "" arguments
  match arguments with
  | [] => Exec.fail "usage: printf format [arg ...]".toList
  | format :: arguments =>
    let p := Format.print format arguments
    for complaint in p.complaints do Exec.complain complaint
    match p.fault with
    | some fault =>
      Exec.complain fault
      Exec.print p.output
      return 2
    | none =>
      Exec.print p.output
      return if p.complaints.isEmpty then 0 else 1

def physical? (path : Octets) : Exec (Option Octets) := do
  match ← Exec.find? true path with
  | .error _ => return none
  | .ok folder =>
    let volume ← Exec.observe World.volume
    return if volume.isFolder folder then some (volume.path folder) else none

def isPhysical (found : List (Char × Octets)) : Bool :=
  (found.getLast?.map Prod.fst) == some 'P'

def pwd : Builtin := fun _ arguments => do
  let (found, _) ← options "LP" arguments
  let directory ← Exec.ask Process.directory
  if isPhysical found then Exec.printLine ((← physical? directory).getD directory)
  else Exec.printLine directory
  return 0

def startsDoubled : Octets → Bool
  | '/' :: '/' :: rest => rest.head? != some '/'
  | _ => false

def stepped (directory path : Octets) : Octets :=
  let isAbsolute := path.head? == some '/'
  let start := if isAbsolute then [] else directory.splitOn '/'
  let steps := (start ++ path.splitOn '/').foldl (fun (steps : List Octets) step =>
    if step.isEmpty || step == ['.'] then steps
    else if step == ['.', '.'] then steps.tail
    else step :: steps) []
  let root := if startsDoubled (if isAbsolute then path else directory) then ['/', '/'] else ['/']
  root ++ ['/'].intercalate steps.reverse

def cd : Builtin := fun _ arguments => do
  let (found, rest) ← options "LP" arguments
  let p ← Exec.ask id
  let wanted := match rest with
    | [] => (Exec.valueOf p "HOME".toList).getD []
    | ['-'] :: _ => (Exec.valueOf p "OLDPWD".toList).getD []
    | path :: _ => path
  let path := if wanted.isEmpty then ['.'] else wanted
  let go (target : Octets) : Exec Bool := do
    let next := if isPhysical found then target else stepped p.directory target
    match ← physical? next with
    | none => return false
    | some path =>
      Exec.assign "OLDPWD".toList (some p.directory) true
      Exec.change fun p => { p with directory := if isPhysical found then path else next }
      Exec.assign "PWD".toList (some (← Exec.ask Process.directory)) true
      return true
  let searched :=
    if path.head? == some '/' || path.head? == some '.' then []
    else ((Exec.valueOf p "CDPATH".toList).getD []).splitOn ':' |>.filter (!·.isEmpty)
  for folder in searched do
    if ← go (Lookup.inFolder folder path) then
      Exec.printLine (← Exec.ask Process.directory)
      return 0
  if ← go path then
    if rest.head? == some ['-'] then Exec.printLine (← Exec.ask Process.directory)
    return 0
  else Exec.fail ("can't cd to ".toList ++ wanted)

def test : Builtin := fun _ arguments => do
  return if ← Condition.holds arguments then 0 else 1

def bracketed : Builtin := fun run arguments => do
  if arguments.getLast? == some [']'] then test run arguments.dropLast
  else Exec.fail "missing ]".toList

def isKeyword (name : Octets) : Bool :=
  (Token.keyword? name).isSome

def describe (name : Octets) (isShort : Bool) (path : Option Octets) : Exec Bool := do
  let say (long short : Octets) : Exec Bool := do
    Exec.printLine (if isShort then short else name ++ long)
    return true
  let missing : Exec Bool := do
    if !isShort then Exec.printLine (name ++ ": not found".toList)
    return false
  if isKeyword name then return ← say " is a shell keyword".toList name
  match (← Exec.ask Process.aliases).lookup name with
  | some text =>
    say (" is an alias for ".toList ++ text) ("alias ".toList ++ name ++ '=' :: quoted text)
  | none =>
    match ← Exec.lookup true path name with
    | .function _ => say " is a shell function".toList name
    | .special =>
      if Parse.reserved.any (·.toList == name) then
        say " is a special shell builtin".toList name
      else say " is a shell builtin".toList name
    | .builtin => say " is a shell builtin".toList name
    | .file found =>
      if name.contains '/' then
        match ← Exec.find? true name with
        | .ok _ => say (" is ".toList ++ name) name
        | .error _ => missing
      else
        let tracked := if ((← Exec.ask Process.remembered).lookup name).isSome
          then " a tracked alias for".toList else []
        say (" is".toList ++ tracked ++ ' ' :: found) found
    | .nothing _ => missing

def type : Builtin := fun _ arguments => do
  let path ← Exec.value? "PATH".toList
  let mut status := 0
  for name in arguments do
    if !(← describe name false path) then status := 127
  return status

def command : Builtin := fun _ arguments => do
  let (found, names) ← options "pvV" arguments
  let path ← Exec.value? "PATH".toList
  match names, found.find? fun (c, _) => c != 'p' with
  | name :: _, some (c, _) => return if ← describe name (c == 'v') path then 0 else 127
  | _, _ => return 0

/-- Remember or list the paths of utilities. -/
def hash : Builtin := fun _ arguments => do
  let (found, names) ← options "r" arguments
  if !found.isEmpty then
    Exec.change fun p => { p with remembered := [] }
    return 0
  if names.isEmpty then
    for (_, path) in ← Exec.ask Process.remembered do Exec.printLine path
    return 0
  let mut status := 0
  for name in names do
    match ← Exec.lookup false (← Exec.value? "PATH".toList) name with
    | .file path =>
      Exec.change fun p => { p with remembered := Exec.update name (fun _ => path) p.remembered }
    | .nothing _ =>
      Exec.complain (name ++ ": not found".toList)
      status := 1
    | _ => pure ()
  return status

end Interpolation.Shell.Builtin
