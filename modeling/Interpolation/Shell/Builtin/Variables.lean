import Interpolation.Shell.Builtin.Options
import Interpolation.Shell.Expansion

/-!
# Utilities for variables

These utilities of the shell set, mark and read its variables, arguments, options and aliases.
-/

namespace Interpolation.Shell.Builtin

def listVariables (word : Octets) (kind : Variable → Bool) (withUnset : Bool) : Exec Unit := do
  let all := (← Exec.ask Process.bindings).filter fun (_, v) =>
    kind v && (withUnset || v.value.isSome)
  for (name, v) in all.mergeSort fun a b => !Octets.before b.1 a.1 do
    let value := match v.value with
      | some t => '=' :: quoted t
      | none => []
    Exec.printLine (word ++ name ++ value)

def marking (word : String) (kind : Variable → Bool) (mark : Variable → Variable) : Builtin :=
  fun _ arguments => do
    let (_, names) ← options "p" arguments
    if names.isEmpty then
      listVariables (word.toList ++ [' ']) kind true
      return 0
    for argument in names do
      let (name, value) := match Text.cutFirst '=' argument with
        | some (name, value) => (name, some value)
        | none => (argument, none)
      if !Octets.isName name then Exec.fail (name ++ ": bad variable name".toList)
      if value.isSome then Exec.assign name value false
      Exec.change fun p =>
        { p with bindings := Exec.update name (fun old => mark (old.getD {})) p.bindings }
    return 0

def exporting : Builtin :=
  marking "export" Variable.isExported fun v => { v with isExported := true }

def fixing : Builtin :=
  marking "readonly" Variable.isReadOnly fun v => { v with isReadOnly := true }

def save (saved : Saved) : Exec Unit :=
  Exec.change fun p =>
    { p with
      locals := match p.locals with
        | frame :: rest => (saved :: frame) :: rest
        | [] => [] }

def localize : Builtin := fun _ arguments => do
  if (← Exec.ask Process.calls) = 0 then Exec.fail "not in a function".toList
  for argument in arguments do
    let (name, value) := match Text.cutFirst '=' argument with
      | some (name, value) => (name, some value)
      | none => (argument, none)
    if argument == ['-'] then save (.options (← Exec.ask Process.options))
    else
      if !Octets.isName name then Exec.fail (name ++ ": bad variable name".toList)
      save (.variable name ((← Exec.ask Process.bindings).lookup name))
      if value.isSome then Exec.assign name value false
  return 0

def unset : Builtin := fun _ arguments => do
  let (found, names) ← options "vf" arguments
  let isFunction := (found.getLast?.map Prod.fst) == some 'f'
  for name in names do
    if isFunction then
      Exec.change fun p => { p with functions := p.functions.filter fun (n, _) => n != name }
    else
      if !Octets.isName name then Exec.fail (name ++ ": bad variable name".toList)
      if ((← Exec.ask Process.bindings).lookup name).any Variable.isReadOnly then
        Exec.fail (name ++ ": is read only".toList)
      Exec.change fun p => { p with bindings := p.bindings.filter fun (n, _) => n != name }
      if name == "OPTIND".toList then Exec.resetOptions []
  return 0

def shift : Builtin := fun _ arguments => do
  let n ← match arguments with
    | [] => pure 1
    | argument :: _ => number argument
  if (← Exec.ask Process.positional).length < n then Exec.fail "can't shift that many".toList
  Exec.change fun p =>
    { p with positional := p.positional.drop n, optionIndex := 1, optionPlace := 0 }
  return 0

def setOption (c : Char) (isOn : Bool) : Exec Unit :=
  Exec.change fun p =>
    let others := p.options.filter (· != c)
    { p with options := if isOn then c :: others else others }

def longOptions : List (String × Option Char) :=
  Expansion.options.map (fun (c, name) => (name, some c)) ++
    [("privileged", none), ("nolog", none), ("debug", none)]

def listOptions (asCommands : Bool) : Exec Unit := do
  let isOn (c : Option Char) : Exec Bool := Exec.ask fun p => c.any p.options.contains
  if asCommands then
    for (name, c) in longOptions do
      let sign := if ← isOn c then "set -o " else "set +o "
      Exec.printLine (sign.toList ++ name.toList)
  else
    Exec.printLine "Current option settings".toList
    for (name, c) in longOptions do
      let state := if ← isOn c then "on" else "off"
      Exec.printLine (Text.padRight 16 name.toList ++ state.toList)

def readOptions (isOn : Bool) : Octets → List Octets → Exec (List Octets)
  | [], rest => return rest
  | 'o' :: letters, rest => do
    match rest with
    | [] =>
      listOptions !isOn
      readOptions isOn letters rest
    | name :: rest =>
      match longOptions.find? fun (n, _) => n.toList == name with
      | some (_, some c) => setOption c isOn
      | some (_, none) => pure ()
      | none => Exec.fail ("Illegal option -o ".toList ++ name)
      readOptions isOn letters rest
  | c :: letters, rest => do
    if Expansion.options.any fun (d, _) => d == c then setOption c isOn
    else Exec.fail ("Illegal option -".toList ++ [c])
    readOptions isOn letters rest

def set : Builtin := fun _ arguments => do
  if arguments.isEmpty then
    listVariables [] (fun _ => true) false
    return 0
  let replace (arguments : List Octets) : Exec (List Octets ⊕ Nat) := do
    Exec.change fun p => { p with positional := arguments, optionIndex := 1, optionPlace := 0 }
    return .inr 0
  Exec.loop (fun arguments => do
    match arguments with
    | [] => return .inr 0
    | ['-'] :: rest =>
      setOption 'x' false
      setOption 'v' false
      if rest.isEmpty then return .inr 0 else replace rest
    | ['-', '-'] :: rest => replace rest
    | ('-' :: letters) :: rest => return .inl (← readOptions true letters rest)
    | ('+' :: letters) :: rest => return .inl (← readOptions false letters rest)
    | arguments => replace arguments) arguments

structure Line where
  stretches : List Stretch := []
  letters : List Letter := []
  isEscaped : Bool := false

def Line.close (l : Line) : Line :=
  { l with stretches := ⟨l.letters.reverse, .atBlanks, false⟩ :: l.stretches, letters := [] }

def Line.step (isRaw : Bool) (l : Line) (c : Char) : Line :=
  if c == Char.ofNat 0 then l
  else if l.isEscaped then
    let l := { l with isEscaped := false }
    if c == '\n' then l
    else
      let l := l.close
      { l with stretches := ⟨[.quoted c], .never, false⟩ :: l.stretches }
  else if c == '\\' && !isRaw then { l with isEscaped := true }
  else if c == '\n' then l
  else { l with letters := .plain c :: l.letters }

def lineLength? (isRaw : Bool) : Octets → Nat → Option Nat
  | [], _ => none
  | '\n' :: _, n => some (n + 1)
  | '\\' :: c :: rest, n =>
    if isRaw then lineLength? isRaw (c :: rest) (n + 1) else lineLength? isRaw rest (n + 2)
  | _ :: rest, n => lineLength? isRaw rest (n + 1)

def readLine (isRaw : Bool) : Exec (Line × Bool) := do
  match ← Exec.takeFrom 0 (lineLength? isRaw · 0) with
  | .ok text => return ((text.foldl (Line.step isRaw) {}).close, (lineLength? isRaw text 0).isSome)
  | .error _ => return (Line.close {}, false)

def read : Builtin := fun _ arguments => do
  let (found, names) ← options "p:r" arguments
  if names.isEmpty then Exec.fail "arg count".toList
  let (line, isWhole) ← readLine (found.any fun (c, _) => c == 'r')
  let fields := Fields.split (← Exec.separators) (some names.length) line.stretches.reverse
  for (name, i) in names.zipIdx do
    Exec.setVariable name (((fields[i]?).map Letter.text).getD [])
  return if isWhole then 0 else 1

def nextOption : Builtin := fun _ arguments => do
  match arguments with
  | allowed :: name :: rest =>
    let p ← Exec.ask id
    let all := if rest.isEmpty then p.positional else rest
    let isSilent := allowed.head? == some ':'
    let index := if all.length + 1 < p.optionIndex then 1 else p.optionIndex
    let setOptarg (value : Option Octets) : Exec Unit := Exec.assign "OPTARG".toList value false
    let finish (index : Nat) (answer : Octets) (place : Nat) (status : Nat) : Exec Nat := do
      Exec.setVariable "OPTIND".toList (Text.ofNat index)
      Exec.change fun p => { p with optionPlace := place }
      Exec.setVariable name answer
      return status
    let current := (all[index - 2]?).getD []
    let isInside := 1 < index && p.optionPlace != 0 && p.optionPlace < current.length
    let word := (all[index - 1]?).getD []
    let isOption := match word with
      | '-' :: _ :: _ => true
      | _ => false
    if !isInside && !isOption then finish index ['?'] 0 1
    else if !isInside && word == ['-', '-'] then finish (index + 1) ['?'] 0 1
    else
      let (index, letters, place) :=
        if isInside then (index, current.drop p.optionPlace, p.optionPlace)
        else (index + 1, word.drop 1, 1)
      let c := (letters.head?).getD '?'
      let rest := letters.tail
      let place := if rest.isEmpty then 0 else place + 1
      match if c == ':' then none else Text.cutFirst c allowed with
      | none =>
        if isSilent then setOptarg (some [c])
        else
          Exec.complainLine ("Illegal option -".toList ++ [c])
          setOptarg none
        finish index ['?'] place 0
      | some (_, ':' :: _) =>
        match rest, all[index - 1]? with
        | [], none =>
          if isSilent then
            setOptarg (some [c])
            finish index [':'] 0 0
          else
            Exec.complainLine ("No arg for -".toList ++ [c] ++ " option".toList)
            setOptarg none
            finish index ['?'] 0 0
        | [], some argument =>
          setOptarg (some argument)
          finish (index + 1) [c] 0 0
        | argument, _ =>
          setOptarg (some argument)
          finish index [c] 0 0
      | some _ =>
        setOptarg (some [])
        finish index [c] place 0
  | _ => Exec.fail "Usage: getopts optstring var [arg...]".toList

def setAlias : Builtin := fun _ arguments => do
  let shown (entry : Octets × Octets) : Octets := entry.1 ++ '=' :: quoted entry.2
  if arguments.isEmpty then
    for entry in ← Exec.ask Process.aliases do Exec.printLine (shown entry)
    return 0
  let mut status := 0
  for argument in arguments do
    match Text.cutFirst '=' argument with
    | some (name, text) =>
      Exec.change fun p => { p with aliases := Exec.update name (fun _ => text) p.aliases }
    | none =>
      match (← Exec.ask Process.aliases).lookup argument with
      | some text => Exec.printLine (shown (argument, text))
      | none =>
        Exec.complainLine ("alias: ".toList ++ argument ++ " not found".toList)
        status := 1
  return status

/-- Take the text of words away. -/
def dropAlias : Builtin := fun _ arguments => do
  let (found, names) ← options "a" arguments
  if !found.isEmpty then
    Exec.change fun p => { p with aliases := [] }
    return 0
  let mut status := 0
  for name in names do
    if ((← Exec.ask Process.aliases).lookup name).isSome then
      Exec.change fun p => { p with aliases := p.aliases.filter fun (n, _) => n != name }
    else
      Exec.complainLine ("unalias: ".toList ++ name ++ " not found".toList)
      status := 1
  return status

end Interpolation.Shell.Builtin
