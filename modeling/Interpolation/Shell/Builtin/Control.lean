import Interpolation.Shell.Builtin.Options

/-!
# Utilities for the course of a shell

These utilities end loops, functions and the shell, run other text, set traps, and look after
signals and jobs.
-/

namespace Interpolation.Shell.Builtin

def leaveLoops (stop : Nat → Stop) : Builtin := fun _ arguments => do
  let n ← match arguments with
    | [] => pure 1
    | argument :: _ => do
      let n ← number argument
      if n = 0 then Exec.fail ("Illegal number: ".toList ++ argument)
      pure n
  let loops ← Exec.ask Process.loops
  if loops = 0 then return 0
  Exec.setStatus 0
  throw (stop (min n loops))

def exit : Builtin := fun _ arguments => do
  match arguments with
  | [] => throw .exit
  | argument :: _ =>
    Exec.setStatus (← number argument)
    throw .exit

def «return» : Builtin := fun _ arguments => do
  match arguments with
  | [] => throw .returned
  | argument :: _ =>
    Exec.setStatus (← number argument)
    throw .returned

def eval : Builtin := fun run arguments => do
  run (.text (Octets.spaced arguments) (← Exec.ask Process.isTested))
  Exec.ask Process.status

def source : Builtin := fun run arguments => do
  match arguments with
  | [] => return 0
  | name :: _ =>
    let missing : Exec Nat :=
      if name.contains '/' then Exec.fail ("cannot open ".toList ++ name ++ ": No such file".toList)
      else Exec.fail (name ++ ": not found".toList)
    let candidates ←
      if name.contains '/' then pure [name]
      else do
        let path ← Exec.value? "PATH".toList
        pure ((Lookup.folders path).map fun folder => Lookup.inFolder folder name)
    let mut content : Option (Octets × Octets) := none
    for candidate in candidates do
      if content.isNone then
        match ← Exec.content? candidate with
        | .ok text => content := some (candidate, text)
        | .error _ => pure ()
    match content with
    | none => missing
    | some (path, text) =>
      let line ← Exec.ask Process.line
      Exec.change fun p => { p with utility := some path }
      let result ← Exec.attempt (run (.text text false))
      Exec.change fun p => { p with line }
      match result with
      | .ok () | .error .returned => Exec.ask Process.status
      | .error stop => throw stop

def trap : Builtin := fun _ arguments => do
  let (_, arguments) ← options "" arguments
  match arguments with
  | [] =>
    let traps ← Exec.ask Process.traps
    for (n, action) in traps.mergeSort fun a b => a.1 ≤ b.1 do
      Exec.printLine ("trap -- ".toList ++ quoted action ++ ' ' :: Signal.listed n)
    return 0
  | first :: rest =>
    let (action, names) :=
      if rest.isEmpty || (Octets.natural? first).any fun n => n ≤ Signal.last then (none, arguments)
      else (if first == ['-'] then none else some first, rest)
    for name in names do
      match Signal.number? name with
      | none =>
        Exec.complainLine ("trap: ".toList ++ name ++ ": bad trap".toList)
        return 1
      | some n =>
        Exec.change fun p =>
          let others := p.traps.filter fun (m, _) => m != n
          { p with traps := match action with
            | some text => (n, text) :: others
            | none => others }
    return 0

def killUsage {α : Type} : Exec α :=
  Exec.fail ("Usage: kill [-s sigspec | -signum | -sigspec] [pid | job]... or\n" ++
    "kill -l [exitstatus]").toList

def jobOf (argument : Octets) : Exec Nat := do
  let jobs ← Exec.ask Process.jobs
  let found := match argument with
    | ['%'] | ['%', '%'] | ['%', '+'] => (jobs.filterMap id).getLast?
    | '%' :: digits => (Octets.natural? digits).bind fun n => (jobs[n - 1]?).join
    | _ => none
  match found with
  | some number => return number
  | none => Exec.fail ("No such job: ".toList ++ argument)

def listSignals (arguments : List Octets) : Exec Nat := do
  match arguments with
  | [] =>
    Exec.printLine ['0']
    for n in List.range Signal.last do Exec.printLine (Signal.listed (n + 1))
    return 0
  | argument :: _ =>
    let n ← number argument
    let signal := if 128 < n then n - 128 else n
    if 0 < signal && signal ≤ Signal.last then
      Exec.printLine (Signal.listed signal)
      return 0
    else Exec.fail ("invalid signal number or exit status: ".toList ++ argument)

def kill : Builtin := fun _ arguments => do
  let sendAll (signal : Nat) (targets : List Octets) : Exec Nat := do
    if targets.isEmpty then killUsage
    let mut status := 0
    for target in targets do
      let isSent ←
        match target with
        | '%' :: _ => do
          let _ ← jobOf target
          pure false
        | '-' :: digits => do
          let _ ← number digits
          pure false
        | _ => do Exec.send (← number target) signal
      if !isSent then
        Exec.complain "No such process\n".toList
        status := 1
    return status
  match arguments with
  | [] => killUsage
  | ('-' :: name) :: rest =>
    let signal? := if name == ['0'] then some 0 else (Signal.number? name).filter (0 < ·)
    match signal? with
    | some signal => sendAll signal rest
    | none =>
      let (found, rest) ← options "ls:" arguments
      let mut signal := 15
      for (c, name) in found do
        if c == 's' then
          match Signal.number? name with
          | some n => signal := n
          | none => Exec.fail ("invalid signal number or name: ".toList ++ name)
      if found.any fun (c, _) => c == 'l' then listSignals rest else sendAll signal rest
  | targets => sendAll 15 targets

def wait : Builtin := fun run arguments => do
  let (_, arguments) ← options "" arguments
  match arguments with
  | [] =>
    for job in (← Exec.ask Process.jobs).filterMap id do
      let _ ← Exec.waitFor? run job
    return 0
  | _ =>
    let mut status := 127
    for argument in arguments do
      let job ← if argument.head? == some '%' then jobOf argument else number argument
      let mine ← Exec.ask Process.jobs
      status := 127
      if mine.contains (some job) then
        match ← Exec.waitFor? run job with
        | some ending =>
          match ending with
          | .signal n => Exec.reportSignal n
          | .exit _ => pure ()
          status := ending.status
        | none => pure ()
    return status

def stateOf (now : Duration) (job : Job) : Octets :=
  match job.ending with
  | none => "Running".toList
  | some ending =>
    if now < job.ended then "Running".toList
    else
      match ending with
      | .exit 0 => "Done".toList
      | .exit n => "Done(".toList ++ Text.ofNat n ++ [')']
      | .signal n => Signal.description n

def jobs : Builtin := fun _ arguments => do
  let (found, _) ← options "lp" arguments
  let now ← Exec.observe World.elapsed
  let all ← Exec.observe World.jobs
  let mine := (← Exec.ask Process.jobs).zipIdx.filterMap fun (place, i) =>
    place.bind fun number => (all.find? fun j => j.number == number).map fun job => (job, i)
  let mut rank := 0
  for (job, i) in mine.reverse do
    let sign := if rank = 0 then '+' else if rank = 1 then '-' else ' '
    let state := stateOf now job
    let lead := "[".toList ++ Text.ofNat (i + 1) ++ "] ".toList ++ [sign, ' ']
    if found.any fun (c, _) => c == 'p' then Exec.printLine (Text.ofNat job.number)
    else if found.any fun (c, _) => c == 'l' then
      Exec.printLine (Text.padRight 33 (lead ++ Text.ofNat job.number ++ ' ' :: state))
    else Exec.printLine (Text.padRight 33 (lead ++ state))
    if state == "Running".toList then rank := rank + 1
    else
      Exec.change fun p =>
        { p with jobs := p.jobs.map fun place => if place = some job.number then none else place }
  return 0

def resumeJob : Builtin := fun _ arguments => do
  match arguments with
  | argument :: _ =>
    let _ ← jobOf argument
  | [] => if ((← Exec.ask Process.jobs).filterMap id).isEmpty then Exec.fail "No current job".toList
  Exec.fail ("job ".toList ++ arguments.headD "(null)".toList ++
    " not created under job control".toList)

def times : Builtin := fun _ _ => do
  let line := "0m0.000000s 0m0.000000s".toList
  Exec.printLine line
  Exec.printLine line
  return 0

def rightsOf (letters : Octets) : Nat :=
  let bit (c : Char) (n : Nat) : Nat := if letters.contains c then n else 0
  bit 'r' 4 + bit 'w' 2 + bit 'x' 1

def clause? (rights : Nat) (clause : Octets) : Option Nat :=
  let (who, action) := clause.span "ugoa".toList.contains
  match action with
  | sign :: letters =>
    if !"+-=".toList.contains sign || !letters.all "rwxXst".toList.contains then none
    else
      let isMeant (c : Char) : Bool := who.isEmpty || who.contains c || who.contains 'a'
      let named := rightsOf letters
      let changed (old : Nat) : Nat :=
        if sign == '+' then old ||| named else if sign == '-' then old &&& (7 ^^^ named) else named
      let part (c : Char) (unit : Nat) : Nat :=
        let old := rights / unit % 8
        unit * if isMeant c then changed old else old
      some (part 'u' 64 + part 'g' 8 + part 'o' 1)
  | [] => none

def umask : Builtin := fun _ arguments => do
  let (found, rest) ← options "S" arguments
  let mask ← Exec.ask Process.mask
  match rest with
  | [] =>
    if found.isEmpty then Exec.printLine (Text.padLeft '0' 4 (Nat.toDigits 8 mask))
    else
      let rights (shift : Nat) : Octets :=
        let bits := mask / Nat.pow 8 shift % 8
        [(4, 'r'), (2, 'w'), (1, 'x')].filterMap fun (bit, c) =>
          if bits / bit % 2 = 0 then some c else none
      Exec.printLine
        ("u=".toList ++ rights 2 ++ ",g=".toList ++ rights 1 ++ ",o=".toList ++ rights 0)
    return 0
  | argument :: _ =>
    if (argument.head?).any Char.isDigit then
      let (count, n, rest) := Octets.takeDigits 8 argument
      if count = 0 || !rest.isEmpty || 511 < n then
        Exec.fail ("Illegal number: ".toList ++ argument)
      Exec.change fun p => { p with mask := n }
      return 0
    else
      match (argument.splitOn ',').foldlM clause? (511 - mask) with
      | some rights =>
        Exec.change fun p => { p with mask := 511 - rights }
        return 0
      | none => Exec.fail ("Illegal mode: ".toList ++ argument)

/-- Print a limit; there are none. -/
def ulimit : Builtin := fun _ arguments => do
  let (_, rest) ← options "HSatfdscmlpnvwr" arguments
  if rest.isEmpty then Exec.printLine "unlimited".toList
  return 0

end Interpolation.Shell.Builtin
