import Interpolation.Shell.Access

/-!
# Processes

A process may fork: the fork runs on a copy, and only its status and what it has done to the world
come back. Background jobs are forks that run when something waits for them, in a time of their own.
-/

namespace Interpolation.Shell

/-- What may run: a command or the lines of a text, whose failure may be tested, or a utility
outside the shell by its path. -/
inductive Task where
  | command (c : Command) (isTested : Bool)
  | text (t : Octets) (isTested : Bool)
  | utility (path : Octets) (arguments : List Octets)

abbrev Runner := Task → Exec Unit

namespace Exec

def runExitTrap (run : Runner) : Exec Unit := do
  match (← ask Process.traps).lookup 0 with
  | none => return
  | some action =>
    let status ← ask Process.status
    change fun p => { p with traps := p.traps.filter fun (n, _) => n != 0 }
    match ← attempt (run (.text action false)) with
    | .ok () => setStatus status
    | .error stop => if stop.isForced then throw stop

def runJob (run : Runner) (finish : Exec Unit → Exec Unit) (number : Nat) : Exec Unit := do
  match (← observe World.waiting).find? fun (n, _, _) => n == number with
  | none => return
  | some (_, process, body) =>
    let here ← ask id
    let now ← observe World.elapsed
    let started := ((← observe World.jobs).find? fun j => j.number == number).map Job.started
    affect fun w =>
      { w with
        waiting := w.waiting.filter fun (n, _, _) => n != number
        elapsed := started.getD now }
    change fun _ => process
    let result ← attempt (finish (run (.command body false)))
    let status ← ask Process.status
    change fun _ => here
    affect fun w =>
      { w with
        jobs := w.jobs.map fun j =>
          if j.number = number then
            { j with ending := some (.exit (status % 256)), ended := w.elapsed }
          else j
        elapsed := now }
    if let .error stop := result then
      if stop.isForced then throw stop

def pendingJobs : Exec (List Nat) := do
  let mine ← ask Process.jobs
  return (← observe World.waiting).filterMap fun (n, _, _) =>
    if mine.contains (some n) then some n else none

def finishUpTo (run : Runner) : Nat → Exec Unit → Exec Unit
  | 0, body => body
  | depth + 1, body => do
    if let .error stop := ← attempt body then
      if stop.isForced then throw stop
    runExitTrap run
    for number in ← pendingJobs do
      runJob run (finishUpTo run depth) number
      affect fun w =>
        let ended := ((w.jobs.find? fun j => j.number == number).map Job.ended).getD 0
        { w with elapsed := max w.elapsed ended }

def finish (run : Runner) (body : Exec Unit) : Exec Unit :=
  finishUpTo run 1000 body

def forkOf (p : Process) : Process :=
  { p with
    jobs := []
    forkedFrom := p.forkedFrom.or (some p.traps)
    traps := p.traps.filter fun (n, action) => n != 0 && action.isEmpty }

def forked (run : Runner) (body : Exec Unit) : Exec Nat := do
  let here ← ask id
  change forkOf
  let result ← attempt (finish run body)
  let status ← ask Process.status
  change fun _ => here
  match result with
  | .error (.unread _) => return 128 + Signal.pipe
  | .error stop => if stop.isForced then throw stop else return status % 256
  | .ok () => return status % 256

/-- Run something in a fork and take what it prints. -/
def captured (run : Runner) (body : Exec Unit) : Exec (Octets × Nat) := do
  let key ← openTarget { target := .pipe {} }
  let status ← forked run do
    connect 1 key
    body
  match ← opened? key with
  | some { target := .pipe p, .. } => return (p.content, status)
  | _ => return ([], status)

def reportSignal (signal : Nat) : Exec Unit := do
  if signal != 2 && signal != Signal.pipe then complainLine (Signal.description signal)

def spawned (run : Runner) (process : Nat → Process) (body : Exec Unit) : Exec Ending := do
  let here ← ask id
  let number ← observe World.nextProcess
  affect fun w => { w with nextProcess := number + 1 }
  change fun _ => process number
  let result ← attempt (finish run body)
  let status ← ask Process.status
  change fun _ => here
  match result with
  | .error (.killed n signal) =>
    if n = number then return .signal signal else throw (.killed n signal)
  | .error (.unread _) => return .signal Signal.pipe
  | .error stop => if stop.isForced then throw stop else return .exit (status % 256)
  | .ok () => return .exit (status % 256)

def placed (all : List Job) (number : Nat) : List (Option Nat) → List (Option Nat)
  | [] => [some number]
  | none :: rest => some number :: rest
  | some other :: rest =>
    if all.any fun j => j.number == other && j.isWaited then some number :: rest
    else some other :: placed all number rest

def start (body : Command) : Exec Nat := do
  let key ← openTarget { target := .device .null }
  let process ← ask fun p =>
    let p := forkOf p
    { p with streams := (0, key) :: p.streams.filter fun (n, _) => n != 0 }
  let number ← observe World.nextProcess
  affect fun w =>
    { w with
      nextProcess := number + 1
      jobs := w.jobs ++ [{ number, started := w.elapsed }]
      waiting := w.waiting ++ [(number, process, body)] }
  let all ← observe World.jobs
  change fun p => { p with jobs := placed all number p.jobs, lastJob := some number }
  return number

def waitFor? (run : Runner) (number : Nat) : Exec (Option Ending) := do
  runJob run (finish run) number
  match (← observe World.jobs).find? fun j => j.number == number with
  | some job =>
    affect fun w =>
      { w with
        elapsed := max w.elapsed job.ended
        jobs := w.jobs.map fun j => if j.number = number then { j with isWaited := true } else j }
    return job.ending
  | none => return none

def send (number signal : Nat) : Exec Bool := do
  let p ← ask id
  if number = p.number then
    let traps := p.forkedFrom.getD p.traps
    match if Signal.isFinal signal then none else traps.lookup signal with
    | some [] => return true
    | some _ =>
      affect fun w => { w with signals := w.signals ++ [(number, signal)] }
      return true
    | none => if Signal.isHarmless signal then return true else throw (.killed number signal)
  else if p.parents.contains number then
    if Signal.isHarmless signal then return true else throw (.killed number signal)
  else if (← observe World.waiting).any fun (n, _, _) => n == number then
    if !Signal.isHarmless signal then
      affect fun w =>
        { w with
          waiting := w.waiting.filter fun (n, _, _) => n != number
          jobs := w.jobs.map fun j =>
            if j.number = number then { j with ending := some (.signal signal), ended := w.elapsed }
            else j }
    return true
  else return false

def runTraps (run : Runner) : Exec Unit := do
  let p ← ask id
  let mine := (← observe World.signals).filter fun (n, _) => n == p.number
  if mine.isEmpty || p.forkedFrom.isSome then return
  affect fun w => { w with signals := w.signals.filter fun (n, _) => n != p.number }
  for (_, signal) in mine do
    match p.traps.lookup signal with
    | some action =>
      let status ← ask Process.status
      run (.text action false)
      setStatus status
    | none => pure ()

end Exec

end Interpolation.Shell
