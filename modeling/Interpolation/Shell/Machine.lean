import Interpolation.Duration
import Interpolation.Host
import Interpolation.Shell.Grammar
import Interpolation.Shell.Signal
import Interpolation.Shell.Volume

/-!
# The state of a shell

A shell process has variables, functions, options, open streams and a directory of its own. What
processes share is the world: the files, what open streams lead to, and the time. A process that is
forked starts with a copy of what its parent has and leaves the world as it is then.
-/

namespace Interpolation.Shell

/-- A variable. One without a value may still be marked. -/
structure Variable where
  value : Option Octets := none
  isExported : Bool := false
  isReadOnly : Bool := false

/-- Bytes on their way from a writer to a reader. -/
structure Pipe where
  front : Octets := []
  back : List Octets := []
  size : Nat := 0
  allowance : Option Nat := none
  isCut : Bool := false

def Pipe.content (p : Pipe) : Octets :=
  if p.back.isEmpty then p.front else p.front ++ p.back.reverse.flatten

/-- What an open stream leads to. A file and a folder are known by their numbers. -/
inductive Target where
  | device (device : Device)
  | pipe (pipe : Pipe)
  | queue (node : Nat)
  | file (node offset : Nat) (appends : Bool)
  | folder (node : Nat)

structure Opened where
  target : Target
  isReadable : Bool := true
  isWritable : Bool := true

/-- What a function has made its own, as it was before: a variable, or the options. -/
inductive Saved where
  | variable (name : Octets) (was : Option Variable)
  | options (were : List Char)

/-- A background job. It runs when the shell waits for it. -/
structure Job where
  number : Nat
  started : Duration
  ended : Duration := 0
  ending : Option Ending := none
  isWaited : Bool := false

structure Process where
  number : Nat := 1
  isShell : Bool := true
  name : Octets := "sh".toList
  bindings : List (Octets × Variable) := []
  functions : List (Octets × Command) := []
  positional : List Octets := []
  options : List Char := []
  aliases : List (Octets × Octets) := []
  streams : List (Nat × Nat) := []
  directory : Octets := ['/']
  mask : Nat := 18
  status : Nat := 0
  substituted : Nat := 0
  line : Nat := 1
  readLine : Nat := 1
  utility : Option Octets := none
  traps : List (Nat × Octets) := []
  forkedFrom : Option (List (Nat × Octets)) := none
  parents : List Nat := []
  jobs : List (Option Nat) := []
  lastJob : Option Nat := none
  isTested : Bool := false
  remembered : List (Octets × Octets) := []
  loops : Nat := 0
  calls : Nat := 0
  locals : List (List Saved) := []
  optionIndex : Nat := 1
  optionPlace : Nat := 0
  lost : Option FileError := none
  starving : Option Nat := none
  lastSignal : Option Nat := none

structure World where
  volume : Volume := {}
  opened : Array Opened := #[]
  epoch : Int := 0
  elapsed : Duration := 0
  stamps : Nat := 0
  allowance : Nat := 65536
  nextProcess : Nat := 2
  jobs : List Job := []
  signals : List (Nat × Nat) := []
  waiting : List (Nat × Process × Command) := []
  documents : List (Nat × Word) := []
  nextDocument : Nat := 0

/-- A process in the world. -/
structure Machine where
  process : Process := {}
  world : World := {}

/-- Why a command does not come to its end. -/
inductive Stop where
  | exit
  | failed
  | broken (loops : Nat)
  | continued (loops : Nat)
  | returned
  | killed (process signal : Nat)
  | unread (key : Nat)
  | starved (key : Nat)
  | endless
  deriving DecidableEq, Repr

def Stop.isForced : Stop → Bool
  | .killed .. | .unread _ | .starved _ | .endless => true
  | _ => false

/-- What runs on a machine and may stop. -/
abbrev Exec := ExceptT Stop (StateM Machine)

namespace Exec

def ask {α : Type} (f : Process → α) : Exec α := do
  return f (← get).process

def change (f : Process → Process) : Exec Unit :=
  modify fun m => { m with process := f m.process }

def observe {α : Type} (f : World → α) : Exec α := do
  return f (← get).world

def affect (f : World → World) : Exec Unit :=
  modify fun m => { m with world := f m.world }

def setStatus (status : Nat) : Exec Unit :=
  change fun p => { p with status }

/-- Run something and report how it stops. -/
def attempt {α : Type} (run : Exec α) : Exec (Except Stop α) :=
  fun m => let (result, m) := run m; (.ok result, m)

/-- Go on with what an attempt has come to. -/
def resume {α : Type} : Except Stop α → Exec α
  | .ok a => return a
  | .error stop => throw stop

def eventually {α : Type} (run : Exec α) (after : Exec Unit) : Exec α := do
  let result ← attempt run
  after
  resume result

/-- Take steps until one is the last. -/
def loop {α β : Type} (step : α → Exec (α ⊕ β)) (a : α) : Exec β :=
  iterate (throw .endless) step patience a

def pass (d : Duration) : Exec Unit :=
  affect fun w => { w with elapsed := w.elapsed + d }

/-- The time on the clock, in nanoseconds. -/
def now : Exec Int := do
  let w ← observe id
  return w.epoch + w.elapsed + w.stamps

/-- A time that is later than all before it, for a change of a file. -/
def stamp : Exec Int := do
  affect fun w => { w with stamps := w.stamps + 1 }
  now

end Exec

end Interpolation.Shell
