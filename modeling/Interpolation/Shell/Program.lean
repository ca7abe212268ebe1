import Interpolation.Shell.Execution
import Interpolation.Shell.Utility

/-!
# Programs

A program is a file that may be run: a utility, or a script. A script is run by the shell, unless
its first line names another program.
-/

namespace Interpolation.Shell

namespace Program

def interpreter? (content : Octets) : Option (List Octets) :=
  match content with
  | '#' :: '!' :: rest =>
    let line := (rest.takeWhile (· != '\n')).dropWhile Octets.isBlank
    let path := line.takeWhile fun c => !Octets.isBlank c
    let argument := (line.drop path.length).dropWhile Octets.isBlank
    let argument := (argument.reverse.dropWhile Octets.isBlank).reverse
    some (path :: if argument.isEmpty then [] else [argument])
  | _ => none

def process (here : Process) (name : Octets) (environment : List (Octets × Octets))
    (number : Nat) : Process :=
  { number, name, isShell := false
    bindings := environment.map fun (n, value) => (n, Variable.ofValue true value)
    streams := here.streams, directory := here.directory, mask := here.mask
    parents := here.number :: here.parents }

def runUtility (run : Runner) (utility : Utility) (words : List Octets) : Exec Unit := do
  let here ← Exec.ask id
  let environment ← Exec.environment
  let ending ← Exec.spawned run (process here (words.headD []) environment) do
    let status ← utility run words.tail
    Exec.setStatus status
    let p ← Exec.ask id
    if let some key := p.starving then throw (.starved key)
    if p.isShell then return
    if let some why := p.lost then
      let name := String.ofList (Utility.nameOf (words.headD []))
      Utility.complain name ("write error: ".toList ++ why.message)
      Exec.setStatus (max status 1)
  Exec.setStatus ending.status
  match ending with
  | .signal n => Exec.change fun p => { p with lastSignal := some n }
  | .exit _ => return

def refuse (path : Octets) (status : Nat) (why : String) : Exec Unit := do
  Exec.complain (path ++ ": ".toList ++ why.toList)
  Exec.setStatus status

def runFile (run : Runner) (path : Octets) (words : List Octets) : Exec Unit := do
  match ← Exec.refusal? path with
  | some (status, why) => refuse path status why
  | none =>
    let content := match ← Exec.content? path with
      | .ok content => content
      | .error _ => []
    match Utility.ofContent? content with
    | some utility => runUtility run utility words
    | none =>
      match interpreter? content with
      | none => runUtility run Utility.shell (['s', 'h'] :: path :: words.tail)
      | some [] => refuse path 127 "not found"
      | some (program :: arguments) =>
        match ← Exec.refusal? program with
        | some _ => refuse path 127 "not found"
        | none => run (.utility program (program :: arguments ++ path :: words.tail))

/-- Run a task, to a depth of tasks that run others. What goes deeper is ended by a signal. -/
def perform : Nat → Runner
  | 0, _ => do throw (.killed (← Exec.ask Process.number) 11)
  | depth + 1, task =>
    let run : Runner := perform depth
    match task with
    | .command c isTested => Execution.command run c isTested
    | .text t isTested => Execution.text run t isTested
    | .utility path words => runFile run path words

end Program

end Interpolation.Shell
