import Interpolation.Resolution.Commands
import Interpolation.Substitution

/-!
# Resolving a template

A pass substitutes what the context knows and then runs the commands. A recursive resolution repeats
the pass while a token is left that asks for it. It ends with an error if a text comes back that a
pass has already started from, with no command run in between, or if more passes are needed than
allowed. The number of passes still allowed bounds the work.
-/

namespace Interpolation

/-- The switches and limits of a resolution. -/
structure Options where
  recursive : Bool := false
  maxDepth : Nat := 8
  maxCommands : Nat := 32
  timeout : Option Duration := none
  deriving DecidableEq, Repr

/-- What a resolution comes to: the text or an error, the state of the executor, and what
happened. -/
structure Resolution (σ : Type) where
  result : Except ResolveError Text
  state : σ
  events : List Event

/-- Where a resolution stands before a pass. -/
structure Progress (σ : Type) where
  pass : Nat
  seen : List Text
  current : Text
  left : Nat
  clock : Clock
  state : σ

variable {σ : Type}

/-- One pass: substitute, then run the commands. -/
def runPass (opts : Options) (ctx : Context) (ex : Executor σ) (p : Progress σ) : CommandRun σ :=
  let run := runCommands ex opts.maxCommands p.left p.clock p.state (substitute ctx p.current)
  let started := .passStarted p.pass (Text.byteLength p.current) ::
    (replaced ctx p.current).map Event.substituted
  { run with events := started ++ run.events }

/-- What follows a pass: the end, or another pass if one is still allowed. -/
inductive Verdict (σ : Type) where
  | stop (result : Except ResolveError Text)
  | again (next : Progress σ)

namespace Progress

/-- The texts from which passes have started since the last call of a command. -/
def seenAfter (p : Progress σ) (run : CommandRun σ) : List Text :=
  if run.left = p.left then p.current :: p.seen else []

/-- The verdict on a pass. -/
def judge (opts : Options) (p : Progress σ) (run : CommandRun σ) : Verdict σ :=
  match run.result with
  | .error e => .stop (.error e)
  | .ok resolved =>
    if opts.recursive && hasResidual resolved then
      let seen := p.seenAfter run
      if resolved ∈ seen then .stop (.error (.expansionCycle p.pass))
      else .again ⟨p.pass + 1, seen, resolved, run.left, run.clock, run.state⟩
    else .stop (.ok resolved)

/-- The resolution that ends with a pass; only a success is told. -/
def finish (opts : Options) (p : Progress σ) (run : CommandRun σ)
    (result : Except ResolveError Text) : Resolution σ :=
  let told : List Event :=
    match result with
    | .ok _ => [.completed p.pass (opts.maxCommands - run.left)]
    | .error _ => []
  ⟨result, run.state, run.events ++ told⟩

def follow (opts : Options) (p : Progress σ) (run : CommandRun σ)
    (next : Progress σ → Resolution σ) : Resolution σ :=
  match p.judge opts run with
  | .stop result => p.finish opts run result
  | .again q =>
    let rest := next q
    { rest with events := run.events ++ rest.events }

end Progress

/-- Run passes, at most `extra` of them after the first. -/
def runPasses (opts : Options) (ctx : Context) (ex : Executor σ) :
    Nat → Progress σ → Resolution σ
  | 0, p =>
    p.follow opts (runPass opts ctx ex p) fun q =>
      ⟨.error (.maxDepthExceeded opts.maxDepth), q.state, []⟩
  | extra + 1, p => p.follow opts (runPass opts ctx ex p) (runPasses opts ctx ex extra)

def Progress.start (opts : Options) (s : σ) (template : Text) : Progress σ :=
  ⟨1, [], template, opts.maxCommands, { timeout := opts.timeout }, s⟩

/-- Resolve a template. Giving up after the timeout is told last. -/
def resolve (opts : Options) (ctx : Context) (ex : Executor σ) (s : σ) (template : Text) :
    Resolution σ :=
  let r := runPasses opts ctx ex opts.maxDepth (.start opts s template)
  match r.result with
  | .error (.timedOut timeout) => { r with events := r.events ++ [.timedOut timeout] }
  | _ => r

end Interpolation
