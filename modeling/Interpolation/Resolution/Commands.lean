import Interpolation.Executor
import Interpolation.Token

/-!
# Running the commands of a text

The leftmost command token is invoked and its answer takes its place, until no command token is
left. Answers may hold further command tokens, alone or together with the text around them, so
nothing but the number of calls still allowed bounds the work: each call takes one away.
-/

namespace Interpolation

/-- Why a resolution stopped without a text. -/
inductive ResolveError where
  | maxDepthExceeded (limit : Nat)
  | expansionCycle (passes : Nat)
  | commandLimitExceeded (limit : Nat)
  | timedOut (timeout : Duration)
  deriving DecidableEq, Repr

def ResolveError.message : ResolveError → Text
  | maxDepthExceeded limit =>
    "Maximum expansion depth of ".toList ++ Text.ofNat limit ++ " exceeded".toList
  | expansionCycle passes =>
    "Expansion cycle detected after ".toList ++ Text.ofNat passes ++ " passes".toList
  | commandLimitExceeded limit =>
    "Command limit of ".toList ++ Text.ofNat limit ++ " invocations exceeded".toList
  | timedOut timeout => "Resolution timed out after ".toList ++ timeout.toText

/-- The time that has passed, and the time after which a resolution is given up. -/
structure Clock where
  timeout : Option Duration := none
  elapsed : Duration := 0
  deriving DecidableEq, Repr

/-- Let time pass, unless the resolution is given up before. Timers go off on whole milliseconds: a
timeout in between waits for the next one. -/
def Clock.wait? (clock : Clock) (pause : Duration) : Option Clock :=
  let later := { clock with elapsed := clock.elapsed + pause }
  match clock.timeout with
  | none => some later
  | some timeout => if later.elapsed ≤ Duration.roundUp timeout then some later else none

/-- What running the commands of a text comes to: the text or an error, the calls still allowed, the
time, the state of the executor, and what happened. -/
structure CommandRun (σ : Type) where
  result : Except ResolveError Text
  left : Nat
  clock : Clock
  state : σ
  events : List Event

variable {σ : Type}

/-- What is told of a reply: only failures. -/
def replyEvents (id : Text) : Reply → List Event
  | .ok _ => []
  | .error e => [.commandFailed id e]

/-- Run the commands of a text with `left` calls still allowed out of `limit`. -/
def runCommands (ex : Executor σ) (limit : Nat) : Nat → Clock → σ → Text → CommandRun σ
  | left, clock, s, t =>
    match Placeholder.command.find? t with
    | none => ⟨.ok t, left, clock, s, []⟩
    | some f =>
      match left with
      | 0 => ⟨.error (.commandLimitExceeded limit), 0, clock, s, []⟩
      | left + 1 =>
        let id := f.argument.getD []
        let started := .invoking id :: ex.notices id
        match clock.wait? (ex.delay s id) with
        | none => ⟨.error (.timedOut (clock.timeout.getD 0)), left, clock, s, started⟩
        | some clock =>
          let (reply, s) := ex.call s id
          let rest := runCommands ex limit left clock s (f.before ++ reply.replacement ++ f.after)
          { rest with events := started ++ replyEvents id reply ++ rest.events }

/-- How many calls may be made, and how many have been made. -/
structure Budget where
  limit : Nat
  used : Nat := 0
  deriving DecidableEq, Repr

namespace Budget

def remaining (b : Budget) : Nat :=
  b.limit - b.used

end Budget

def resolveCommands (ex : Executor σ) (budget : Budget) (s : σ) (t : Text) :
    Except ResolveError Text × Budget × σ :=
  let run := runCommands ex budget.limit budget.remaining {} s t
  (run.result, { budget with used := budget.used + (budget.remaining - run.left) }, run.state)

end Interpolation
