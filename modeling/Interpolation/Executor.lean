import Interpolation.Event

/-!
# Executors

An executor invokes commands. It may keep a state of its own, and time may pass before a call takes
effect: a call that is cut off before has not happened. What it tells about a call is told as soon
as the call starts.
-/

namespace Interpolation

/-- A host of commands with a state. A call takes effect after its delay, and its notices are told
when it starts. -/
structure Executor (σ : Type) where
  call : σ → Text → Reply × σ
  delay : σ → Text → Duration := fun _ _ => 0
  notices : Text → List Event := fun _ => []

namespace Executor

def none {σ : Type} : Executor σ where
  call s id := (.error (.notFound id), s)

def constant {σ : Type} (values : Table Value) : Executor σ where
  call s id :=
    match values.lookup id with
    | some v => (.ok (some v), s)
    | Option.none => (.error (.notFound id), s)

/-- The reply to a call when the command has been called `earlier` times: the replies are given in
order, and the last one from then on. -/
def scriptReply (replies : List Reply) (earlier : Nat) : Option Reply :=
  replies[earlier]?.or replies.getLast?

/-- Each known command answers from a list of replies. The state lists the calls so far. -/
def scripted (script : Table (List Reply)) : Executor (List Text) where
  call calls id :=
    let reply := (script.lookup id).bind fun replies => scriptReply replies (calls.count id)
    (reply.getD (.error (.notFound id)), calls ++ [id])

variable {σ : Type}

def delayed (pause : Duration) (ex : Executor σ) : Executor σ :=
  { ex with delay := fun s id => pause + ex.delay s id }

/-- List the calls beside the state, in the order in which they take effect. -/
def recording (ex : Executor σ) : Executor (σ × List Text) where
  call s id :=
    let (reply, next) := ex.call s.1 id
    (reply, next, s.2 ++ [id])
  delay s id := ex.delay s.1 id
  notices := ex.notices

end Executor

end Interpolation
