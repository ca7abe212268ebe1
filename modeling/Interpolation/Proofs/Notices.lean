import Interpolation.Proofs.PassCalls
import Interpolation.Proofs.PassEvents

/-!
# What executors tell

An executor tells what it likes of a call, directly behind the start of the call. Nothing else
depends on it: with an executor that is silenced a resolution makes the same passes and calls and
comes to the same end, and its events are the same up to what is told of the calls.
-/

namespace Interpolation

variable {σ : Type}

/-- An executor that tells nothing of its own. -/
def Executor.IsQuiet (ex : Executor σ) : Prop :=
  ∀ id, ex.notices id = []

def Executor.silent (ex : Executor σ) : Executor σ :=
  { ex with notices := fun _ => [] }

theorem Executor.silent_isQuiet (ex : Executor σ) : ex.silent.IsQuiet := fun _ => rfl

def Executor.tell (ex : Executor σ) : Event → List Event
  | .invoking id => .invoking id :: ex.notices id
  | e => [e]

/-- The events with what the executor tells between them. -/
def Executor.interleave (ex : Executor σ) (events : List Event) : List Event :=
  events.flatMap ex.tell

def CommandRun.interleave (ex : Executor σ) (run : CommandRun σ) : CommandRun σ :=
  { run with events := ex.interleave run.events }

@[simp] theorem CommandRun.interleave_left (ex : Executor σ) (run : CommandRun σ) :
    (run.interleave ex).left = run.left := rfl

@[simp] theorem CommandRun.interleave_state (ex : Executor σ) (run : CommandRun σ) :
    (run.interleave ex).state = run.state := rfl

theorem CommandRun.interleave_events (ex : Executor σ) (run : CommandRun σ) :
    (run.interleave ex).events = ex.interleave run.events := rfl

theorem judge_interleave (opts : Options) (ex : Executor σ) (p : Progress σ) (run : CommandRun σ) :
    p.judge opts (run.interleave ex) = p.judge opts run := rfl

section Interleave

variable (ex : Executor σ)

theorem interleave_append (es fs : List Event) :
    ex.interleave (es ++ fs) = ex.interleave es ++ ex.interleave fs :=
  List.flatMap_append

theorem interleave_cons (e : Event) (events : List Event) :
    ex.interleave (e :: events) = ex.tell e ++ ex.interleave events :=
  List.flatMap_cons

theorem interleave_eq_self {events : List Event} (h : ∀ e ∈ events, ∀ id, e ≠ .invoking id) :
    ex.interleave events = events := by
  induction events with
  | nil => rfl
  | cons e events ih =>
    obtain ⟨he, hrest⟩ := List.forall_mem_cons.mp h
    have htell : ex.tell e = [e] := by
      cases e with
      | invoking id => exact absurd rfl (he id)
      | _ => rfl
    rw [interleave_cons, htell, ih hrest, List.singleton_append]

theorem interleave_replyEvents (id : Text) (reply : Reply) :
    ex.interleave (replyEvents id reply) = replyEvents id reply := by
  apply interleave_eq_self
  cases reply <;> simp [replyEvents]

/-- A filter that shows nothing of what the executor tells shows what it showed before. -/
theorem filter_interleave {shows : Event → Bool} (h : ∀ id, ∀ e ∈ ex.notices id, shows e = false)
    (events : List Event) : (ex.interleave events).filter shows = events.filter shows := by
  have htell (e : Event) : (ex.tell e).filter shows = [e].filter shows := by
    cases e with
    | invoking id =>
      have hnotices : (ex.notices id).filter shows = [] :=
        List.filter_eq_nil_iff.mpr fun e he => by simp [h id e he]
      rw [Executor.tell, List.filter_cons, List.filter_cons, hnotices, List.filter_nil]
    | _ => rfl
  induction events with
  | nil => rfl
  | cons e events ih =>
    rw [interleave_cons, List.filter_append, htell, ih, ← List.filter_append, List.singleton_append]

end Interleave

section Silent

variable (opts : Options) (ctx : Context) (ex : Executor σ)

theorem runCommands_interleave (limit left : Nat) (clock : Clock) (s : σ) (t : Text) :
    runCommands ex limit left clock s t =
      (runCommands ex.silent limit left clock s t).interleave ex := by
  induction left, clock, s, t using runCommands_induction ex with
  | none left clock s t hf =>
    rw [runCommands_none hf, runCommands_none hf]
    rfl
  | spent clock s t f hf =>
    rw [runCommands_zero hf, runCommands_zero hf]
    rfl
  | timedOut left clock s t f hf hw =>
    have hw' : clock.wait? (ex.silent.delay s f.id) = none := hw
    rw [runCommands_timedOut hf hw, runCommands_timedOut hf hw', CommandRun.interleave,
      interleave_cons]
    simp [Executor.tell, Executor.silent, Executor.interleave]
  | call left clock later s t f hf hw ih =>
    have hw' : clock.wait? (ex.silent.delay s f.id) = some later := hw
    rw [runCommands_call hf hw, runCommands_call hf hw', ih]
    simp only [CommandRun.interleave, CommandRun.after, interleave_append, interleave_cons]
    rw [interleave_replyEvents]
    simp [Executor.tell, Executor.silent, Executor.interleave]

theorem runPass_interleave (p : Progress σ) :
    runPass opts ctx ex p = (runPass opts ctx ex.silent p).interleave ex := by
  have hstarted : ex.interleave (.passStarted p.pass (Text.byteLength p.current) ::
      (replaced ctx p.current).map Event.substituted) =
      .passStarted p.pass (Text.byteLength p.current) ::
        (replaced ctx p.current).map Event.substituted := by
    apply interleave_eq_self
    simp
  rw [runPass_eq, runPass_eq, runCommands_interleave]
  simp only [CommandRun.interleave, CommandRun.after, interleave_append, hstarted]

theorem verdict_silent (p : Progress σ) :
    verdict opts ctx ex p = verdict opts ctx ex.silent p := by
  rw [verdict, verdict, runPass_interleave, judge_interleave]

variable (s : σ) (t : Text)

theorem progressAt_silent (k : Nat) :
    progressAt opts ctx ex s t k = progressAt opts ctx ex.silent s t k := by
  have hverdict : verdict opts ctx ex = verdict opts ctx ex.silent :=
    funext (verdict_silent opts ctx ex)
  induction k with
  | zero => rfl
  | succ k ih => rw [progressAt, progressAt, ih, hverdict]

theorem eventsOf_silent (passes : List (Progress σ)) :
    eventsOf opts ctx ex passes = ex.interleave (eventsOf opts ctx ex.silent passes) := by
  induction passes with
  | nil => rfl
  | cons p passes ih =>
    rw [eventsOf, eventsOf, List.flatMap_cons, List.flatMap_cons, interleave_append, ← eventsOf,
      ← eventsOf, ih, runPass_interleave, CommandRun.interleave_events]

/-- A resolution does not depend on what the executor tells. -/
theorem resolve_silent :
    (resolve opts ctx ex s t).result = (resolve opts ctx ex.silent s t).result ∧
      (resolve opts ctx ex s t).state = (resolve opts ctx ex.silent s t).state ∧
      (resolve opts ctx ex s t).events =
        ex.interleave (resolve opts ctx ex.silent s t).events := by
  obtain ⟨k, p, result, hp, hv⟩ := exists_stop opts ctx ex s t
  have hp' : progressAt opts ctx ex.silent s t k = some p := by rw [← progressAt_silent, hp]
  have hv' : verdict opts ctx ex.silent p = .stop result := by rw [← verdict_silent, hv]
  have hpasses : firstPasses opts ctx ex s t = firstPasses opts ctx ex.silent s t := by
    funext k
    rw [firstPasses, firstPasses, funext (progressAt_silent opts ctx ex s t)]
  obtain ⟨hresult, hstate⟩ := resolve_of_stop hp hv
  obtain ⟨hresult', hstate'⟩ := resolve_of_stop hp' hv'
  refine ⟨hresult.trans hresult'.symm, ?_, ?_⟩
  · rw [hstate, hstate', runPass_interleave, CommandRun.interleave_state]
  · have hclosing : ex.interleave (closing opts p result (runPass opts ctx ex.silent p)) =
        closing opts p result (runPass opts ctx ex p) := by
      have hsame : closing opts p result (runPass opts ctx ex p) =
          closing opts p result (runPass opts ctx ex.silent p) := by
        rw [closing, runPass_interleave, CommandRun.interleave_left, ← closing]
      rw [hsame]
      apply interleave_eq_self
      intro e he
      rcases cases_of_mem_closing he with ⟨passes, commands, rfl⟩ | ⟨timeout, rfl⟩ <;> simp
    rw [events_resolve hp hv, events_resolve hp' hv', interleave_append, hclosing, hpasses,
      eventsOf_silent]

theorem calls_silent : calls opts ctx ex.silent s t = calls opts ctx ex s t := by
  have hstate := (resolve_silent opts ctx ex.recording (s, []) t).2.1
  exact (congrArg Prod.snd hstate).symm

end Silent

end Interpolation
