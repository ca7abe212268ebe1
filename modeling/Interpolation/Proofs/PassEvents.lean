import Interpolation.Proofs.Passes

/-!
# The events of a resolution

A resolution tells what its passes tell, one after the other, and then how it ends. Every pass tells
its start, once, and nothing else in a resolution does. So the passes of a resolution can be counted
in its events, if the executor tells no such thing itself.
-/

namespace Interpolation

def Event.startsPass : Event → Bool
  | .passStarted .. => true
  | _ => false

/-- The number of passes whose start is told. -/
def passStarts (events : List Event) : Nat :=
  events.countP Event.startsPass

theorem passStarts_append (es fs : List Event) :
    passStarts (es ++ fs) = passStarts es + passStarts fs :=
  List.countP_append

variable {σ : Type}

/-- What an executor tells of its calls has no start of a pass. -/
def Executor.TellsNoPass (ex : Executor σ) : Prop :=
  ∀ id, passStarts (ex.notices id) = 0

variable {opts : Options} {ctx : Context} {ex : Executor σ}

theorem passStarts_replyEvents (id : Text) (reply : Reply) :
    passStarts (replyEvents id reply) = 0 := by
  cases reply <;> rfl

theorem passStarts_invoking (hn : ex.TellsNoPass) (id : Text) :
    passStarts (.invoking id :: ex.notices id) = 0 :=
  hn id

theorem passStarts_runCommands (hn : ex.TellsNoPass) (limit left : Nat) (clock : Clock) (s : σ)
    (t : Text) : passStarts (runCommands ex limit left clock s t).events = 0 := by
  induction left, clock, s, t using runCommands_induction ex with
  | none left clock s t hf =>
    rw [runCommands_none hf]
    rfl
  | spent clock s t f hf =>
    rw [runCommands_zero hf]
    rfl
  | timedOut left clock s t f hf hw =>
    rw [runCommands_timedOut hf hw]
    exact passStarts_invoking hn f.id
  | call left clock later s t f hf hw ih =>
    rw [runCommands_call hf hw, CommandRun.after_events, passStarts_append, passStarts_append,
      passStarts_invoking hn, passStarts_replyEvents, ih]

variable (opts ctx) in
theorem passStarts_runPass (hn : ex.TellsNoPass) (p : Progress σ) :
    passStarts (runPass opts ctx ex p).events = 1 := by
  rw [runPass_eq, CommandRun.after_events, passStarts_append, passStarts_runCommands hn,
    passStarts, List.countP_cons, List.countP_map]
  have hnone : (Event.startsPass ∘ Event.substituted) = fun _ => false := rfl
  rw [hnone, List.countP_false]
  rfl

section Made

variable {p q : Progress σ} {run : CommandRun σ} {next : Progress σ → Resolution σ} {s : σ}
  {t : Text} {k extra : Nat} {result : Except ResolveError Text}

variable (opts ctx ex) in
/-- What some passes tell, one after the other. -/
def eventsOf (passes : List (Progress σ)) : List Event :=
  passes.flatMap fun p => (runPass opts ctx ex p).events

theorem eventsOf_succ (hp : progressAt opts ctx ex s t k = some p) :
    eventsOf opts ctx ex (firstPasses opts ctx ex s t (k + 1)) =
      eventsOf opts ctx ex (firstPasses opts ctx ex s t k) ++ (runPass opts ctx ex p).events := by
  rw [firstPasses_succ hp]
  simp [eventsOf]

theorem events_follow_of_again (hj : p.judge opts run = .again q) :
    (p.follow opts run next).events = run.events ++ (next q).events := by
  rw [Progress.follow, hj]

theorem events_runPasses (hp : progressAt opts ctx ex s t k = some p) :
    ∃ extra, p.pass + extra = opts.maxDepth + 1 ∧
      (runPasses opts ctx ex opts.maxDepth (.start opts s t)).events =
        eventsOf opts ctx ex (firstPasses opts ctx ex s t k) ++
          (runPasses opts ctx ex extra p).events := by
  induction k generalizing p with
  | zero =>
    obtain rfl := Option.some.inj hp
    exact ⟨opts.maxDepth, Nat.add_comm _ _, rfl⟩
  | succ k ih =>
    obtain ⟨p', hp', hv⟩ := progressAt_succ.mp hp
    obtain ⟨extra, hpass, hevents⟩ := ih hp'
    obtain ⟨hj, hle⟩ := judge_of_verdict hv
    have hnext := (continues_of_judge hj).pass
    cases extra with
    | zero => omega
    | succ extra =>
      refine ⟨extra, by omega, ?_⟩
      rw [hevents, runPasses, events_follow_of_again hj, eventsOf_succ hp', List.append_assoc]

/-- What is told behind the last pass: a success with the calls that it has not left. -/
def successEvents (opts : Options) (pass left : Nat) : Except ResolveError Text → List Event
  | .ok _ => [.completed pass (opts.maxCommands - left)]
  | .error _ => []

theorem events_follow_of_stop (hj : p.judge opts run = .stop result) :
    (p.follow opts run next).events =
      run.events ++ successEvents opts p.pass run.left result := by
  rw [Progress.follow, hj]
  cases result <;> rfl

theorem events_runPasses_of_stop (hpass : p.pass + extra = opts.maxDepth + 1)
    (hv : verdict opts ctx ex p = .stop result) :
    (runPasses opts ctx ex extra p).events = (runPass opts ctx ex p).events ++
      successEvents opts p.pass (runPass opts ctx ex p).left result := by
  cases hj : p.judge opts (runPass opts ctx ex p) with
  | stop r =>
    rw [verdict_of_stop hj] at hv
    obtain rfl := Verdict.stop.inj hv
    cases extra with
    | zero => exact events_follow_of_stop hj
    | succ extra => exact events_follow_of_stop hj
  | again q =>
    cases extra with
    | zero =>
      rw [verdict_of_last hj (by omega)] at hv
      obtain rfl := Verdict.stop.inj hv
      exact events_follow_of_again hj
    | succ extra =>
      rw [verdict_of_again hj (by omega)] at hv
      cases hv

/-- What is told last of all: that the resolution is given up. -/
def timeoutEvents : Except ResolveError Text → List Event
  | .error (.timedOut timeout) => [.timedOut timeout]
  | _ => []

variable (opts p result) in
/-- What is told behind the last pass. -/
def closing (run : CommandRun σ) : List Event :=
  successEvents opts p.pass run.left result ++ timeoutEvents result

variable (opts p run result) in
theorem closing_cases :
    (∃ u, result = .ok u ∧
        closing opts p result run = [.completed p.pass (opts.maxCommands - run.left)]) ∨
      (∃ error, result = .error error) ∧
        ∀ e ∈ closing opts p result run, ∃ timeout, e = .timedOut timeout := by
  cases result with
  | ok u => exact Or.inl ⟨u, rfl, rfl⟩
  | error error =>
    refine Or.inr ⟨⟨error, rfl⟩, ?_⟩
    cases error <;> simp [closing, successEvents, timeoutEvents]

theorem cases_of_mem_closing {e : Event} (he : e ∈ closing opts p result run) :
    (∃ passes commands, e = .completed passes commands) ∨ ∃ timeout, e = .timedOut timeout := by
  rcases closing_cases opts p run result with ⟨u, -, hclosing⟩ | ⟨-, hclosing⟩
  · rw [hclosing, List.mem_singleton] at he
    exact Or.inl ⟨_, _, he⟩
  · exact Or.inr (hclosing e he)

/-- The events of a resolution are those of its passes, and then how it ends. -/
theorem events_resolve (hp : progressAt opts ctx ex s t k = some p)
    (hv : verdict opts ctx ex p = .stop result) :
    (resolve opts ctx ex s t).events =
      eventsOf opts ctx ex (firstPasses opts ctx ex s t (k + 1)) ++
        closing opts p result (runPass opts ctx ex p) := by
  obtain ⟨extra, hpass, hevents⟩ := events_runPasses hp
  have hresult := (resolve_of_stop hp hv).1
  have htold : (resolve opts ctx ex s t).events =
      (runPasses opts ctx ex opts.maxDepth (.start opts s t)).events ++
        timeoutEvents (resolve opts ctx ex s t).result := by
    rw [resolve]
    generalize runPasses opts ctx ex opts.maxDepth (.start opts s t) = r
    obtain ⟨r, last, events⟩ := r
    cases r with
    | ok u => simp [timeoutEvents]
    | error e => cases e <;> simp [timeoutEvents]
  rw [htold, hresult, hevents, events_runPasses_of_stop hpass hv, eventsOf_succ hp, closing]
  simp only [List.append_assoc]

theorem passStarts_eventsOf (hn : ex.TellsNoPass) (hp : progressAt opts ctx ex s t k = some p) :
    passStarts (eventsOf opts ctx ex (firstPasses opts ctx ex s t (k + 1))) = k + 1 := by
  induction k generalizing p with
  | zero =>
    rw [eventsOf_succ hp, passStarts_append, passStarts_runPass opts ctx hn]
    rfl
  | succ k ih =>
    obtain ⟨p', hp', -⟩ := progressAt_succ.mp hp
    rw [eventsOf_succ hp, passStarts_append, ih hp', passStarts_runPass opts ctx hn]

theorem passStarts_closing : passStarts (closing opts p result run) = 0 := by
  apply List.countP_eq_zero.mpr
  intro e he
  rcases cases_of_mem_closing he with ⟨passes, commands, rfl⟩ | ⟨timeout, rfl⟩ <;>
    simp [Event.startsPass]

theorem passStarts_resolve (hn : ex.TellsNoPass) (hp : progressAt opts ctx ex s t k = some p)
    (hv : verdict opts ctx ex p = .stop result) :
    passStarts (resolve opts ctx ex s t).events = k + 1 := by
  rw [events_resolve hp hv, passStarts_append, passStarts_eventsOf hn hp, passStarts_closing]

end Made

end Interpolation
