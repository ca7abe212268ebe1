import Interpolation.Proofs.Limits
import Mathlib.Data.Set.Card
import Mathlib.Order.Interval.Finset.Nat

/-!
# Giving up after a timeout

A resolution with a timeout goes through the passes and calls of one without, as long as the clock
has not gone beyond the timeout. Where the next call would take it there, the resolution is given
up, and this call does not take effect. So a timeout that is long enough changes nothing, and a
shorter one cuts the calls behind the last one that fits in.
-/

namespace Interpolation

variable {σ : Type}

def Clock.timed (timeout : Duration) (clock : Clock) : Clock :=
  { clock with timeout := some timeout }

/-- The same run on a clock with a timeout. -/
def CommandRun.timed (timeout : Duration) (run : CommandRun σ) : CommandRun σ :=
  { run with clock := run.clock.timed timeout }

@[simp] theorem CommandRun.timed_result (timeout : Duration) (run : CommandRun σ) :
    (run.timed timeout).result = run.result := rfl

@[simp] theorem CommandRun.timed_state (timeout : Duration) (run : CommandRun σ) :
    (run.timed timeout).state = run.state := rfl

theorem CommandRun.timed_after (timeout : Duration) (events : List Event) (run : CommandRun σ) :
    (run.after events).timed timeout = (run.timed timeout).after events := rfl

theorem wait?_timed {clock : Clock} {timeout pause : Duration}
    (h : clock.elapsed + pause ≤ timeout.roundUp) :
    (clock.timed timeout).wait? pause =
      some (Clock.timed timeout { clock with elapsed := clock.elapsed + pause }) := by
  simp only [Clock.wait?, Clock.timed, h, if_true]

theorem wait?_timed_eq_none {clock : Clock} {timeout pause : Duration}
    (h : timeout.roundUp < clock.elapsed + pause) : (clock.timed timeout).wait? pause = none := by
  simp only [Clock.wait?, Clock.timed, Nat.not_le.mpr h, if_false]

/-- From `start` on, so many calls with a pause before each fit into the timeout, and no more. -/
structure JustFits (timeout pause start : Duration) (calls : Nat) : Prop where
  fits : start + calls * pause ≤ timeout.roundUp
  full : timeout.roundUp < start + (calls + 1) * pause

theorem JustFits.behind {timeout pause start : Duration} {earlier calls : Nat}
    (h : JustFits timeout pause (start + earlier * pause) calls) :
    JustFits timeout pause start (earlier + calls) := by
  obtain ⟨hfits, hfull⟩ := h
  rw [Nat.add_assoc, ← Nat.add_mul] at hfits hfull
  exact ⟨hfits, hfull⟩

theorem JustFits.succ {timeout pause start : Duration} {calls : Nat}
    (h : JustFits timeout pause (start + pause) calls) :
    JustFits timeout pause start (calls + 1) := by
  rw [Nat.add_comm calls]
  exact JustFits.behind (by rwa [Nat.one_mul])

section Commands

variable {ex : Executor σ} {limit left : Nat} {clock : Clock} {s : σ} {t : Text}
  {timeout pause : Duration}

variable (ex limit left clock s t) in
theorem elapsed_le_runCommands :
    clock.elapsed ≤ (runCommands ex limit left clock s t).clock.elapsed := by
  induction left, clock, s, t using runCommands_induction ex with
  | none left clock s t hf => rw [runCommands_none hf]
  | spent clock s t f hf => rw [runCommands_zero hf]
  | timedOut left clock s t f hf hw => rw [runCommands_timedOut hf hw]
  | call left clock later s t f hf hw ih =>
    rw [runCommands_call hf hw, CommandRun.after_clock]
    refine Nat.le_trans ?_ ih
    rw [eq_of_wait? hw]
    exact Nat.le_add_right _ _

/-- A run that is over before the timeout is the same run with it. -/
theorem runCommands_timed (hclock : clock.timeout = none)
    (h : (runCommands ex limit left clock s t).clock.elapsed ≤ timeout.roundUp) :
    runCommands ex limit left (clock.timed timeout) s t =
      (runCommands ex limit left clock s t).timed timeout := by
  induction left, clock, s, t, hclock using untimed_induction ex with
  | none left clock s t hclock hf =>
    rw [runCommands_none hf, runCommands_none hf]
    rfl
  | spent clock s t hclock f hf =>
    rw [runCommands_zero hf, runCommands_zero hf]
    rfl
  | call left clock s t hclock f hf hw ih =>
    rw [runCommands_call hf hw] at h ⊢
    have hfits := Nat.le_trans (elapsed_le_runCommands ..) h
    rw [runCommands_call hf (wait?_timed hfits), ih h, CommandRun.timed_after]

theorem commandCalls_timed_prefix (ex : Executor σ) (limit left : Nat) (clock : Clock) (s : σ)
    (t : Text) (timeout : Duration) (hclock : clock.timeout = none) :
    commandCalls ex limit left (clock.timed timeout) s t <+:
      commandCalls ex limit left clock s t := by
  induction left, clock, s, t, hclock using untimed_induction ex with
  | none left clock s t hclock hf =>
    rw [commandCalls_none hf]
    exact List.nil_prefix
  | spent clock s t hclock f hf =>
    rw [commandCalls_zero]
    exact List.nil_prefix
  | call left clock s t hclock f hf hw ih =>
    rw [commandCalls_call hf hw]
    rcases Nat.lt_or_ge timeout.roundUp (clock.elapsed + ex.delay s f.id) with hlt | hfits
    · rw [commandCalls_timedOut hf (wait?_timed_eq_none hlt)]
      exact List.nil_prefix
    · rw [commandCalls_call hf (wait?_timed hfits)]
      exact (List.prefix_cons_inj f.id).mpr ih

theorem elapsed_runCommands (hpause : ∀ s id, ex.delay s id = pause)
    (hclock : clock.timeout = none) :
    (runCommands ex limit left clock s t).clock.elapsed =
      clock.elapsed + (commandCalls ex limit left clock s t).length * pause := by
  induction left, clock, s, t, hclock using untimed_induction ex with
  | none left clock s t hclock hf => simp [runCommands_none hf, commandCalls_none hf]
  | spent clock s t hclock f hf => simp [runCommands_zero hf, commandCalls_zero]
  | call left clock s t hclock f hf hw ih =>
    rw [runCommands_call hf hw, commandCalls_call hf hw, CommandRun.after_clock, ih, hpause,
      List.length_cons, Nat.succ_mul, Nat.add_assoc, Nat.add_comm pause]

theorem runCommands_cut (hpause : ∀ s id, ex.delay s id = pause) (hclock : clock.timeout = none)
    (hbefore : clock.elapsed ≤ timeout.roundUp)
    (hafter : timeout.roundUp < (runCommands ex limit left clock s t).clock.elapsed) :
    (runCommands ex limit left (clock.timed timeout) s t).result = .error (.timedOut timeout) ∧
      JustFits timeout pause clock.elapsed
        (commandCalls ex limit left (clock.timed timeout) s t).length := by
  induction left, clock, s, t, hclock using untimed_induction ex with
  | none left clock s t hclock hf =>
    rw [runCommands_none hf] at hafter
    exact absurd hbefore (Nat.not_le.mpr hafter)
  | spent clock s t hclock f hf =>
    rw [runCommands_zero hf] at hafter
    exact absurd hbefore (Nat.not_le.mpr hafter)
  | call left clock s t hclock f hf hw ih =>
    rw [runCommands_call hf hw] at hafter
    obtain rfl := hpause s f.id
    rcases Nat.lt_or_ge timeout.roundUp (clock.elapsed + ex.delay s f.id) with hlt | hfits
    · have hcut := wait?_timed_eq_none hlt
      rw [runCommands_timedOut hf hcut, commandCalls_timedOut hf hcut]
      exact ⟨rfl, by simpa using hbefore, by simpa using hlt⟩
    · have hgone := wait?_timed hfits
      rw [runCommands_call hf hgone, commandCalls_call hf hgone]
      obtain ⟨hresult, hrest⟩ := ih hfits hafter
      exact ⟨hresult, hrest.succ⟩

end Commands

def Options.untimed (opts : Options) : Options :=
  { opts with timeout := none }

def Options.timed (timeout : Duration) (opts : Options) : Options :=
  { opts with timeout := some timeout }

def Progress.timed (timeout : Duration) (p : Progress σ) : Progress σ :=
  { p with clock := p.clock.timed timeout }

@[simp] theorem Progress.timed_state (timeout : Duration) (p : Progress σ) :
    (p.timed timeout).state = p.state := rfl

theorem seenAfter_timed (timeout : Duration) (p : Progress σ) (run : CommandRun σ) :
    (p.timed timeout).seenAfter (run.timed timeout) = p.seenAfter run := rfl

theorem Progress.map_timed {τ : Type} (h : σ → τ) (timeout : Duration) (p : Progress σ) :
    (p.timed timeout).map h = (p.map h).timed timeout := rfl

theorem runPass_timed_eq (opts : Options) (ctx : Context) (ex : Executor σ) (p : Progress σ)
    (timeout : Duration) :
    runPass (opts.timed timeout) ctx ex (p.timed timeout) =
      (runCommands ex opts.maxCommands p.left (p.clock.timed timeout) p.state
        (substitute ctx p.current)).after
        (.passStarted p.pass (Text.byteLength p.current) ::
          (replaced ctx p.current).map Event.substituted) := rfl

theorem runPass_untimed_eq (opts : Options) (ctx : Context) (ex : Executor σ) (p : Progress σ) :
    runPass opts.untimed ctx ex p =
      (runCommands ex opts.maxCommands p.left p.clock p.state (substitute ctx p.current)).after
        (.passStarted p.pass (Text.byteLength p.current) ::
          (replaced ctx p.current).map Event.substituted) := rfl

theorem passCalls_timed_eq (opts : Options) (ctx : Context) (ex : Executor σ) (p : Progress σ)
    (timeout : Duration) :
    passCalls (opts.timed timeout) ctx ex (p.timed timeout) =
      commandCalls ex opts.maxCommands p.left (p.clock.timed timeout) p.state
        (substitute ctx p.current) := rfl

def Verdict.timed (timeout : Duration) : Verdict σ → Verdict σ
  | .stop result => .stop result
  | .again q => .again (q.timed timeout)

section Passes

variable {opts : Options} {ctx : Context} {ex : Executor σ} {p q : Progress σ} {s : σ} {t : Text}
  {k : Nat} {timeout pause : Duration} {result : Except ResolveError Text}

theorem runPass_timed (hclock : p.clock.timeout = none)
    (h : (runPass opts.untimed ctx ex p).clock.elapsed ≤ timeout.roundUp) :
    runPass (opts.timed timeout) ctx ex (p.timed timeout) =
      (runPass opts.untimed ctx ex p).timed timeout := by
  rw [runPass_untimed_eq, CommandRun.after_clock] at h
  rw [runPass_timed_eq, runPass_untimed_eq, CommandRun.timed_after, runCommands_timed hclock h]

theorem verdict_timed (hclock : p.clock.timeout = none)
    (h : (runPass opts.untimed ctx ex p).clock.elapsed ≤ timeout.roundUp) :
    verdict (opts.timed timeout) ctx ex (p.timed timeout) =
      (verdict opts.untimed ctx ex p).timed timeout := by
  have hrun := runPass_timed hclock h
  have hcarry : verdict (opts.timed timeout) ctx ex (p.timed timeout) =
      (verdict opts.untimed ctx ex p).carry
        (runPass (opts.timed timeout) ctx ex (p.timed timeout)) :=
    verdict_carry rfl rfl rfl (by rw [hrun, seenAfter_timed])
      (by rw [hrun, CommandRun.timed_result])
  rw [hcarry, hrun]
  cases hv : verdict opts.untimed ctx ex p with
  | stop result => rfl
  | again q =>
    have hc := continues_of_verdict hv
    simp only [Verdict.carry, Verdict.timed, Progress.timed, CommandRun.timed, hc.left, hc.clock,
      hc.state]

theorem elapsed_le_runPass (opts : Options) (ctx : Context) (ex : Executor σ) (p : Progress σ) :
    p.clock.elapsed ≤ (runPass opts ctx ex p).clock.elapsed := by
  rw [runPass_eq, CommandRun.after_clock]
  exact elapsed_le_runCommands ..

theorem progressAt_timed (hp : progressAt opts.untimed ctx ex s t k = some p)
    (h : p.clock.elapsed ≤ timeout.roundUp) :
    progressAt (opts.timed timeout) ctx ex s t k = some (p.timed timeout) := by
  induction k generalizing p with
  | zero =>
    obtain rfl := Option.some.inj hp
    rfl
  | succ k ih =>
    obtain ⟨p', hp', hv⟩ := progressAt_succ.mp hp
    rw [(continues_of_verdict hv).clock] at h
    have hbefore := ih hp' (Nat.le_trans (elapsed_le_runPass opts.untimed ctx ex p') h)
    refine progressAt_succ.mpr ⟨_, hbefore, ?_⟩
    rw [verdict_timed (timeout_of_progressAt hp') h, hv]
    rfl

/-- If the passes go beyond the timeout, one of them starts before it and ends behind it. -/
theorem exists_cut (hp : progressAt opts.untimed ctx ex s t k = some p)
    (h : timeout.roundUp < (runPass opts.untimed ctx ex p).clock.elapsed) :
    ∃ j q, progressAt opts.untimed ctx ex s t j = some q ∧ q.clock.elapsed ≤ timeout.roundUp ∧
      timeout.roundUp < (runPass opts.untimed ctx ex q).clock.elapsed := by
  induction k generalizing p with
  | zero =>
    refine ⟨0, p, hp, ?_, h⟩
    obtain rfl := Option.some.inj hp
    exact Nat.zero_le _
  | succ k ih =>
    rcases Nat.lt_or_ge timeout.roundUp p.clock.elapsed with hlt | hle
    · obtain ⟨p', hp', hv⟩ := progressAt_succ.mp hp
      rw [(continues_of_verdict hv).clock] at hlt
      exact ih hp' hlt
    · exact ⟨k + 1, p, hp, hle, h⟩

/-- A resolution whose last pass is over before the timeout is the same with it. -/
theorem resolve_timed_of_le (hp : progressAt opts.untimed ctx ex s t k = some p)
    (hv : verdict opts.untimed ctx ex p = .stop result)
    (h : (runPass opts.untimed ctx ex p).clock.elapsed ≤ timeout.roundUp) :
    (resolve (opts.timed timeout) ctx ex s t).result =
        (resolve opts.untimed ctx ex s t).result ∧
      (resolve (opts.timed timeout) ctx ex s t).state =
        (resolve opts.untimed ctx ex s t).state := by
  have hclock := timeout_of_progressAt hp
  have hp' := progressAt_timed hp (Nat.le_trans (elapsed_le_runPass opts.untimed ctx ex p) h)
  have hv' : verdict (opts.timed timeout) ctx ex (p.timed timeout) = .stop result := by
    rw [verdict_timed hclock h, hv]
    rfl
  obtain ⟨hresult, hstate⟩ := resolve_of_stop hp hv
  obtain ⟨hresult', hstate'⟩ := resolve_of_stop hp' hv'
  rw [hresult, hresult', hstate, hstate', runPass_timed hclock h, CommandRun.timed_state]
  exact ⟨rfl, rfl⟩

theorem runPass_cut (hpause : ∀ s id, ex.delay s id = pause) (hclock : p.clock.timeout = none)
    (hbefore : p.clock.elapsed ≤ timeout.roundUp)
    (hafter : timeout.roundUp < (runPass opts.untimed ctx ex p).clock.elapsed) :
    (runPass (opts.timed timeout) ctx ex (p.timed timeout)).result =
        .error (.timedOut timeout) ∧
      JustFits timeout pause p.clock.elapsed
        (passCalls (opts.timed timeout) ctx ex (p.timed timeout)).length := by
  rw [runPass_untimed_eq, CommandRun.after_clock] at hafter
  rw [runPass_timed_eq, CommandRun.after_result, passCalls_timed_eq]
  exact runCommands_cut hpause hclock hbefore hafter

theorem passCalls_timed_prefix (opts : Options) (ctx : Context) (ex : Executor σ)
    (timeout : Duration) (hclock : p.clock.timeout = none) :
    passCalls (opts.timed timeout) ctx ex (p.timed timeout) <+:
      passCalls opts.untimed ctx ex p := by
  rw [passCalls_timed_eq]
  exact commandCalls_timed_prefix ex opts.maxCommands p.left p.clock p.state
    (substitute ctx p.current) timeout hclock

end Passes

section Listed

variable {opts : Options} {ctx : Context} {ex : Executor σ} {s : σ} {t : Text} {k : Nat}
  {r : Progress (σ × List Text)} {timeout pause : Duration}
  (hpause : ∀ s id, ex.delay s id = pause)
include hpause

theorem elapsed_runPass (hclock : r.clock.timeout = none)
    (h : r.clock.elapsed = r.state.2.length * pause) :
    (runPass opts ctx ex.recording r).clock.elapsed =
      (runPass opts ctx ex.recording r).state.2.length * pause := by
  rw [runPass_recording_listed, runPass_recording, CommandRun.map_clock, List.length_append,
    Nat.add_mul, ← h, runPass_eq, CommandRun.after_clock]
  exact elapsed_runCommands hpause hclock

theorem elapsed_listed (hr : progressAt opts.untimed ctx ex.recording (s, []) t k = some r) :
    r.clock.elapsed = r.state.2.length * pause := by
  induction k generalizing r with
  | zero =>
    obtain rfl := Option.some.inj hr
    exact (Nat.zero_mul pause).symm
  | succ k ih =>
    obtain ⟨r', hr', hv⟩ := progressAt_succ.mp hr
    have hc := continues_of_verdict hv
    rw [hc.clock, hc.state]
    exact elapsed_runPass hpause (timeout_of_progressAt hr') (ih hr')

theorem elapsed_of_stop {result : Except ResolveError Text}
    (hr : progressAt opts.untimed ctx ex.recording (s, []) t k = some r)
    (hv : verdict opts.untimed ctx ex.recording r = .stop result) :
    (runPass opts.untimed ctx ex.recording r).clock.elapsed =
      (calls opts.untimed ctx ex s t).length * pause := by
  rw [calls, (resolve_of_stop hr hv).2]
  exact elapsed_runPass hpause (timeout_of_progressAt hr) (elapsed_listed hpause hr)

theorem resolve_timed
    (h : (calls opts.untimed ctx ex s t).length * pause ≤ timeout.roundUp) :
    (resolve (opts.timed timeout) ctx ex s t).result =
        (resolve opts.untimed ctx ex s t).result ∧
      (resolve (opts.timed timeout) ctx ex s t).state =
        (resolve opts.untimed ctx ex s t).state ∧
      calls (opts.timed timeout) ctx ex s t = calls opts.untimed ctx ex s t := by
  obtain ⟨k, r, result, hr, hv⟩ := exists_stop opts.untimed ctx ex.recording (s, []) t
  rw [← elapsed_of_stop hpause hr hv] at h
  obtain ⟨hresult, hstate⟩ := resolve_timed_of_le hr hv h
  rw [(resolve_recording ..).2, (resolve_recording ..).2] at hstate
  rw [(resolve_recording ..).1, (resolve_recording ..).1] at hresult
  obtain ⟨hlast, hcalls⟩ := Prod.mk.inj hstate
  exact ⟨hresult, hlast, hcalls⟩

/-- A timeout that is too short for all calls cuts those that do not fit in. -/
theorem resolve_cut
    (h : timeout.roundUp < (calls opts.untimed ctx ex s t).length * pause) :
    (resolve (opts.timed timeout) ctx ex s t).result = .error (.timedOut timeout) ∧
      calls (opts.timed timeout) ctx ex s t <+: calls opts.untimed ctx ex s t ∧
      JustFits timeout pause 0 (calls (opts.timed timeout) ctx ex s t).length := by
  obtain ⟨k, r, result, hr, hv⟩ := exists_stop opts.untimed ctx ex.recording (s, []) t
  rw [← elapsed_of_stop hpause hr hv] at h
  obtain ⟨j, q, hq, hbefore, hafter⟩ := exists_cut hr h
  have hclock := timeout_of_progressAt hq
  rw [runPass_recording, CommandRun.map_clock] at hafter
  obtain ⟨hresult, hfits⟩ := runPass_cut (p := q.map Prod.fst) hpause hclock hbefore hafter
  have hprefix := passCalls_timed_prefix (p := q.map Prod.fst) opts ctx ex timeout hclock
  have hq' := progressAt_timed hq hbefore
  have hfailed : (runPass (opts.timed timeout) ctx ex.recording (q.timed timeout)).result =
      .error (.timedOut timeout) := by
    rw [runPass_recording, CommandRun.map_result, Progress.map_timed]
    exact hresult
  have hv' := verdict_of_stop (judge_error hfailed)
  have hcalls := calls_of_stop hq' hv'
  rw [Progress.map_timed, Progress.timed_state] at hcalls
  refine ⟨?_, ?_, ?_⟩
  · rw [← (resolve_recording ..).1, (resolve_of_stop hq' hv').1]
  · rw [hcalls]
    exact ((List.prefix_append_right_inj q.state.2).mpr hprefix).trans (listed_prefix_calls hq)
  · rw [hcalls, List.length_append]
    refine JustFits.behind ?_
    rw [Nat.zero_add, ← elapsed_listed hpause hq]
    exact hfits

end Listed

namespace Executor

/-- Replies from a script, each after a pause of some milliseconds. -/
def slow (script : Table (List Reply)) (pause : Nat) : Executor (List Text) :=
  (scripted script).delayed (pause * Duration.millisecond)

theorem slow_mapsTo_recording (script : Table (List Reply)) (pause : Nat) :
    MapsTo (fun listed => (listed, listed)) (slow script pause) (slow script pause).recording :=
  ⟨fun _ _ => rfl, fun _ _ => rfl, rfl⟩

theorem delay_slow (script : Table (List Reply)) (pause : Nat) (s : List Text) (id : Text) :
    (slow script pause).delay s id = pause * Duration.millisecond :=
  Nat.add_zero _

end Executor

theorem state_slow (opts : Options) (ctx : Context) (script : Table (List Reply)) (pause : Nat)
    (t : Text) :
    (resolve opts ctx (.slow script pause) [] t).state =
      calls opts ctx (.slow script pause) [] t := by
  rw [calls, (resolve_map opts ctx (Executor.slow_mapsTo_recording script pause) [] t).2]

theorem roundUp_milliseconds (n : Nat) :
    Duration.roundUp (n * Duration.millisecond) = n * Duration.millisecond := by
  have hwhole : (n * 1000000 + (1000000 - 1)) / 1000000 * 1000000 = n * 1000000 := by omega
  exact hwhole

theorem millisecond_pos : 0 < Duration.millisecond := by decide

theorem JustFits.milliseconds {time pause calls : Nat}
    (h : JustFits (time * Duration.millisecond) (pause * Duration.millisecond) 0 calls) :
    calls * pause ≤ time ∧ time < (calls + 1) * pause := by
  obtain ⟨hfits, hfull⟩ := h
  rw [roundUp_milliseconds, Nat.zero_add, ← Nat.mul_assoc] at hfits hfull
  exact ⟨Nat.le_of_mul_le_mul_right hfits millisecond_pos, Nat.lt_of_mul_lt_mul_right hfull⟩

section Slow

variable {opts : Options} {ctx : Context} {script : Table (List Reply)} {t : Text}
  {pause time : Nat}

theorem calls_slow (opts : Options) (ctx : Context) (script : Table (List Reply)) (pause : Nat)
    (t : Text) :
    (calls opts ctx (.slow script pause) [] t).length * (pause * Duration.millisecond) =
      (resolve opts ctx (.slow script pause) [] t).state.length * pause *
        Duration.millisecond := by
  rw [← state_slow, Nat.mul_assoc]

theorem resolve_slow_timed
    (h : (resolve opts.untimed ctx (.slow script pause) [] t).state.length * pause ≤ time) :
    (resolve (opts.timed (time * Duration.millisecond)) ctx (.slow script pause) [] t).result =
        (resolve opts.untimed ctx (.slow script pause) [] t).result ∧
      (resolve (opts.timed (time * Duration.millisecond)) ctx (.slow script pause) [] t).state =
        (resolve opts.untimed ctx (.slow script pause) [] t).state := by
  have hfit : (calls opts.untimed ctx (.slow script pause) [] t).length *
      (pause * Duration.millisecond) ≤ Duration.roundUp (time * Duration.millisecond) := by
    rw [roundUp_milliseconds, calls_slow]
    exact Nat.mul_le_mul_right _ h
  obtain ⟨hresult, hstate, -⟩ := resolve_timed (Executor.delay_slow script pause) hfit
  exact ⟨hresult, hstate⟩

theorem resolve_slow_cut
    (h : time < (resolve opts.untimed ctx (.slow script pause) [] t).state.length * pause) :
    let timed := resolve (opts.timed (time * Duration.millisecond)) ctx (.slow script pause) [] t
    timed.result = .error (.timedOut (time * Duration.millisecond)) ∧
      timed.state <+: (resolve opts.untimed ctx (.slow script pause) [] t).state ∧
      timed.state.length * pause ≤ time ∧ time < (timed.state.length + 1) * pause := by
  have hcut : Duration.roundUp (time * Duration.millisecond) <
      (calls opts.untimed ctx (.slow script pause) [] t).length *
        (pause * Duration.millisecond) := by
    rw [roundUp_milliseconds, calls_slow]
    exact Nat.mul_lt_mul_of_pos_right h millisecond_pos
  obtain ⟨hresult, hprefix, hfits⟩ := resolve_cut (Executor.delay_slow script pause) hcut
  rw [← state_slow, ← state_slow] at hprefix
  rw [← state_slow] at hfits
  exact ⟨hresult, hprefix, hfits.milliseconds⟩

end Slow

theorem ncard_multiples (calls : Nat) {pause time : Nat} (hfits : calls * pause ≤ time)
    (hfull : time < (calls + 1) * pause) (hne : 1 ≤ calls → calls * pause ≠ time) :
    {k : Nat | 1 ≤ k ∧ k * pause < time}.ncard = calls := by
  have hset : {k : Nat | 1 ≤ k ∧ k * pause < time} = Finset.Icc 1 calls := by
    ext k
    rw [Finset.coe_Icc, Set.mem_Icc, Set.mem_ofPred_eq]
    refine and_congr_right fun hk => ⟨fun hlt => ?_, fun hle => ?_⟩
    · exact Nat.le_of_lt_succ (Nat.lt_of_mul_lt_mul_right (Nat.lt_trans hlt hfull))
    · have hlt := Nat.lt_of_le_of_ne hfits (hne (Nat.le_trans hk hle))
      exact Nat.lt_of_le_of_lt (Nat.mul_le_mul_right pause hle) hlt
  rw [hset, Set.ncard_coe_finset, Nat.card_Icc, Nat.add_sub_cancel]

/-- A timeout changes nothing, or it cuts at the right call. Each call of a script is made to take
the same number of milliseconds, and no call ends just at the timeout. If all calls of the
resolution without a timeout fit in, it comes to the same with it and makes the same calls.
Otherwise it is given up, and it has made the first ones of these calls: as many as there are whole
numbers of pauses, from one on, that are shorter than the timeout. -/
theorem timeout_same_or_cut (opts : Options) (ctx : Context) (script : Table (List Reply))
    (t : Text) (pause time : Nat)
    (hne : ∀ k, 1 ≤ k → k ≤ (resolve opts.untimed ctx (.slow script pause) [] t).state.length →
      k * pause ≠ time) :
    let untimed := resolve opts.untimed ctx (.slow script pause) [] t
    let timed := resolve (opts.timed (time * Duration.millisecond)) ctx (.slow script pause) [] t
    let made := untimed.state.length
    let fitting := {k : Nat | 1 ≤ k ∧ k * pause < time}.ncard
    (made * pause < time ∨ made = 0 →
      timed.result = untimed.result ∧ timed.state = untimed.state) ∧
    (¬ (made * pause < time ∨ made = 0) →
      timed.result = .error (.timedOut (time * Duration.millisecond)) ∧
        timed.state = untimed.state.take fitting ∧ timed.state.length = fitting) := by
  intro untimed timed made fitting
  refine ⟨fun hfits => resolve_slow_timed ?_, fun hover => ?_⟩
  · rcases hfits with hlt | hzero
    · exact Nat.le_of_lt hlt
    · change made * pause ≤ time
      rw [hzero, Nat.zero_mul]
      exact Nat.zero_le _
  · obtain ⟨hnlt, hpos⟩ := not_or.mp hover
    have hmade : made * pause ≠ time := hne made (Nat.one_le_iff_ne_zero.mpr hpos) (Nat.le_refl _)
    obtain ⟨hresult, hprefix, hfit, hfull⟩ : timed.result = _ ∧ timed.state <+: untimed.state ∧ _ :=
      resolve_slow_cut (Nat.lt_of_le_of_ne (Nat.le_of_not_lt hnlt) hmade.symm)
    have hcount : fitting = timed.state.length :=
      ncard_multiples _ hfit hfull fun hone => hne _ hone hprefix.length_le
    refine ⟨hresult, ?_, hcount.symm⟩
    rw [hcount]
    exact List.prefix_iff_eq_take.mp hprefix

def digitScript : Table (List Reply) :=
  [(['n'], [.ok (some (.text ['1']))])]

def digitTwice : Text :=
  Placeholder.command.written (some ['n']) ++ Placeholder.command.written (some ['n'])

private theorem state_digitTwice :
    (resolve (Options.untimed {}) {} (.slow digitScript 2) [] digitTwice).state =
      [['n'], ['n']] := by
  have hsame : substitute {} digitTwice = digitTwice := by
    rw [substitute_eq_flatMap]
    decide +kernel
  rw [show Options.untimed {} = .single 8 32 from rfl, (resolve_single ..).2, hsame]
  decide +kernel

theorem timeout_cuts_second_digit :
    (∀ k, 1 ≤ k →
      k ≤ (resolve (Options.untimed {}) {} (.slow digitScript 2) [] digitTwice).state.length →
      k * 2 ≠ 3) ∧
    (resolve (Options.timed (3 * Duration.millisecond) {}) {} (.slow digitScript 2) []
      digitTwice).result = .error (.timedOut (3 * Duration.millisecond)) ∧
    (resolve (Options.timed (3 * Duration.millisecond) {}) {} (.slow digitScript 2) []
      digitTwice).state = [['n']] := by
  have hne : ∀ k, 1 ≤ k →
      k ≤ (resolve (Options.untimed {}) {} (.slow digitScript 2) [] digitTwice).state.length →
      k * 2 ≠ 3 := fun k _ _ => by omega
  obtain ⟨hresult, hstate, -⟩ := (timeout_same_or_cut {} {} digitScript digitTwice 2 3 hne).2
    (by rw [state_digitTwice]; decide)
  refine ⟨hne, hresult, ?_⟩
  rw [hstate, state_digitTwice, ncard_multiples 1 (by decide) (by decide) (by decide)]
  rfl

end Interpolation
