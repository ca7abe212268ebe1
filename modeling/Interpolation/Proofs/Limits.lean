import Interpolation.Proofs.Pass
import Interpolation.Proofs.PassCalls

/-!
# Wider limits

A resolution under narrow limits and one under wider limits go on in lockstep: at every moment they
have the same text, the same state and the same calls behind them, and one of them has some more
calls left. They part only where the narrow limits cut a resolution short. So limits never change
what a resolution comes to, and the calls made under narrow limits are the first ones of those made
under wider limits.
-/

namespace Interpolation

variable {σ : Type}

/-- The same run with more calls left. -/
def CommandRun.grant (extra : Nat) (run : CommandRun σ) : CommandRun σ :=
  { run with left := run.left + extra }

@[simp] theorem CommandRun.grant_result (extra : Nat) (run : CommandRun σ) :
    (run.grant extra).result = run.result := rfl

@[simp] theorem CommandRun.grant_state (extra : Nat) (run : CommandRun σ) :
    (run.grant extra).state = run.state := rfl

theorem CommandRun.grant_after (extra : Nat) (events : List Event) (run : CommandRun σ) :
    (run.after events).grant extra = (run.grant extra).after events := rfl

section Commands

variable {ex : Executor σ} {limit left : Nat} {clock : Clock} {s : σ} {t : Text}

theorem runCommands_grant {u : Text} (h : (runCommands ex limit left clock s t).result = .ok u)
    (wider extra : Nat) :
    runCommands ex wider (left + extra) clock s t =
      (runCommands ex limit left clock s t).grant extra := by
  induction left, clock, s, t using runCommands_induction ex with
  | none left clock s t hf =>
    rw [runCommands_none hf, runCommands_none hf]
    rfl
  | spent clock s t f hf =>
    rw [runCommands_zero hf] at h
    cases h
  | timedOut left clock s t f hf hw =>
    rw [runCommands_timedOut hf hw] at h
    cases h
  | call left clock later s t f hf hw ih =>
    rw [runCommands_call hf hw] at h ⊢
    rw [Nat.succ_add, runCommands_call hf hw, ih h, CommandRun.grant_after]

variable (ex limit left clock s t) in
theorem commandCalls_prefix (wider extra : Nat) :
    commandCalls ex limit left clock s t <+: commandCalls ex wider (left + extra) clock s t := by
  induction left, clock, s, t using runCommands_induction ex with
  | none left clock s t hf =>
    rw [commandCalls_none hf]
    exact List.nil_prefix
  | spent clock s t f hf =>
    rw [commandCalls_zero]
    exact List.nil_prefix
  | timedOut left clock s t f hf hw =>
    rw [commandCalls_timedOut hf hw]
    exact List.nil_prefix
  | call left clock later s t f hf hw ih =>
    rw [Nat.succ_add, commandCalls_call hf hw, commandCalls_call hf hw]
    exact (List.prefix_cons_inj f.id).mpr ih

theorem length_commandCalls_of_exceeded {l : Nat}
    (h : (runCommands ex limit left clock s t).result = .error (.commandLimitExceeded l)) :
    l = limit ∧ (commandCalls ex limit left clock s t).length = left := by
  induction left, clock, s, t using runCommands_induction ex with
  | none left clock s t hf =>
    rw [runCommands_none hf] at h
    cases h
  | spent clock s t f hf =>
    rw [runCommands_zero hf] at h
    rw [commandCalls_zero]
    exact ⟨(ResolveError.commandLimitExceeded.inj (Except.error.inj h)).symm, rfl⟩
  | timedOut left clock s t f hf hw =>
    rw [runCommands_timedOut hf hw] at h
    cases h
  | call left clock later s t f hf hw ih =>
    rw [runCommands_call hf hw] at h
    obtain ⟨hl, hlength⟩ := ih h
    rw [commandCalls_call hf hw, List.length_cons, hlength]
    exact ⟨hl, rfl⟩

end Commands

/-- `wide` allows at least what `opts` allows and is the same in all else. -/
structure Options.Widens (opts wide : Options) : Prop where
  recursive : wide.recursive = opts.recursive
  maxDepth : opts.maxDepth ≤ wide.maxDepth
  maxCommands : opts.maxCommands ≤ wide.maxCommands
  timeout : wide.timeout = opts.timeout

def Progress.grant (extra : Nat) (p : Progress σ) : Progress σ :=
  { p with left := p.left + extra }

theorem Progress.map_grant {τ : Type} (h : σ → τ) (extra : Nat) (p : Progress σ) :
    (p.grant extra).map h = (p.map h).grant extra := rfl

def Verdict.grant (extra : Nat) : Verdict σ → Verdict σ
  | .stop result => .stop result
  | .again q => .again (q.grant extra)

section Lockstep

variable {opts wide : Options} {ctx : Context} {ex : Executor σ} {p q : Progress σ} {s : σ}
  {t u : Text} {k extra : Nat} {result : Except ResolveError Text}

theorem seenAfter_grant (p : Progress σ) (run : CommandRun σ) (extra : Nat) :
    (p.grant extra).seenAfter (run.grant extra) = p.seenAfter run := by
  simp only [Progress.seenAfter, Progress.grant, CommandRun.grant, Nat.add_right_cancel_iff]

theorem judge_grant (hrec : wide.recursive = opts.recursive) (p : Progress σ)
    (run : CommandRun σ) (extra : Nat) :
    (p.grant extra).judge wide (run.grant extra) = (p.judge opts run).grant extra := by
  have hcarry : (p.grant extra).judge wide (run.grant extra) =
      (p.judge opts run).carry (run.grant extra) :=
    judge_carry hrec rfl (seenAfter_grant p run extra) (CommandRun.grant_result extra run)
  rw [hcarry]
  cases hj : p.judge opts run with
  | stop result => rfl
  | again q =>
    have hc := continues_of_judge hj
    simp only [Verdict.carry, Verdict.grant, Progress.grant, CommandRun.grant, hc.left, hc.clock,
      hc.state]

theorem runPass_grant (hr : (runPass opts ctx ex p).result = .ok u) (wide : Options)
    (extra : Nat) :
    runPass wide ctx ex (p.grant extra) = (runPass opts ctx ex p).grant extra := by
  rw [runPass_eq, CommandRun.after_result] at hr
  rw [runPass_eq, runPass_eq, CommandRun.grant_after, ← runCommands_grant hr wide.maxCommands]
  rfl

variable (opts ctx ex p) in
theorem passCalls_prefix (wide : Options) (extra : Nat) :
    passCalls opts ctx ex p <+: passCalls wide ctx ex (p.grant extra) :=
  commandCalls_prefix ex opts.maxCommands p.left p.clock p.state (substitute ctx p.current)
    wide.maxCommands extra

theorem verdict_grant_of_again (hw : opts.Widens wide) (hv : verdict opts ctx ex p = .again q)
    (extra : Nat) : verdict wide ctx ex (p.grant extra) = .again (q.grant extra) := by
  obtain ⟨hj, hle⟩ := judge_of_verdict hv
  have hrun := runPass_grant (continues_of_judge hj).result wide extra
  apply verdict_of_again
  · rw [hrun, judge_grant hw.recursive, hj]
    rfl
  · exact Nat.le_trans hle hw.maxDepth

theorem verdict_grant_of_stop (hw : opts.Widens wide)
    (hj : p.judge opts (runPass opts ctx ex p) = .stop result)
    (hr : (runPass opts ctx ex p).result = .ok u) (extra : Nat) :
    verdict wide ctx ex (p.grant extra) = .stop result := by
  apply verdict_of_stop
  rw [runPass_grant hr wide extra, judge_grant hw.recursive, hj]
  rfl

def Options.surplus (opts wide : Options) : Nat :=
  wide.maxCommands - opts.maxCommands

theorem start_grant (hw : opts.Widens wide) (s : σ) (t : Text) :
    Progress.start wide s t = (Progress.start opts s t).grant (opts.surplus wide) := by
  have hcalls : opts.maxCommands + opts.surplus wide = wide.maxCommands :=
    Nat.add_sub_cancel' hw.maxCommands
  simp only [Progress.start, Progress.grant, hcalls, hw.timeout]

theorem progressAt_grant (hw : opts.Widens wide) (hp : progressAt opts ctx ex s t k = some p) :
    progressAt wide ctx ex s t k = some (p.grant (opts.surplus wide)) := by
  induction k generalizing p with
  | zero =>
    obtain rfl := Option.some.inj hp
    exact congrArg some (start_grant hw s t)
  | succ k ih =>
    obtain ⟨p', hp', hv⟩ := progressAt_succ.mp hp
    exact progressAt_succ.mpr ⟨_, ih hp', verdict_grant_of_again hw hv _⟩

/-- The results that no limit brings about: a text, or a cycle. -/
inductive Conclusive : Except ResolveError Text → Prop where
  | done (u : Text) : Conclusive (.ok u)
  | cycle (passes : Nat) : Conclusive (.error (.expansionCycle passes))

theorem judge_of_conclusive (hv : verdict opts ctx ex p = .stop result)
    (hc : Conclusive result) :
    p.judge opts (runPass opts ctx ex p) = .stop result ∧
      ∃ u, (runPass opts ctx ex p).result = .ok u := by
  cases ends_of_verdict hv with
  | failed hr =>
    rw [runPass_eq, CommandRun.after_result] at hr
    rcases error_of_runCommands hr with rfl | ⟨timeout, rfl⟩ <;> cases hc
  | done hr hd => exact ⟨judge_done hr hd, _, hr⟩
  | repeated hr hd hs => exact ⟨judge_seen hr hd hs, _, hr⟩
  | tooDeep hr hd hs hlt => cases hc

/-- A resolution that comes to a conclusive result comes to it under wider limits, with the same
state. -/
theorem resolve_of_widens (hw : opts.Widens wide)
    (hc : Conclusive (resolve opts ctx ex s t).result) :
    (resolve wide ctx ex s t).result = (resolve opts ctx ex s t).result ∧
      (resolve wide ctx ex s t).state = (resolve opts ctx ex s t).state := by
  obtain ⟨k, p, result, hp, hv⟩ := exists_stop opts ctx ex s t
  obtain ⟨hresult, hstate⟩ := resolve_of_stop hp hv
  rw [hresult] at hc ⊢
  obtain ⟨hj, u, hu⟩ := judge_of_conclusive hv hc
  obtain ⟨hwide, hwideState⟩ :=
    resolve_of_stop (progressAt_grant hw hp) (verdict_grant_of_stop hw hj hu _)
  refine ⟨hwide, ?_⟩
  rw [hwideState, hstate, runPass_grant hu, CommandRun.grant_state]

end Lockstep

section Listed

variable {opts wide : Options} {ctx : Context} {ex : Executor σ} {s : σ} {t : Text} {k : Nat}

theorem prefix_follow {p : Progress (σ × List Text)} {run : CommandRun (σ × List Text)}
    {next : Progress (σ × List Text) → Resolution (σ × List Text)}
    (hnext : ∀ q, q.state.2 <+: (next q).state.2) :
    run.state.2 <+: (p.follow opts run next).state.2 := by
  cases hj : p.judge opts run with
  | stop result => simp only [(follow_of_stop hj).2, List.prefix_rfl]
  | again q =>
    rw [(follow_of_again hj).2, ← (continues_of_judge hj).state]
    exact hnext q

theorem listed_prefix (extra : Nat) (r : Progress (σ × List Text)) :
    r.state.2 ++ passCalls opts ctx ex (r.map Prod.fst) <+:
      (runPasses opts ctx ex.recording extra r).state.2 := by
  rw [← runPass_recording_listed]
  induction extra generalizing r with
  | zero =>
    rw [runPasses]
    exact prefix_follow fun q => List.prefix_rfl
  | succ extra ih =>
    rw [runPasses]
    refine prefix_follow fun q => ?_
    have hq := ih q
    rw [runPass_recording_listed] at hq
    exact (List.prefix_append _ _).trans hq

theorem listed_prefix_calls {r : Progress (σ × List Text)}
    (hr : progressAt opts ctx ex.recording (s, []) t k = some r) :
    r.state.2 ++ passCalls opts ctx ex (r.map Prod.fst) <+: calls opts ctx ex s t := by
  obtain ⟨extra, -, -, hstate⟩ := runPasses_progressAt hr
  rw [calls, hstate]
  exact listed_prefix extra r

theorem calls_of_widens (hw : opts.Widens wide)
    (hc : Conclusive (resolve opts ctx ex s t).result) :
    calls wide ctx ex s t = calls opts ctx ex s t := by
  rw [← (resolve_recording opts ctx ex s t).1] at hc
  exact congrArg Prod.snd (resolve_of_widens hw hc).2

variable (ctx ex s t) in
/-- The calls made under narrow limits come first under wider limits. -/
theorem calls_prefix_of_widens (hw : opts.Widens wide) :
    calls opts ctx ex s t <+: calls wide ctx ex s t := by
  obtain ⟨k, r, result, hr, hv⟩ := exists_stop opts ctx ex.recording (s, []) t
  have hlast := passCalls_prefix opts ctx ex (r.map Prod.fst) wide (opts.surplus wide)
  have hlisted := listed_prefix_calls (progressAt_grant hw hr)
  rw [Progress.map_grant] at hlisted
  rw [calls_of_stop hr hv]
  exact ((List.prefix_append_right_inj r.state.2).mpr hlast).trans hlisted

theorem length_passCalls_of_exceeded {p : Progress σ} {limit : Nat}
    (h : (runPass opts ctx ex p).result = .error (.commandLimitExceeded limit)) :
    limit = opts.maxCommands ∧ (passCalls opts ctx ex p).length = p.left := by
  rw [runPass_eq, CommandRun.after_result] at h
  exact length_commandCalls_of_exceeded h

theorem exceeded_of_ends {p : Progress σ} {run : CommandRun σ} {limit : Nat}
    (hends : p.Ends opts run (.error (.commandLimitExceeded limit))) :
    run.result = .error (.commandLimitExceeded limit) := by
  cases hends with
  | failed hr => exact hr

theorem length_calls_of_exceeded {limit : Nat}
    (h : (resolve opts ctx ex s t).result = .error (.commandLimitExceeded limit)) :
    limit = opts.maxCommands ∧ (calls opts ctx ex s t).length = opts.maxCommands := by
  obtain ⟨k, r, result, hr, hv⟩ := exists_stop opts ctx ex.recording (s, []) t
  rw [← (resolve_recording opts ctx ex s t).1, (resolve_of_stop hr hv).1] at h
  have hlisted := calls_of_stop hr hv
  rw [h] at hv
  have hrun := exceeded_of_ends (ends_of_verdict hv)
  rw [runPass_recording, CommandRun.map_result] at hrun
  obtain ⟨hlimit, hlength⟩ := length_passCalls_of_exceeded hrun
  refine ⟨hlimit, ?_⟩
  rw [hlisted, List.length_append, hlength, Progress.map_left, length_listed hr]

end Listed

/-- Limits only cut a resolution short, they never change it. The calls of a resolution come first
among those that it makes under wider limits. A resolution that comes to a text or to a cycle comes
to it under wider limits too, with the same calls and the same state of the executor. And one that
fails with the command limit has called exactly as many commands as it may. -/
theorem wider_limits_same_resolution (opts : Options) (ctx : Context) (ex : Executor σ) (s : σ)
    (t : Text) {depth commands : Nat} (hdepth : opts.maxDepth ≤ depth)
    (hcommands : opts.maxCommands ≤ commands) :
    let wide : Options := { opts with maxDepth := depth, maxCommands := commands }
    calls opts ctx ex s t <+: calls wide ctx ex s t ∧
      (Conclusive (resolve opts ctx ex s t).result →
        (resolve wide ctx ex s t).result = (resolve opts ctx ex s t).result ∧
          (resolve wide ctx ex s t).state = (resolve opts ctx ex s t).state ∧
          calls wide ctx ex s t = calls opts ctx ex s t) ∧
      ∀ limit, (resolve opts ctx ex s t).result = .error (.commandLimitExceeded limit) →
        limit = opts.maxCommands ∧ (calls opts ctx ex s t).length = opts.maxCommands := by
  intro wide
  have hw : opts.Widens wide := ⟨rfl, hdepth, hcommands, rfl⟩
  refine ⟨calls_prefix_of_widens ctx ex s t hw, ?_, fun limit h => length_calls_of_exceeded h⟩
  intro hc
  obtain ⟨hresult, hstate⟩ := resolve_of_widens hw hc
  exact ⟨hresult, hstate, calls_of_widens hw hc⟩

def relaying : Executor Unit where
  call s id :=
    let answer := if id = ['a'] then Placeholder.command.written (some ['b']) else ['z']
    (.ok (some (.text answer)), s)

private theorem runPass_relaying (opts : Options) {t : Text} (ht : substitute {} t = t) :
    (runPass opts {} relaying (.start opts () t)).result =
      (runCommands relaying opts.maxCommands opts.maxCommands { timeout := opts.timeout } ()
        t).result := by
  rw [runPass_start, CommandRun.after_result, ht]

private theorem substitute_relayed :
    substitute {} (Placeholder.command.written (some ['a'])) =
      Placeholder.command.written (some ['a']) := by
  rw [substitute_eq_flatMap]
  decide +kernel

private theorem resolve_relaying_one :
    (resolve { recursive := true, maxDepth := 0, maxCommands := 1 } {} relaying ()
      (Placeholder.command.written (some ['a']))).result = .error (.commandLimitExceeded 1) :=
  (resolve_of_start (judge_error (runPass_relaying _ substitute_relayed))).1

private theorem resolve_relaying_two :
    (resolve { recursive := true, maxDepth := 0, maxCommands := 2 } {} relaying ()
      (Placeholder.command.written (some ['a']))).result = .ok ['z'] :=
  (resolve_of_start (judge_done (runPass_relaying _ substitute_relayed) (by decide))).1

theorem resolve_relaying :
    let opts (commands : Nat) : Options :=
      { recursive := true, maxDepth := 0, maxCommands := commands }
    let t := Placeholder.command.written (some ['a'])
    (calls (opts 1) {} relaying () t).length = 1 ∧
      calls (opts 1) {} relaying () t <+: calls (opts 2) {} relaying () t ∧
      (resolve { opts 2 with maxDepth := 3, maxCommands := 5 } {} relaying () t).result =
        .ok ['z'] := by
  intro opts t
  have hone := wider_limits_same_resolution (opts 1) {} relaying () t (Nat.le_refl 0)
    (show 1 ≤ 2 by decide)
  have htwo := wider_limits_same_resolution (opts 2) {} relaying () t (show 0 ≤ 3 by decide)
    (show 2 ≤ 5 by decide)
  refine ⟨(hone.2.2 1 resolve_relaying_one).2, hone.1, ?_⟩
  have hz : (resolve (opts 2) {} relaying () t).result = .ok ['z'] := resolve_relaying_two
  rw [(htwo.2.1 (hz ▸ .done ['z'])).1, hz]

end Interpolation
