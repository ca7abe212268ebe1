import Interpolation.Proofs.Passes

/-!
# The calls of a resolution

The ids that the passes of a resolution call are listed by an executor that answers like the given
one. What the passes before have called and what is left for the next one is what the options allow
in all, so a resolution never calls more than that.
-/

namespace Interpolation

variable {σ : Type} (opts : Options) (ctx : Context) (ex : Executor σ)

/-- The ids that a pass calls, in order. -/
def passCalls (p : Progress σ) : List Text :=
  commandCalls ex opts.maxCommands p.left p.clock p.state (substitute ctx p.current)

theorem passCalls_start (s : σ) (t : Text) :
    passCalls opts ctx ex (.start opts s t) =
      commandCalls ex opts.maxCommands opts.maxCommands { timeout := opts.timeout } s
        (substitute ctx t) := rfl

/-- The ids that a resolution calls, in order. -/
def calls (s : σ) (t : Text) : List Text :=
  (resolve opts ctx ex.recording (s, []) t).state.2

theorem runPass_recording (r : Progress (σ × List Text)) :
    runPass opts ctx ex.recording r =
      (runPass opts ctx ex (r.map Prod.fst)).map
        fun last => (last, r.state.2 ++ passCalls opts ctx ex (r.map Prod.fst)) := by
  rw [runPass_eq, runPass_eq, CommandRun.map_after, passCalls]
  obtain ⟨pass, seen, current, left, clock, s, ids⟩ := r
  rw [runCommands_recording]
  rfl

/-- A resolution that lists its calls is the same resolution. -/
theorem resolve_recording (s : σ) (t : Text) :
    (resolve opts ctx ex.recording (s, []) t).result = (resolve opts ctx ex s t).result ∧
      (resolve opts ctx ex.recording (s, []) t).state =
        ((resolve opts ctx ex s t).state, calls opts ctx ex s t) := by
  obtain ⟨hresult, hstate⟩ := resolve_map opts ctx ex.recording_mapsTo (s, []) t
  exact ⟨hresult.symm, Prod.ext hstate.symm rfl⟩

theorem calls_map {τ : Type} {h : σ → τ} {other : Executor τ} (hm : Executor.MapsTo h ex other)
    (s : σ) (t : Text) : calls opts ctx other (h s) t = calls opts ctx ex s t := by
  have hstate := (resolve_map opts ctx hm.recording (s, []) t).2
  exact congrArg Prod.snd hstate

theorem resolve_listed (s : σ) (ids : List Text) (t : Text) :
    (resolve opts ctx ex.recording (s, ids) t).state =
      ((resolve opts ctx ex s t).state, ids ++ calls opts ctx ex s t) := by
  have hids := (resolve_map opts ctx (ex.recording_mapsTo_append ids) (s, []) t).2
  simp only [List.append_nil] at hids
  rw [hids, (resolve_recording opts ctx ex s t).2]

variable {opts ctx ex} {p q : Progress σ} {u : Text}

theorem left_of_runPass_ok (hr : (runPass opts ctx ex p).result = .ok u) :
    (passCalls opts ctx ex p).length + (runPass opts ctx ex p).left = p.left := by
  rw [runPass_eq, CommandRun.after_result] at hr
  rw [runPass_eq, CommandRun.after_left, passCalls]
  exact length_commandCalls_of_ok hr

theorem find?_of_runPass_ok (hr : (runPass opts ctx ex p).result = .ok u) :
    Placeholder.command.find? u = none := by
  rw [runPass_eq, CommandRun.after_result] at hr
  exact find?_of_runCommands_ok hr

theorem left_eq_iff (hr : (runPass opts ctx ex p).result = .ok u) :
    (runPass opts ctx ex p).left = p.left ↔ passCalls opts ctx ex p = [] := by
  have hleft := left_of_runPass_ok hr
  rw [← List.length_eq_zero_iff]
  omega

variable (opts ctx ex p) in
theorem length_passCalls_le : (passCalls opts ctx ex p).length ≤ p.left :=
  Nat.le_trans (Nat.le_add_right _ _)
    (length_commandCalls_le ex opts.maxCommands p.left p.clock p.state (substitute ctx p.current))

variable {s : σ} {t : Text} {k : Nat}

theorem runPass_recording_listed (r : Progress (σ × List Text)) :
    (runPass opts ctx ex.recording r).state.2 =
      r.state.2 ++ passCalls opts ctx ex (r.map Prod.fst) := by
  rw [runPass_recording, CommandRun.map_state]

theorem calls_of_stop {r : Progress (σ × List Text)} {result : Except ResolveError Text}
    (hr : progressAt opts ctx ex.recording (s, []) t k = some r)
    (hv : verdict opts ctx ex.recording r = .stop result) :
    calls opts ctx ex s t = r.state.2 ++ passCalls opts ctx ex (r.map Prod.fst) := by
  rw [calls, (resolve_of_stop hr hv).2, runPass_recording_listed]

theorem timeout_of_progressAt (hp : progressAt opts ctx ex s t k = some p) :
    p.clock.timeout = opts.timeout := by
  induction k generalizing p with
  | zero =>
    obtain rfl := Option.some.inj hp
    rfl
  | succ k ih =>
    obtain ⟨p', hp', hv⟩ := progressAt_succ.mp hp
    rw [(continues_of_verdict hv).clock, runPass_eq, CommandRun.after_clock,
      timeout_of_runCommands, ih hp']

variable (opts ctx ex s t) in
/-- The ids that the first `k` passes call, in order. -/
def firstCalls (k : Nat) : List Text :=
  (firstPasses opts ctx ex s t k).flatMap (passCalls opts ctx ex)

theorem firstCalls_succ (hp : progressAt opts ctx ex s t k = some p) :
    firstCalls opts ctx ex s t (k + 1) =
      firstCalls opts ctx ex s t k ++ passCalls opts ctx ex p := by
  rw [firstCalls, firstPasses_succ hp, List.flatMap_append, ← firstCalls]
  simp

theorem exists_recording (hp : progressAt opts ctx ex s t k = some p) :
    ∃ r, progressAt opts ctx ex.recording (s, []) t k = some r ∧ r.map Prod.fst = p := by
  have hmap := progressAt_map opts ctx ex.recording_mapsTo (s, []) t k
  exact Option.map_eq_some_iff.mp (hmap.symm.trans hp)

theorem progressAt_of_recording {r : Progress (σ × List Text)}
    (hr : progressAt opts ctx ex.recording (s, []) t k = some r) :
    progressAt opts ctx ex s t k = some (r.map Prod.fst) := by
  have hmap := progressAt_map opts ctx ex.recording_mapsTo (s, []) t k
  rw [hr] at hmap
  exact hmap

theorem listed_eq_firstCalls {r : Progress (σ × List Text)}
    (hr : progressAt opts ctx ex.recording (s, []) t k = some r) :
    r.state.2 = firstCalls opts ctx ex s t k := by
  induction k generalizing r with
  | zero =>
    obtain rfl := Option.some.inj hr
    rfl
  | succ k ih =>
    obtain ⟨r', hr', hv⟩ := progressAt_succ.mp hr
    rw [(continues_of_verdict hv).state, runPass_recording_listed, ih hr',
      firstCalls_succ (progressAt_of_recording hr')]

theorem calls_eq_firstCalls {result : Except ResolveError Text}
    (hp : progressAt opts ctx ex s t k = some p) (hv : verdict opts ctx ex p = .stop result) :
    calls opts ctx ex s t = firstCalls opts ctx ex s t (k + 1) := by
  obtain ⟨r, hr, rfl⟩ := exists_recording hp
  rw [verdict_map opts ctx ex.recording_mapsTo] at hv
  cases hvr : verdict opts ctx ex.recording r with
  | stop result' => rw [calls_of_stop hr hvr, listed_eq_firstCalls hr, firstCalls_succ hp]
  | again q =>
    rw [hvr] at hv
    cases hv

theorem length_listed {r : Progress (σ × List Text)}
    (hr : progressAt opts ctx ex.recording (s, []) t k = some r) :
    r.state.2.length + r.left = opts.maxCommands := by
  induction k generalizing r with
  | zero =>
    obtain rfl := Option.some.inj hr
    exact Nat.zero_add _
  | succ k ih =>
    obtain ⟨r', hr', hv⟩ := progressAt_succ.mp hr
    have hbefore := ih hr'
    have hc := continues_of_verdict hv
    have hresult := hc.result
    rw [runPass_recording, CommandRun.map_result] at hresult
    have hleft := left_of_runPass_ok hresult
    rw [Progress.map_left] at hleft
    rw [hc.state, hc.left, runPass_recording, CommandRun.map_state, CommandRun.map_left,
      List.length_append]
    omega

theorem length_calls_of_ok {u : Text} (hp : progressAt opts ctx ex s t k = some p)
    (hv : verdict opts ctx ex p = .stop (.ok u)) :
    (calls opts ctx ex s t).length = opts.maxCommands - (runPass opts ctx ex p).left := by
  obtain ⟨r, hr, rfl⟩ := exists_recording hp
  have hlisted := length_listed hr
  rw [listed_eq_firstCalls hr] at hlisted
  have hleft : (passCalls opts ctx ex (r.map Prod.fst)).length +
      (runPass opts ctx ex (r.map Prod.fst)).left = r.left := by
    cases ends_of_verdict hv with
    | done hresult _ => exact left_of_runPass_ok hresult
  rw [calls_eq_firstCalls hp hv, firstCalls_succ hp, List.length_append]
  omega

/-- A first pass after which nothing asks for another one is the whole resolution: its command run
says what the resolution comes to, and what it calls. -/
theorem resolve_of_start_done {clock : Clock} (hclock : clock = { timeout := opts.timeout })
    (hr : (runCommands ex opts.maxCommands opts.maxCommands clock s (substitute ctx t)).result =
      .ok u)
    (hd : (opts.recursive && hasResidual u) = false) :
    (resolve opts ctx ex s t).result = .ok u ∧
      (resolve opts ctx ex s t).state =
        (runCommands ex opts.maxCommands opts.maxCommands clock s (substitute ctx t)).state ∧
      calls opts ctx ex s t =
        commandCalls ex opts.maxCommands opts.maxCommands clock s (substitute ctx t) := by
  subst hclock
  have hfirst : (runPass opts ctx ex (.start opts s t)).result = .ok u := by
    rw [runPass_start, CommandRun.after_result, hr]
  have hstart : (Progress.start opts (s, ([] : List Text)) t).map Prod.fst = .start opts s t := rfl
  have hlisted := runPass_recording opts ctx ex (.start opts (s, []) t)
  rw [hstart] at hlisted
  have hfirst' : (runPass opts ctx ex.recording (.start opts (s, []) t)).result = .ok u := by
    rw [hlisted, CommandRun.map_result, hfirst]
  obtain ⟨hresult, hstate⟩ := resolve_of_start (judge_done hfirst hd)
  refine ⟨hresult, ?_, ?_⟩
  · rw [hstate, runPass_start, CommandRun.after_state]
  · rw [calls, (resolve_of_start (judge_done hfirst' hd)).2, hlisted, CommandRun.map_state,
      passCalls_start]
    exact List.nil_append _

section Single

theorem judge_single (opts : Options) (hrec : opts.recursive = false) (p : Progress σ)
    (run : CommandRun σ) : p.judge opts run = .stop run.result := by
  cases hr : run.result with
  | error e => exact judge_error hr
  | ok u => exact judge_done hr (by rw [hrec, Bool.false_and])

/-- The options of a single pass without a timeout. -/
def Options.single (depth commands : Nat) : Options :=
  { maxDepth := depth, maxCommands := commands }

variable (depth commands : Nat) (ctx : Context) (ex : Executor σ) (s : σ) (t : Text)

theorem resolve_single :
    (resolve (.single depth commands) ctx ex s t).result =
        (runCommands ex commands commands {} s (substitute ctx t)).result ∧
      (resolve (.single depth commands) ctx ex s t).state =
        (runCommands ex commands commands {} s (substitute ctx t)).state := by
  have hj := judge_single (.single depth commands) rfl (.start (.single depth commands) s t)
    (runPass (.single depth commands) ctx ex (.start (.single depth commands) s t))
  have hstart := resolve_of_start hj
  rwa [runPass_start, CommandRun.after_result, CommandRun.after_state] at hstart

theorem calls_single :
    calls (.single depth commands) ctx ex s t =
      commandCalls ex commands commands {} s (substitute ctx t) := by
  rw [calls, (resolve_single depth commands ctx ex.recording (s, []) t).2, commandCalls]

end Single

variable (opts ctx ex s t)

/-- A resolution calls at most as many commands as the options allow, over all its passes. -/
theorem length_calls_le : (calls opts ctx ex s t).length ≤ opts.maxCommands := by
  obtain ⟨k, r, result, hr, hv⟩ := exists_stop opts ctx ex.recording (s, []) t
  have hlisted := length_listed hr
  have hlast := length_passCalls_le opts ctx ex (r.map Prod.fst)
  rw [Progress.map_left] at hlast
  rw [calls, (resolve_of_stop hr hv).2, runPass_recording, CommandRun.map_state,
    List.length_append]
  omega

end Interpolation
