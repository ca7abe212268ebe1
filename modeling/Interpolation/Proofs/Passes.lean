import Interpolation.Proofs.Calls
import Interpolation.Resolution

/-!
# The passes of a resolution

A resolution goes from pass to pass as long as the verdicts say so and the depth allows it. It ends
with the first verdict that ends it, or with the one that asks for a pass too many. So it can be
followed pass by pass: what holds before each pass is shown by induction over the passes made.
-/

namespace Interpolation

variable {σ τ : Type}

/-- The next pass starts from the text of the last one, which asks for it and was not seen. -/
structure Progress.Continues (opts : Options) (p : Progress σ) (run : CommandRun σ)
    (q : Progress σ) : Prop where
  result : run.result = .ok q.current
  asks : (opts.recursive && hasResidual q.current) = true
  fresh : q.current ∉ p.seenAfter run
  pass : q.pass = p.pass + 1
  seen : q.seen = p.seenAfter run
  left : q.left = run.left
  clock : q.clock = run.clock
  state : q.state = run.state

/-- Why a resolution ends with a pass: the commands fail, the text asks for no other pass, the text
was seen, or no other pass is allowed. -/
inductive Progress.Ends (opts : Options) (p : Progress σ) (run : CommandRun σ) :
    Except ResolveError Text → Prop where
  | failed {e : ResolveError} (hr : run.result = .error e) : Ends opts p run (.error e)
  | done {u : Text} (hr : run.result = .ok u) (hd : (opts.recursive && hasResidual u) = false) :
    Ends opts p run (.ok u)
  | repeated {u : Text} (hr : run.result = .ok u) (hd : (opts.recursive && hasResidual u) = true)
      (hs : u ∈ p.seenAfter run) : Ends opts p run (.error (.expansionCycle p.pass))
  | tooDeep {u : Text} (hr : run.result = .ok u) (hd : (opts.recursive && hasResidual u) = true)
      (hs : u ∉ p.seenAfter run) (hlt : opts.maxDepth < p.pass) :
    Ends opts p run (.error (.maxDepthExceeded opts.maxDepth))

section Judge

variable {opts : Options} {p q : Progress σ} {run : CommandRun σ} {u : Text}

theorem judge_error {e : ResolveError} (hr : run.result = .error e) :
    p.judge opts run = .stop (.error e) := by
  rw [Progress.judge, hr]

theorem judge_done (hr : run.result = .ok u) (hd : (opts.recursive && hasResidual u) = false) :
    p.judge opts run = .stop (.ok u) := by
  simp [Progress.judge, hr, hd]

theorem judge_seen (hr : run.result = .ok u) (hd : (opts.recursive && hasResidual u) = true)
    (hs : u ∈ p.seenAfter run) :
    p.judge opts run = .stop (.error (.expansionCycle p.pass)) := by
  simp [Progress.judge, hr, hd, hs]

theorem judge_fresh (hr : run.result = .ok u) (hd : (opts.recursive && hasResidual u) = true)
    (hs : u ∉ p.seenAfter run) :
    p.judge opts run =
      .again ⟨p.pass + 1, p.seenAfter run, u, run.left, run.clock, run.state⟩ := by
  simp [Progress.judge, hr, hd, hs]

variable (opts p run) in
theorem judge_cases :
    (∃ result, p.judge opts run = .stop result ∧ p.Ends opts run result) ∨
      ∃ q, p.judge opts run = .again q ∧ p.Continues opts run q := by
  cases hr : run.result with
  | error e => exact Or.inl ⟨_, judge_error hr, .failed hr⟩
  | ok u =>
    cases hd : opts.recursive && hasResidual u with
    | false => exact Or.inl ⟨_, judge_done hr hd, .done hr hd⟩
    | true =>
      by_cases hs : u ∈ p.seenAfter run
      · exact Or.inl ⟨_, judge_seen hr hd hs, .repeated hr hd hs⟩
      · exact Or.inr ⟨_, judge_fresh hr hd hs, hr, hd, hs, rfl, rfl, rfl, rfl, rfl⟩

theorem continues_of_judge (hj : p.judge opts run = .again q) : p.Continues opts run q := by
  rcases judge_cases opts p run with ⟨result, hstop, -⟩ | ⟨q', hagain, hc⟩
  · rw [hj] at hstop
    cases hstop
  · rw [hj] at hagain
    obtain rfl := Verdict.again.inj hagain
    exact hc

theorem ends_of_judge {result : Except ResolveError Text} (hj : p.judge opts run = .stop result) :
    p.Ends opts run result := by
  rcases judge_cases opts p run with ⟨result', hstop, he⟩ | ⟨q', hagain, -⟩
  · rw [hj] at hstop
    obtain rfl := Verdict.stop.inj hstop
    exact he
  · rw [hj] at hagain
    cases hagain

/-- The verdict on another pass that comes to the same text: it goes on from what that has left. -/
def Verdict.carry (run : CommandRun τ) : Verdict σ → Verdict τ
  | .stop result => .stop result
  | .again q => .again ⟨q.pass, q.seen, q.current, run.left, run.clock, run.state⟩

theorem judge_carry {opts' : Options} {p' : Progress τ} {run' : CommandRun τ}
    (hrec : opts'.recursive = opts.recursive) (hpass : p'.pass = p.pass)
    (hseen : p'.seenAfter run' = p.seenAfter run) (hresult : run'.result = run.result) :
    p'.judge opts' run' = (p.judge opts run).carry run' := by
  cases hr : run.result with
  | error e =>
    rw [judge_error hr, judge_error (hresult.trans hr)]
    rfl
  | ok u =>
    rw [hr] at hresult
    cases hd : opts.recursive && hasResidual u with
    | false =>
      rw [judge_done hr hd, judge_done hresult (hrec ▸ hd)]
      rfl
    | true =>
      by_cases hs : u ∈ p.seenAfter run
      · rw [judge_seen hr hd hs, judge_seen hresult (hrec ▸ hd) (hseen ▸ hs), hpass]
        rfl
      · rw [judge_fresh hr hd hs, judge_fresh hresult (hrec ▸ hd) (hseen ▸ hs), hpass, hseen]
        rfl

variable {next : Progress σ → Resolution σ}

theorem follow_of_stop {result : Except ResolveError Text}
    (hj : p.judge opts run = .stop result) :
    (p.follow opts run next).result = result ∧ (p.follow opts run next).state = run.state := by
  rw [Progress.follow, hj]
  exact ⟨rfl, rfl⟩

theorem follow_of_again (hj : p.judge opts run = .again q) :
    (p.follow opts run next).result = (next q).result ∧
      (p.follow opts run next).state = (next q).state := by
  rw [Progress.follow, hj]
  exact ⟨rfl, rfl⟩

end Judge

section Passes

variable (opts : Options) (ctx : Context) (ex : Executor σ)

/-- The verdict on a pass, where asking for a pass too many ends the resolution. -/
def verdict (p : Progress σ) : Verdict σ :=
  match p.judge opts (runPass opts ctx ex p) with
  | .stop result => .stop result
  | .again q =>
    if opts.maxDepth < p.pass then .stop (.error (.maxDepthExceeded opts.maxDepth)) else .again q

/-- The progress of a resolution before the pass that follows `k` others. -/
def progressAt (s : σ) (t : Text) : Nat → Option (Progress σ)
  | 0 => some (.start opts s t)
  | k + 1 =>
    match (progressAt s t k).map (verdict opts ctx ex) with
    | some (.again q) => some q
    | _ => none

variable {opts ctx ex} {p q : Progress σ} {extra k : Nat} {s : σ} {t : Text}
  {result : Except ResolveError Text}

theorem verdict_of_stop (hj : p.judge opts (runPass opts ctx ex p) = .stop result) :
    verdict opts ctx ex p = .stop result := by
  rw [verdict, hj]

theorem verdict_of_last (hj : p.judge opts (runPass opts ctx ex p) = .again q)
    (hlt : opts.maxDepth < p.pass) :
    verdict opts ctx ex p = .stop (.error (.maxDepthExceeded opts.maxDepth)) := by
  simp only [verdict, hj, hlt, if_true]

theorem verdict_of_again (hj : p.judge opts (runPass opts ctx ex p) = .again q)
    (hle : p.pass ≤ opts.maxDepth) : verdict opts ctx ex p = .again q := by
  simp only [verdict, hj, Nat.not_lt.mpr hle, if_false]

theorem judge_of_verdict (hv : verdict opts ctx ex p = .again q) :
    p.judge opts (runPass opts ctx ex p) = .again q ∧ p.pass ≤ opts.maxDepth := by
  cases hj : p.judge opts (runPass opts ctx ex p) with
  | stop r =>
    rw [verdict_of_stop hj] at hv
    cases hv
  | again q' =>
    rcases Nat.lt_or_ge opts.maxDepth p.pass with hlt | hle
    · rw [verdict_of_last hj hlt] at hv
      cases hv
    · rw [verdict_of_again hj hle] at hv
      exact ⟨hv, hle⟩

theorem continues_of_verdict (hv : verdict opts ctx ex p = .again q) :
    p.Continues opts (runPass opts ctx ex p) q :=
  continues_of_judge (judge_of_verdict hv).1

theorem ends_of_verdict (hv : verdict opts ctx ex p = .stop result) :
    p.Ends opts (runPass opts ctx ex p) result := by
  cases hj : p.judge opts (runPass opts ctx ex p) with
  | stop r =>
    rw [verdict_of_stop hj] at hv
    obtain rfl := Verdict.stop.inj hv
    exact ends_of_judge hj
  | again q =>
    have hc := continues_of_judge hj
    rcases Nat.lt_or_ge opts.maxDepth p.pass with hlt | hle
    · rw [verdict_of_last hj hlt] at hv
      obtain rfl := Verdict.stop.inj hv
      exact .tooDeep hc.result hc.asks hc.fresh hlt
    · rw [verdict_of_again hj hle] at hv
      cases hv

theorem verdict_carry {opts' : Options} {other : Executor τ} {p' : Progress τ}
    (hrec : opts'.recursive = opts.recursive) (hdepth : opts'.maxDepth = opts.maxDepth)
    (hpass : p'.pass = p.pass)
    (hseen : p'.seenAfter (runPass opts' ctx other p') = p.seenAfter (runPass opts ctx ex p))
    (hresult : (runPass opts' ctx other p').result = (runPass opts ctx ex p).result) :
    verdict opts' ctx other p' =
      (verdict opts ctx ex p).carry (runPass opts' ctx other p') := by
  have hcarry := judge_carry hrec hpass hseen hresult
  cases hj : p.judge opts (runPass opts ctx ex p) with
  | stop result =>
    rw [hj] at hcarry
    rw [verdict_of_stop hj, verdict_of_stop hcarry]
    rfl
  | again q =>
    rw [hj] at hcarry
    rcases Nat.lt_or_ge opts.maxDepth p.pass with hlt | hle
    · rw [verdict_of_last hj hlt, verdict_of_last hcarry (by omega), hdepth]
      rfl
    · rw [verdict_of_again hj hle, verdict_of_again hcarry (by omega)]
      rfl

theorem runPasses_of_stop (hpass : p.pass + extra = opts.maxDepth + 1)
    (hv : verdict opts ctx ex p = .stop result) :
    (runPasses opts ctx ex extra p).result = result ∧
      (runPasses opts ctx ex extra p).state = (runPass opts ctx ex p).state := by
  cases hj : p.judge opts (runPass opts ctx ex p) with
  | stop r =>
    rw [verdict_of_stop hj] at hv
    obtain rfl := Verdict.stop.inj hv
    cases extra with
    | zero => exact follow_of_stop hj
    | succ extra => exact follow_of_stop hj
  | again q =>
    cases extra with
    | zero =>
      rw [verdict_of_last hj (by omega)] at hv
      obtain rfl := Verdict.stop.inj hv
      rw [← (continues_of_judge hj).state]
      exact follow_of_again hj
    | succ extra =>
      rw [verdict_of_again hj (by omega)] at hv
      cases hv

theorem runPasses_of_again (hpass : p.pass + extra = opts.maxDepth + 1)
    (hv : verdict opts ctx ex p = .again q) :
    ∃ fewer, q.pass + fewer = opts.maxDepth + 1 ∧
      (runPasses opts ctx ex extra p).result = (runPasses opts ctx ex fewer q).result ∧
      (runPasses opts ctx ex extra p).state = (runPasses opts ctx ex fewer q).state := by
  obtain ⟨hj, hle⟩ := judge_of_verdict hv
  have hqpass := (continues_of_judge hj).pass
  cases extra with
  | zero => omega
  | succ extra =>
    exact ⟨extra, by omega, follow_of_again hj⟩

theorem progressAt_succ :
    progressAt opts ctx ex s t (k + 1) = some q ↔
      ∃ p, progressAt opts ctx ex s t k = some p ∧ verdict opts ctx ex p = .again q := by
  rw [progressAt]
  cases hp : progressAt opts ctx ex s t k with
  | none => simp
  | some p => cases hv : verdict opts ctx ex p <;> simp [hv]

theorem pass_of_progressAt (hp : progressAt opts ctx ex s t k = some p) : p.pass = k + 1 := by
  induction k generalizing p with
  | zero =>
    obtain rfl := Option.some.inj hp
    rfl
  | succ k ih =>
    obtain ⟨p', hp', hv⟩ := progressAt_succ.mp hp
    rw [(continues_of_verdict hv).pass, ih hp']

theorem le_maxDepth_of_progressAt (hp : progressAt opts ctx ex s t k = some p) :
    k ≤ opts.maxDepth := by
  cases k with
  | zero => exact Nat.zero_le _
  | succ k =>
    obtain ⟨p', hp', hv⟩ := progressAt_succ.mp hp
    have hpass := pass_of_progressAt hp'
    have hle := (judge_of_verdict hv).2
    omega

theorem progressAt_of_le {j : Nat} (hp : progressAt opts ctx ex s t k = some p) (hj : j ≤ k) :
    ∃ q, progressAt opts ctx ex s t j = some q := by
  induction k generalizing p with
  | zero => exact ⟨p, by rwa [Nat.le_zero.mp hj]⟩
  | succ k ih =>
    rcases Nat.lt_or_eq_of_le hj with hlt | rfl
    · obtain ⟨p', hp', -⟩ := progressAt_succ.mp hp
      exact ih hp' (by omega)
    · exact ⟨p, hp⟩

variable (opts ctx ex s t) in
/-- The progress before each of the first `k` passes. -/
def firstPasses (k : Nat) : List (Progress σ) :=
  (List.range k).filterMap (progressAt opts ctx ex s t)

theorem firstPasses_succ (hp : progressAt opts ctx ex s t k = some p) :
    firstPasses opts ctx ex s t (k + 1) = firstPasses opts ctx ex s t k ++ [p] := by
  simp [firstPasses, List.range_succ, hp]

/-- A resolution goes on like one that starts from the progress it has made. -/
theorem runPasses_progressAt (hp : progressAt opts ctx ex s t k = some p) :
    ∃ extra, p.pass + extra = opts.maxDepth + 1 ∧
      (resolve opts ctx ex s t).result = (runPasses opts ctx ex extra p).result ∧
      (resolve opts ctx ex s t).state = (runPasses opts ctx ex extra p).state := by
  induction k generalizing p with
  | zero =>
    obtain rfl := Option.some.inj hp
    refine ⟨opts.maxDepth, Nat.add_comm _ _, ?_⟩
    rw [resolve]
    split <;> exact ⟨rfl, rfl⟩
  | succ k ih =>
    obtain ⟨p', hp', hv⟩ := progressAt_succ.mp hp
    obtain ⟨extra, hpass, hresult, hstate⟩ := ih hp'
    obtain ⟨fewer, hfewer, hresult', hstate'⟩ := runPasses_of_again hpass hv
    exact ⟨fewer, hfewer, hresult.trans hresult', hstate.trans hstate'⟩

/-- The first verdict that ends a resolution decides it. -/
theorem resolve_of_stop (hp : progressAt opts ctx ex s t k = some p)
    (hv : verdict opts ctx ex p = .stop result) :
    (resolve opts ctx ex s t).result = result ∧
      (resolve opts ctx ex s t).state = (runPass opts ctx ex p).state := by
  obtain ⟨extra, hpass, hresult, hstate⟩ := runPasses_progressAt hp
  obtain ⟨hresult', hstate'⟩ := runPasses_of_stop hpass hv
  exact ⟨hresult.trans hresult', hstate.trans hstate'⟩

theorem resolve_of_start
    (hj : (Progress.start opts s t).judge opts (runPass opts ctx ex (.start opts s t)) =
      .stop result) :
    (resolve opts ctx ex s t).result = result ∧
      (resolve opts ctx ex s t).state = (runPass opts ctx ex (.start opts s t)).state :=
  resolve_of_stop (show progressAt opts ctx ex s t 0 = _ from rfl) (verdict_of_stop hj)

theorem progressAt_iff_le (hp : progressAt opts ctx ex s t k = some p)
    (hv : verdict opts ctx ex p = .stop result) (j : Nat) :
    (∃ q, progressAt opts ctx ex s t j = some q) ↔ j ≤ k := by
  refine ⟨?_, progressAt_of_le hp⟩
  rintro ⟨q, hq⟩
  apply Nat.le_of_not_lt
  intro hlt
  obtain ⟨p', hp'⟩ := progressAt_of_le hq hlt
  obtain ⟨p'', hp'', hv'⟩ := progressAt_succ.mp hp'
  rw [hp] at hp''
  obtain rfl := Option.some.inj hp''
  rw [hv] at hv'
  cases hv'

variable (opts ctx ex s t)

/-- Every resolution comes to a verdict that ends it. -/
theorem exists_stop :
    ∃ k p result, progressAt opts ctx ex s t k = some p ∧
      verdict opts ctx ex p = .stop result := by
  apply Classical.byContradiction
  intro hnone
  have hall : ∀ k, ∃ p, progressAt opts ctx ex s t k = some p := by
    intro k
    induction k with
    | zero => exact ⟨_, rfl⟩
    | succ k ih =>
      obtain ⟨p, hp⟩ := ih
      cases hv : verdict opts ctx ex p with
      | stop r => exact absurd ⟨k, p, r, hp, hv⟩ hnone
      | again q => exact ⟨q, progressAt_succ.mpr ⟨p, hp, hv⟩⟩
  obtain ⟨p, hp⟩ := hall (opts.maxDepth + 1)
  have := le_maxDepth_of_progressAt hp
  omega

/-- The passes of a resolution are as many as the depth allows at most, and one if it is not
recursive. The last of them decides it. -/
theorem exists_last_pass :
    ∃ n p, n ≤ opts.maxDepth ∧ (opts.recursive = false → n = 0) ∧
      progressAt opts ctx ex s t n = some p ∧
      verdict opts ctx ex p = .stop (resolve opts ctx ex s t).result ∧
      ∀ k, (∃ q, progressAt opts ctx ex s t k = some q) ↔ k ≤ n := by
  obtain ⟨n, p, result, hp, hv⟩ := exists_stop opts ctx ex s t
  refine ⟨n, p, le_maxDepth_of_progressAt hp, ?_, hp, ?_, progressAt_iff_le hp hv⟩
  · intro hrec
    cases n with
    | zero => rfl
    | succ n =>
      obtain ⟨p', -, hv'⟩ := progressAt_succ.mp hp
      have := (continues_of_verdict hv').asks
      simp [hrec] at this
  · rw [hv, (resolve_of_stop hp hv).1]

end Passes

section Map

def Progress.map (h : σ → τ) (p : Progress σ) : Progress τ :=
  ⟨p.pass, p.seen, p.current, p.left, p.clock, h p.state⟩

@[simp] theorem Progress.map_left (h : σ → τ) (p : Progress σ) : (p.map h).left = p.left := rfl

theorem seenAfter_map (h : σ → τ) (p : Progress σ) (run : CommandRun σ) :
    (p.map h).seenAfter (run.map h) = p.seenAfter run := rfl

def Verdict.map (h : σ → τ) : Verdict σ → Verdict τ
  | .stop result => .stop result
  | .again q => .again (q.map h)

variable (opts : Options) (ctx : Context)

theorem runPass_eq (ex : Executor σ) (p : Progress σ) :
    runPass opts ctx ex p =
      (runCommands ex opts.maxCommands p.left p.clock p.state (substitute ctx p.current)).after
        (.passStarted p.pass (Text.byteLength p.current) ::
          (replaced ctx p.current).map Event.substituted) := rfl

theorem runPass_start (ex : Executor σ) (s : σ) (t : Text) :
    runPass opts ctx ex (.start opts s t) =
      (runCommands ex opts.maxCommands opts.maxCommands { timeout := opts.timeout } s
        (substitute ctx t)).after
        (.passStarted 1 (Text.byteLength t) :: (replaced ctx t).map Event.substituted) := rfl

variable {h : σ → τ} {ex : Executor σ} {other : Executor τ} (hm : Executor.MapsTo h ex other)
include hm

theorem runPass_map (p : Progress σ) :
    runPass opts ctx other (p.map h) = (runPass opts ctx ex p).map h := by
  rw [runPass_eq, runPass_eq, CommandRun.map_after, ← runCommands_map hm]
  rfl

theorem verdict_map (p : Progress σ) :
    verdict opts ctx other (p.map h) = (verdict opts ctx ex p).map h := by
  have hrun := runPass_map opts ctx hm p
  have hcarry : verdict opts ctx other (p.map h) =
      (verdict opts ctx ex p).carry (runPass opts ctx other (p.map h)) :=
    verdict_carry rfl rfl rfl (by rw [hrun, seenAfter_map]) (by rw [hrun, CommandRun.map_result])
  rw [hcarry, hrun]
  cases hv : verdict opts ctx ex p with
  | stop result => rfl
  | again q =>
    have hc := continues_of_verdict hv
    simp only [Verdict.carry, Verdict.map, Progress.map, CommandRun.map, hc.left, hc.clock,
      hc.state]

theorem progressAt_map (s : σ) (t : Text) (k : Nat) :
    progressAt opts ctx other (h s) t k = (progressAt opts ctx ex s t k).map (Progress.map h) := by
  induction k with
  | zero => rfl
  | succ k ih =>
    rw [progressAt, progressAt, ih]
    cases progressAt opts ctx ex s t k with
    | none => rfl
    | some p =>
      simp only [Option.map_some, verdict_map opts ctx hm]
      cases verdict opts ctx ex p <;> rfl

/-- A resolution depends on what an executor answers, not on how it keeps its state. -/
theorem resolve_map (s : σ) (t : Text) :
    (resolve opts ctx other (h s) t).result = (resolve opts ctx ex s t).result ∧
      (resolve opts ctx other (h s) t).state = h (resolve opts ctx ex s t).state := by
  obtain ⟨k, p, result, hp, hv⟩ := exists_stop opts ctx ex s t
  have hp' : progressAt opts ctx other (h s) t k = some (p.map h) := by
    rw [progressAt_map opts ctx hm, hp]
    rfl
  have hv' : verdict opts ctx other (p.map h) = .stop result := by
    rw [verdict_map opts ctx hm, hv]
    rfl
  obtain ⟨hresult, hstate⟩ := resolve_of_stop hp hv
  obtain ⟨hresult', hstate'⟩ := resolve_of_stop hp' hv'
  rw [hresult, hstate, hresult', hstate', runPass_map opts ctx hm]
  exact ⟨rfl, rfl⟩

end Map

end Interpolation
