import Interpolation.Proofs.SeenTexts

/-!
# The cycle check

A resolution is given up as a cycle just when a pass comes to a text from which a pass has started
since the last call. It is never given up too early: the passes in between are substitutions, so
without any check the same texts would come up for ever, each asking for one more pass.
-/

namespace Interpolation

variable {σ : Type}

section Exact

variable {opts : Options} {ctx : Context} {ex : Executor σ} {p : Progress σ} {s : σ} {t y : Text}
  {k : Nat}

theorem repeated_of_ends {passes : Nat} {p : Progress σ}
    (hends : p.Ends opts (runPass opts ctx ex p) (.error (.expansionCycle passes))) :
    passes = p.pass ∧ ∃ u, (runPass opts ctx ex p).result = .ok u ∧
      (opts.recursive && hasResidual u) = true ∧ u ∈ p.seenAfter (runPass opts ctx ex p) := by
  cases hends with
  | failed hr =>
    rw [runPass_eq, CommandRun.after_result] at hr
    rcases error_of_runCommands hr with he | ⟨timeout, he⟩ <;> cases he
  | repeated hr hd hs => exact ⟨rfl, _, hr, hd, hs⟩

/-- A pass that leaves a token is the end of a cycle just when its text was seen. -/
theorem cycle_iff (hrec : opts.recursive = true) (hp : progressAt opts ctx ex s t k = some p)
    (hr : (runPass opts ctx ex p).result = .ok y) (hd : hasResidual y = true) :
    (resolve opts ctx ex s t).result = .error (.expansionCycle (k + 1)) ↔
      SeenSince opts ctx ex s t y (k + 1) := by
  rw [← mem_seenAfter hp hr]
  constructor
  · intro hcycle
    obtain ⟨n, p', result, hp', hv⟩ := exists_stop opts ctx ex s t
    rw [(resolve_of_stop hp' hv).1] at hcycle
    rw [hcycle] at hv
    obtain ⟨hpass, u, hr', -, hs⟩ := repeated_of_ends (ends_of_verdict hv)
    rw [pass_of_progressAt hp', Nat.succ_inj] at hpass
    rw [← hpass, hp] at hp'
    obtain rfl := Option.some.inj hp'
    rw [hr] at hr'
    obtain rfl := Except.ok.inj hr'
    exact hs
  · intro hs
    have hasks : (opts.recursive && hasResidual y) = true := by rw [hrec, hd]; rfl
    have hv := verdict_of_stop (judge_seen hr hasks hs)
    rw [(resolve_of_stop hp hv).1, pass_of_progressAt hp]

end Exact

section Sound

variable {opts : Options} {ctx : Context} {ex : Executor σ} {p q : Progress σ} {s : σ}
  {t y : Text} {j k : Nat}

theorem current_of_callsNothing (hq : progressAt opts ctx ex s t j = some q) {m : Nat}
    (hnothing : CallsNothing opts ctx ex s t j (j + m))
    (hp : progressAt opts ctx ex s t (j + m) = some p) :
    p.current = expansion ctx q.current m := by
  induction m generalizing p with
  | zero =>
    rw [Nat.add_zero, hq] at hp
    obtain rfl := Option.some.inj hp
    rfl
  | succ m ih =>
    obtain ⟨p', hp', hv⟩ := progressAt_succ.mp hp
    obtain ⟨hbefore, hlast⟩ := (callsNothing_succ (Nat.le_add_right j m) hp').mp hnothing
    have hc := continues_of_verdict hv
    rw [(find?_of_passCalls_nil hc.result hlast).2, ih hbefore hp', expansion_succ]

/-- A text that asks for another pass and has no command token to call. -/
structure AsksInVain (u : Text) : Prop where
  asks : hasResidual u = true
  free : Placeholder.command.find? u = none

/-- A text that was seen goes round, and no text on the round ever ends the passes. -/
theorem asksInVain_of_seen (hp : progressAt opts ctx ex s t k = some p)
    (hr : (runPass opts ctx ex p).result = .ok y) (hd : hasResidual y = true)
    (hs : SeenSince opts ctx ex s t y (k + 1)) (n : Nat) : AsksInVain (expansion ctx y n) := by
  obtain ⟨j, q, hlt, hq, rfl, hnothing⟩ := hs
  obtain ⟨m, rfl⟩ := Nat.exists_eq_add_of_le (Nat.le_of_lt_succ hlt)
  obtain ⟨hbefore, hlast⟩ := (callsNothing_succ (Nat.le_add_right j m) hp).mp hnothing
  have hrepeat : expansion ctx q.current (m + 1) = expansion ctx q.current 0 := by
    rw [expansion_succ, ← current_of_callsNothing hq hbefore hp]
    exact (find?_of_passCalls_nil hr hlast).2.symm
  refine expansion_of_repeat (Nat.succ_pos m) hrepeat ?_ (Nat.zero_le n)
  -- the texts of one round are those from which the passes since then have started
  rintro (_ | i) - hi
  · exact ⟨hd, find?_of_runPass_ok hr⟩
  · obtain ⟨p', hp'⟩ := progressAt_of_le hp (show j + (i + 1) ≤ j + m by omega)
    obtain ⟨r, hr', hv⟩ := progressAt_succ.mp hp'
    have hc := continues_of_verdict hv
    have hasks := hc.asks
    rw [Bool.and_eq_true] at hasks
    have hnone : CallsNothing opts ctx ex s t j (j + (i + 1)) :=
      fun l hle hl => hbefore l hle (by omega)
    rw [← current_of_callsNothing hq hnone hp']
    exact ⟨hasks.2, find?_of_runPass_ok hc.result⟩

end Sound

/-- Passes without any check. The calls and the time that they may take are as given. -/
def unguarded (ctx : Context) (ex : Executor σ) (limit : Nat) (clock : Clock) (s : σ) (u : Text) :
    Nat → CommandRun σ
  | 0 => ⟨.ok u, limit, clock, s, []⟩
  | n + 1 =>
    let run := unguarded ctx ex limit clock s u n
    match run.result with
    | .error _ => run
    | .ok v => runCommands ex limit run.left run.clock run.state (substitute ctx v)

theorem unguarded_of_asksInVain {ctx : Context} (ex : Executor σ) (limit : Nat) (clock : Clock)
    (s : σ) {u : Text} (hu : ∀ n, AsksInVain (expansion ctx u n)) (n : Nat) :
    unguarded ctx ex limit clock s u n = ⟨.ok (expansion ctx u n), limit, clock, s, []⟩ := by
  induction n with
  | zero => rfl
  | succ n ih =>
    have hf := (hu (n + 1)).free
    rw [expansion_succ] at hf
    rw [unguarded, ih, expansion_succ]
    exact runCommands_none hf

/-- The cycle check is exact and never a false alarm. A pass that leaves a token ends the resolution
as a cycle just when its text is the one from which some pass has started, and no pass from that one
on has called a command. And where a resolution has ended so, any number of passes without any
check, with any number of calls and any time for them, call nothing and leave a text that still
asks for another pass. -/
theorem cycle_check_exact (opts : Options) (ctx : Context) (ex : Executor σ) (s : σ) (t : Text)
    (hrec : opts.recursive = true) :
    (∀ k p y, progressAt opts ctx ex s t k = some p → (runPass opts ctx ex p).result = .ok y →
      hasResidual y = true →
      ((resolve opts ctx ex s t).result = .error (.expansionCycle (k + 1)) ↔
        ∃ j q, j < k + 1 ∧ progressAt opts ctx ex s t j = some q ∧ q.current = y ∧
          ∀ i, j ≤ i → i < k + 1 → ∀ r, progressAt opts ctx ex s t i = some r →
            passCalls opts ctx ex r = [])) ∧
      ∀ passes, (resolve opts ctx ex s t).result = .error (.expansionCycle passes) →
        ∃ k p y, passes = k + 1 ∧ progressAt opts ctx ex s t k = some p ∧
          (runPass opts ctx ex p).result = .ok y ∧ hasResidual y = true ∧
          ∀ limit clock n, ∃ u, hasResidual u = true ∧
            unguarded ctx ex.recording limit clock ((resolve opts ctx ex s t).state, []) y n =
              ⟨.ok u, limit, clock, ((resolve opts ctx ex s t).state, []), []⟩ := by
  refine ⟨fun k p y hp hr hd => cycle_iff hrec hp hr hd, ?_⟩
  intro passes hcycle
  obtain ⟨k, p, result, hp, hv⟩ := exists_stop opts ctx ex s t
  have hstop := hcycle
  rw [(resolve_of_stop hp hv).1] at hstop
  rw [hstop] at hv
  obtain ⟨hpass, y, hr, hasks, hs⟩ := repeated_of_ends (ends_of_verdict hv)
  rw [Bool.and_eq_true] at hasks
  have hvain := asksInVain_of_seen hp hr hasks.2 ((mem_seenAfter hp hr).mp hs)
  refine ⟨k, p, y, hpass.trans (pass_of_progressAt hp), hp, hr, hasks.2, ?_⟩
  intro limit clock n
  exact ⟨expansion ctx y n, (hvain n).asks,
    unguarded_of_asksInVain ex.recording limit clock _ hvain n⟩

def roundabout : Context where
  environment name := some (Placeholder.env.written (some (if name = ['A'] then ['B'] else ['A'])))

def entering : Executor Nat where
  call n _ := (.ok (some (.text (Placeholder.env.written (some ['A'])))), n + 1)

theorem resolve_roundabout :
    let opts : Options := { recursive := true }
    let t := Placeholder.command.written (some ['s'])
    calls opts roundabout entering 0 t = [['s']] ∧
      (resolve opts roundabout entering 0 t).result = .error (.expansionCycle 3) ∧
        ∃ y, ∀ limit clock n, ∃ u, hasResidual u = true ∧
          unguarded roundabout entering.recording limit clock (1, []) y n =
            ⟨.ok u, limit, clock, (1, []), []⟩ := by
  intro opts t
  let back : Text := Placeholder.env.written (some ['A'])
  have hexact := cycle_check_exact opts roundabout entering 0 t rfl
  have hfirst : (progressAt opts roundabout entering 0 t 1).map
      (fun q => (q.current, passCalls opts roundabout entering q)) = some (back, []) := by
    decide +kernel
  have hlast : (progressAt opts roundabout entering 0 t 2).map
      (fun p => ((runPass opts roundabout entering p).result,
        passCalls opts roundabout entering p)) = some (.ok back, []) := by
    decide +kernel
  have hlisted : (resolve opts roundabout entering.recording (0, []) t).state = (1, [['s']]) := by
    decide +kernel
  obtain ⟨q, hq, hcurrent⟩ := Option.map_eq_some_iff.mp hfirst
  obtain ⟨p, hp, hresult⟩ := Option.map_eq_some_iff.mp hlast
  obtain ⟨hcurrent, hnothing⟩ := Prod.mk.inj hcurrent
  obtain ⟨hresult, hnothing'⟩ := Prod.mk.inj hresult
  have hcycle := (hexact.1 2 p back hp hresult (by decide)).mpr
    ⟨1, q, by decide, hq, hcurrent, fun i hle hlt r hr => ?_⟩
  · obtain ⟨k, p, y, -, -, -, -, hvain⟩ := hexact.2 3 hcycle
    rw [(resolve_recording opts roundabout entering 0 t).2] at hlisted
    obtain ⟨hstate, hcalls⟩ := Prod.mk.inj hlisted
    rw [hstate] at hvain
    exact ⟨hcalls, hcycle, y, hvain⟩
  · obtain rfl | rfl : i = 1 ∨ i = 2 := by omega
    · obtain rfl := Option.some.inj (hq.symm.trans hr)
      exact hnothing
    · obtain rfl := Option.some.inj (hp.symm.trans hr)
      exact hnothing'

end Interpolation
