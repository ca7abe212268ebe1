import Interpolation.Proofs.PassCalls
import Interpolation.Proofs.PassEvents
import Mathlib.Logic.Relation
import Mathlib.Order.WellFounded

/-!
# The command budget

A command run on a budget is seen as a machine that invokes the leftmost command token as long as
the budget allows it. The text that a call leaves may be anything, so the budget alone makes the
machine stop, and the budget alone says how many calls have been made.
-/

namespace Interpolation

open Relation

variable {σ : Type}

namespace Budget

def spend (b : Budget) : Budget :=
  { b with used := b.used + 1 }

def leaving (b : Budget) (left : Nat) : Budget :=
  { b with used := b.used + (b.remaining - left) }

theorem leaving_remaining (b : Budget) : b.leaving b.remaining = b := by
  simp [leaving]

theorem remaining_spend (b : Budget) : b.spend.remaining = b.remaining - 1 := by
  simp only [remaining, spend]
  omega

theorem leaving_spend {b : Budget} {left : Nat} (hb : b.used < b.limit)
    (hleft : left ≤ b.spend.remaining) : b.spend.leaving left = b.leaving left := by
  simp only [remaining, spend] at hleft
  simp only [leaving, remaining, spend, Budget.mk.injEq, true_and]
  omega

end Budget

/-- What a command run on a budget has at any moment. -/
structure Moment (σ : Type) where
  budget : Budget
  state : σ
  text : Text

namespace Moment

def invoke (ex : Executor σ) (m : Moment σ) (f : Placeholder.Found) : Moment σ :=
  ⟨m.budget.spend, (ex.call m.state f.id).2, f.splice (ex.call m.state f.id).1⟩

/-- One step: the budget is charged, and the leftmost command token is invoked. -/
inductive Step (ex : Executor σ) (m : Moment σ) : Moment σ → Prop where
  | invoke {f : Placeholder.Found} (hf : Placeholder.command.find? m.text = some f)
      (hb : m.budget.used < m.budget.limit) : Step ex m (m.invoke ex f)

def Stuck (ex : Executor σ) (m : Moment σ) : Prop :=
  ∀ next, ¬ m.Step ex next

def outcome (m : Moment σ) : Except ResolveError Text × Budget × σ :=
  (if Placeholder.command.occursIn m.text then .error (.commandLimitExceeded m.budget.limit)
    else .ok m.text, m.budget, m.state)

theorem stuck_of_none {ex : Executor σ} {m : Moment σ}
    (hf : Placeholder.command.find? m.text = none) : m.Stuck ex := by
  rintro _ ⟨hf', -⟩
  rw [hf] at hf'
  cases hf'

theorem stuck_of_spent {ex : Executor σ} {m : Moment σ} (hb : m.budget.limit ≤ m.budget.used) :
    m.Stuck ex := by
  rintro _ ⟨-, hb'⟩
  exact absurd hb' (Nat.not_lt.mpr hb)

theorem outcome_of_none {m : Moment σ} (hf : Placeholder.command.find? m.text = none) :
    m.outcome = (.ok m.text, m.budget, m.state) := by
  simp [outcome, Placeholder.occursIn, hf]

theorem outcome_of_some {m : Moment σ} {f : Placeholder.Found}
    (hf : Placeholder.command.find? m.text = some f) :
    m.outcome = (.error (.commandLimitExceeded m.budget.limit), m.budget, m.state) := by
  simp [outcome, Placeholder.occursIn, hf]

theorem remaining_of_step {ex : Executor σ} {m next : Moment σ} (hs : m.Step ex next) :
    next.budget.remaining < m.budget.remaining := by
  obtain ⟨hf, hb⟩ := hs
  simp only [Budget.remaining, Budget.spend, invoke]
  omega

/-- The machine never goes on for ever, whatever the executor answers. -/
theorem step_wellFounded (ex : Executor σ) : WellFounded fun next m : Moment σ => m.Step ex next :=
  Subrelation.wf remaining_of_step
    (InvImage.wf (fun m : Moment σ => m.budget.remaining) Nat.lt_wfRel.wf)

theorem outcome_of_stuck {ex : Executor σ} {m : Moment σ} (hm : m.Stuck ex) :
    (Placeholder.command.find? m.text = none ∧ m.outcome = (.ok m.text, m.budget, m.state)) ∨
      (m.budget.limit ≤ m.budget.used ∧
        m.outcome = (.error (.commandLimitExceeded m.budget.limit), m.budget, m.state)) := by
  cases hf : Placeholder.command.find? m.text with
  | none => exact Or.inl ⟨rfl, outcome_of_none hf⟩
  | some f =>
    refine Or.inr ⟨Nat.le_of_not_lt fun hb => ?_, outcome_of_some hf⟩
    exact hm _ (.invoke hf hb)

end Moment

def CommandRun.charged (b : Budget) (run : CommandRun σ) : Except ResolveError Text × Budget × σ :=
  (run.result, b.leaving run.left, run.state)

theorem resolveCommands_eq (ex : Executor σ) (b : Budget) (s : σ) (t : Text) :
    resolveCommands ex b s t = (runCommands ex b.limit b.remaining {} s t).charged b := rfl

theorem charged_remaining (b : Budget) (result : Except ResolveError Text) (clock : Clock) (s : σ) :
    CommandRun.charged b ⟨result, b.remaining, clock, s, []⟩ = (result, b, s) := by
  rw [CommandRun.charged, Budget.leaving_remaining]

/-- Without a timeout a run on a budget is the machine at work. -/
theorem runCommands_steps (ex : Executor σ) (left : Nat) (clock : Clock) (s : σ) (t : Text)
    (hclock : clock.timeout = none) :
    ∀ b : Budget, b.remaining = left →
      ∃ last, ReflTransGen (Moment.Step ex) ⟨b, s, t⟩ last ∧ last.Stuck ex ∧
        (runCommands ex b.limit left clock s t).charged b = last.outcome := by
  induction left, clock, s, t, hclock using untimed_induction ex with
  | none left clock s t hclock hf =>
    rintro b rfl
    refine ⟨⟨b, s, t⟩, .refl, Moment.stuck_of_none hf, ?_⟩
    rw [runCommands_none hf, Moment.outcome_of_none hf, charged_remaining]
  | spent clock s t hclock f hf =>
    intro b hleft
    have hspent : b.limit ≤ b.used := Nat.le_of_sub_eq_zero hleft
    refine ⟨⟨b, s, t⟩, .refl, Moment.stuck_of_spent hspent, ?_⟩
    rw [runCommands_zero hf, Moment.outcome_of_some hf, ← hleft, charged_remaining]
  | call left clock s t hclock f hf hw ih =>
    intro b hleft
    have hb : b.used < b.limit := by
      simp only [Budget.remaining] at hleft
      omega
    have hspend : b.spend.remaining = left := by
      rw [Budget.remaining_spend, hleft]
      rfl
    obtain ⟨last, hsteps, hstuck, hlast⟩ := ih b.spend hspend
    have hle := Nat.le_trans (Nat.le_add_left _ _) (length_commandCalls_le ex b.limit left
      { clock with elapsed := clock.elapsed + ex.delay s f.id } (ex.call s f.id).2
      (f.splice (ex.call s f.id).1))
    refine ⟨last, .head (.invoke hf hb) hsteps, hstuck, ?_⟩
    rw [← hlast, runCommands_call hf hw, CommandRun.charged, CommandRun.charged,
      CommandRun.after_left, Budget.leaving_spend hb (by rw [hspend]; exact hle)]
    rfl

theorem resolveCommands_steps (ex : Executor σ) (b : Budget) (s : σ) (t : Text) :
    ∃ last, ReflTransGen (Moment.Step ex) ⟨b, s, t⟩ last ∧ last.Stuck ex ∧
      resolveCommands ex b s t = last.outcome :=
  runCommands_steps ex b.remaining {} s t rfl b rfl

/-- Nothing is used beyond the limit, and what is used are the calls that are listed. -/
structure Budget.Accounted (limit : Nat) (b : Budget) (s : σ × List Text) : Prop where
  limit_eq : b.limit = limit
  used_le : b.used ≤ limit
  used_eq : b.used = s.2.length

section Accounts

variable {ex : Executor σ} {limit : Nat} {b : Budget} {s : σ × List Text} {t : Text}

theorem accounted_of_step {m next : Moment (σ × List Text)} (hs : m.Step ex.recording next)
    (hm : m.budget.Accounted limit m.state) : next.budget.Accounted limit next.state := by
  obtain ⟨hf, hb⟩ := hs
  refine ⟨hm.limit_eq, ?_, ?_⟩
  · rw [← hm.limit_eq]
    exact hb
  · change m.budget.used + 1 = (m.state.2 ++ [_]).length
    rw [hm.used_eq, List.length_append, List.length_singleton]

theorem accounted_of_steps {m last : Moment (σ × List Text)}
    (hs : ReflTransGen (Moment.Step ex.recording) m last)
    (hm : m.budget.Accounted limit m.state) : last.budget.Accounted limit last.state := by
  induction hs with
  | refl => exact hm
  | tail _ hs ih => exact accounted_of_step hs ih

/-- The account of one call: what holds at every moment of it and what it comes to. -/
structure CallAccount (ex : Executor σ) (limit : Nat) (b : Budget) (s : σ × List Text)
    (t : Text) : Prop where
  same : resolveCommands ex b s.1 t =
    ((resolveCommands ex.recording b s t).1, (resolveCommands ex.recording b s t).2.1,
      (resolveCommands ex.recording b s t).2.2.1)
  moments : ∀ m, ReflTransGen (Moment.Step ex.recording) ⟨b, s, t⟩ m →
    m.budget.Accounted limit m.state
  ends : ∃ last, ReflTransGen (Moment.Step ex.recording) ⟨b, s, t⟩ last ∧
    last.Stuck ex.recording ∧ resolveCommands ex.recording b s t = last.outcome
  resolved : ∀ u b' s', resolveCommands ex.recording b s t = (.ok u, b', s') →
    Placeholder.command.occursIn u = false
  exceeded : ∀ e b' s', resolveCommands ex.recording b s t = (.error e, b', s') →
    e = .commandLimitExceeded limit ∧ b'.used = limit ∧
      s'.2.length = s.2.length + (limit - b.used)
  spent : b.used = limit → Placeholder.command.occursIn t = true →
    resolveCommands ex.recording b s t = (.error (.commandLimitExceeded limit), b, s)
  unchanged : Placeholder.command.occursIn t = false →
    resolveCommands ex.recording b s t = (.ok t, b, s)

theorem resolveCommands_recording :
    resolveCommands ex b s.1 t =
      ((resolveCommands ex.recording b s t).1, (resolveCommands ex.recording b s t).2.1,
        (resolveCommands ex.recording b s t).2.2.1) := by
  rw [resolveCommands_eq, resolveCommands_eq, runCommands_map ex.recording_mapsTo]
  rfl

theorem resolveCommands_of_none (hf : Placeholder.command.find? t = none) :
    resolveCommands ex.recording b s t = (.ok t, b, s) := by
  rw [resolveCommands_eq, runCommands_none hf, charged_remaining]

theorem resolveCommands_of_spent {f : Placeholder.Found} (hb : b.used = b.limit)
    (hf : Placeholder.command.find? t = some f) :
    resolveCommands ex.recording b s t = (.error (.commandLimitExceeded b.limit), b, s) := by
  have hzero : b.remaining = 0 := Nat.sub_eq_zero_of_le (Nat.le_of_eq hb.symm)
  rw [resolveCommands_eq, hzero, runCommands_zero hf, ← hzero, charged_remaining]

theorem occursIn_of_resolved {u : Text} {b' : Budget} {s' : σ × List Text}
    (hr : resolveCommands ex.recording b s t = (.ok u, b', s')) :
    Placeholder.command.occursIn u = false := by
  rw [resolveCommands_eq] at hr
  exact Placeholder.occursIn_eq_false.mpr (find?_of_runCommands_ok (congrArg Prod.fst hr))

theorem spent_of_exceeded (hb : b.Accounted limit s) {e : ResolveError} {b' : Budget}
    {s' : σ × List Text} (hr : resolveCommands ex.recording b s t = (.error e, b', s')) :
    e = .commandLimitExceeded limit ∧ b'.used = limit ∧
      s'.2.length = s.2.length + (limit - b.used) := by
  obtain ⟨last, hsteps, hstuck, hout⟩ := resolveCommands_steps ex.recording b s t
  have hend := accounted_of_steps hsteps hb
  rcases Moment.outcome_of_stuck hstuck with ⟨-, ho⟩ | ⟨hspent, ho⟩
  · rw [hout, ho] at hr
    cases hr
  · rw [hout, ho, Prod.mk.injEq, Prod.mk.injEq] at hr
    obtain ⟨he, rfl, rfl⟩ := hr
    rw [hend.limit_eq] at he hspent
    have hused : last.budget.used = limit := Nat.le_antisymm hend.used_le hspent
    refine ⟨(Except.error.inj he).symm, hused, ?_⟩
    rw [← hend.used_eq, hused, ← hb.used_eq]
    have := hb.used_le
    omega

variable (ex) in
/-- Every call on a budget that has been kept keeps it, ends, and has its account. -/
theorem callAccount (hb : b.Accounted limit s) (t : Text) : CallAccount ex limit b s t where
  same := resolveCommands_recording
  moments _ hm := accounted_of_steps hm hb
  ends := resolveCommands_steps ex.recording b s t
  resolved _ _ _ hr := occursIn_of_resolved hr
  exceeded _ _ _ hr := spent_of_exceeded hb hr
  spent hspent ht := by
    obtain ⟨f, hf⟩ := Option.isSome_iff_exists.mp ht
    rw [resolveCommands_of_spent (by rw [hspent, hb.limit_eq]) hf, hb.limit_eq]
  unchanged ht := resolveCommands_of_none (Placeholder.occursIn_eq_false.mp ht)

/-- Calls on one budget, one after the other, whatever they come to. -/
def resolveEach (ex : Executor σ) (b : Budget) (s : σ) : List Text → Budget × σ
  | [] => (b, s)
  | t :: texts =>
    let (_, b, s) := resolveCommands ex b s t
    resolveEach ex b s texts

theorem accounted_resolveCommands (hb : b.Accounted limit s) (t : Text) :
    (resolveCommands ex.recording b s t).2.1.Accounted limit
      (resolveCommands ex.recording b s t).2.2 := by
  obtain ⟨last, hsteps, -, hlast⟩ := (callAccount ex hb t).ends
  rw [hlast]
  exact accounted_of_steps hsteps hb

theorem accounted_resolveEach (hb : b.Accounted limit s) (texts : List Text) :
    (resolveEach ex.recording b s texts).1.Accounted limit
      (resolveEach ex.recording b s texts).2 := by
  induction texts generalizing b s with
  | nil => exact hb
  | cons t texts ih => exact ih (accounted_resolveCommands hb t)

end Accounts

theorem exists_passes (opts : Options) (ctx : Context) (ex : Executor σ) (s : σ) (t : Text) :
    ∃ n, 1 ≤ n ∧ n ≤ opts.maxDepth + 1 ∧ (opts.recursive = false → n = 1) ∧
      (∀ k, (∃ p, progressAt opts ctx ex s t k = some p) ↔ k < n) ∧
      (ex.TellsNoPass → passStarts (resolve opts ctx ex s t).events = n) := by
  obtain ⟨n, p, hle, hsingle, hp, hv, hall⟩ := exists_last_pass opts ctx ex s t
  exact ⟨n + 1, Nat.le_add_left 1 n, Nat.succ_le_succ hle,
    fun hrec => congrArg (· + 1) (hsingle hrec), fun k => (hall k).trans Nat.lt_succ_iff.symm,
    fun hn => passStarts_resolve hn hp hv⟩

/-- The command budget as a state machine. No run of the machine goes on for ever, whatever the
executor answers. After any calls on one budget the next call has its account: at every moment of it
no more than the limit is used and what is used is what has been called, and it comes to a text
without command tokens or to an error when all of the limit is used. So a resolution calls at most
as many commands as its options allow over all its passes, and it makes at most one pass more than
its depth, and a single one if it is not recursive. -/
theorem command_budget_account (ex : Executor σ) (s : σ) :
    (WellFounded fun next m : Moment (σ × List Text) => m.Step ex.recording next) ∧
      (∀ limit texts t,
        let (b, listed) := resolveEach ex.recording ⟨limit, 0⟩ (s, []) texts
        CallAccount ex limit b listed t) ∧
      ∀ opts ctx t,
        (resolve opts ctx ex.recording (s, []) t).result = (resolve opts ctx ex s t).result ∧
          (resolve opts ctx ex.recording (s, []) t).state =
            ((resolve opts ctx ex s t).state, calls opts ctx ex s t) ∧
          (calls opts ctx ex s t).length ≤ opts.maxCommands ∧
          ∃ n, 1 ≤ n ∧ n ≤ opts.maxDepth + 1 ∧ (opts.recursive = false → n = 1) ∧
            (∀ k, (∃ p, progressAt opts ctx ex s t k = some p) ↔ k < n) ∧
            (ex.TellsNoPass → passStarts (resolve opts ctx ex s t).events = n) := by
  refine ⟨Moment.step_wellFounded ex.recording, ?_, ?_⟩
  · intro limit texts t
    have hstart : Budget.Accounted limit ⟨limit, 0⟩ (s, []) := ⟨rfl, Nat.zero_le limit, rfl⟩
    exact callAccount ex (accounted_resolveEach hstart texts) t
  · intro opts ctx t
    obtain ⟨hresult, hstate⟩ := resolve_recording opts ctx ex s t
    exact ⟨hresult, hstate, length_calls_le opts ctx ex s t, exists_passes opts ctx ex s t⟩

end Interpolation
