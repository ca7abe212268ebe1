import Interpolation.Proofs.PassCalls
import Mathlib.Dynamics.PeriodicPts.Defs

/-!
# The texts that a resolution has seen

A pass that calls no command is a substitution and nothing more. The texts seen are those from which
the passes have started since the last call, and a text that comes back after such passes comes back
again and again: from there on the texts of the substitutions repeat.
-/

namespace Interpolation

/-- The text after some substitutions. -/
def expansion (ctx : Context) (t : Text) (i : Nat) : Text :=
  (substitute ctx)^[i] t

theorem expansion_succ (ctx : Context) (t : Text) (i : Nat) :
    expansion ctx t (i + 1) = substitute ctx (expansion ctx t i) :=
  Function.iterate_succ_apply' _ _ _

/-- Texts that come back go round: what holds on one round holds from then on. -/
theorem expansion_of_repeat {ctx : Context} {t : Text} {a b : Nat} (hab : a < b)
    (hrepeat : expansion ctx t b = expansion ctx t a) {P : Text → Prop}
    (hround : ∀ m, a ≤ m → m < b → P (expansion ctx t m)) {m : Nat} (hm : a ≤ m) :
    P (expansion ctx t m) := by
  have hperiodic : Function.IsPeriodicPt (substitute ctx) (b - a) (expansion ctx t a) := by
    rw [Function.IsPeriodicPt, Function.IsFixedPt, expansion, ← Function.iterate_add_apply,
      Nat.sub_add_cancel (Nat.le_of_lt hab)]
    exact hrepeat
  have hmod := hperiodic.iterate_mod_apply (m - a)
  rw [expansion, ← Function.iterate_add_apply, ← Function.iterate_add_apply,
    Nat.sub_add_cancel hm] at hmod
  have hlt : (m - a) % (b - a) < b - a := Nat.mod_lt _ (Nat.sub_pos_of_lt hab)
  rw [expansion, ← hmod]
  exact hround _ (Nat.le_add_left _ _) (by omega)

variable {σ : Type} {opts : Options} {ctx : Context} {ex : Executor σ} {p q : Progress σ} {s : σ}
  {t u : Text} {k : Nat}

variable (opts ex) in
theorem runPass_of_none
    (hf : Placeholder.command.find? (substitute ctx p.current) = none) :
    (runPass opts ctx ex p).result = .ok (substitute ctx p.current) ∧
      (runPass opts ctx ex p).state = p.state ∧ passCalls opts ctx ex p = [] := by
  rw [runPass_eq, runCommands_none hf]
  exact ⟨rfl, rfl, commandCalls_none hf⟩

theorem find?_of_passCalls_nil (hr : (runPass opts ctx ex p).result = .ok u)
    (hc : passCalls opts ctx ex p = []) :
    Placeholder.command.find? (substitute ctx p.current) = none ∧
      u = substitute ctx p.current := by
  have hf : Placeholder.command.find? (substitute ctx p.current) = none := by
    rw [runPass_eq, CommandRun.after_result] at hr
    exact find?_of_commandCalls_nil hr hc
  rw [(runPass_of_none opts ex hf).1] at hr
  exact ⟨hf, (Except.ok.inj hr).symm⟩

theorem mem_seenAfter_iff (hr : (runPass opts ctx ex p).result = .ok u) {v : Text} :
    v ∈ p.seenAfter (runPass opts ctx ex p) ↔
      passCalls opts ctx ex p = [] ∧ (v = p.current ∨ v ∈ p.seen) := by
  by_cases hc : passCalls opts ctx ex p = []
  · rw [Progress.seenAfter, if_pos ((left_eq_iff hr).mpr hc), List.mem_cons]
    exact ⟨fun h => ⟨hc, h⟩, And.right⟩
  · rw [Progress.seenAfter, if_neg fun h => hc ((left_eq_iff hr).mp h)]
    exact ⟨fun h => absurd h List.not_mem_nil, fun h => absurd h.1 hc⟩

/-- The passes that follow at least `j` and fewer than `k` others call no command. -/
def CallsNothing (opts : Options) (ctx : Context) (ex : Executor σ) (s : σ) (t : Text)
    (j k : Nat) : Prop :=
  ∀ i, j ≤ i → i < k → ∀ p, progressAt opts ctx ex s t i = some p → passCalls opts ctx ex p = []

theorem callsNothing_self : CallsNothing opts ctx ex s t k k :=
  fun _ hle hlt => absurd hlt (Nat.not_lt.mpr hle)

theorem callsNothing_succ {j : Nat} (hj : j ≤ k) (hp : progressAt opts ctx ex s t k = some p) :
    CallsNothing opts ctx ex s t j (k + 1) ↔
      CallsNothing opts ctx ex s t j k ∧ passCalls opts ctx ex p = [] := by
  constructor
  · intro h
    exact ⟨fun i hle hlt => h i hle (Nat.lt_succ_of_lt hlt), h k hj (Nat.lt_succ_self k) p hp⟩
  · rintro ⟨hbefore, hlast⟩ i hle hlt q hq
    rcases Nat.lt_succ_iff_lt_or_eq.mp hlt with hik | rfl
    · exact hbefore i hle hik q hq
    · rw [hp] at hq
      obtain rfl := Option.some.inj hq
      exact hlast

variable (opts ctx ex s t) in
/-- A pass that follows `j` others starts from the text, and none from it up to the pass that
follows `k` others calls a command. -/
def SeenSince (v : Text) (k : Nat) : Prop :=
  ∃ j q, j < k ∧ progressAt opts ctx ex s t j = some q ∧ q.current = v ∧
    CallsNothing opts ctx ex s t j k

theorem seenSince_succ (hp : progressAt opts ctx ex s t k = some p) {v : Text} :
    SeenSince opts ctx ex s t v (k + 1) ↔
      passCalls opts ctx ex p = [] ∧ (v = p.current ∨ SeenSince opts ctx ex s t v k) := by
  constructor
  · rintro ⟨j, q, hlt, hq, hv, hnothing⟩
    obtain ⟨hbefore, hlast⟩ := (callsNothing_succ (Nat.le_of_lt_succ hlt) hp).mp hnothing
    refine ⟨hlast, ?_⟩
    rcases Nat.lt_succ_iff_lt_or_eq.mp hlt with hjk | rfl
    · exact Or.inr ⟨j, q, hjk, hq, hv, hbefore⟩
    · rw [hp] at hq
      obtain rfl := Option.some.inj hq
      exact Or.inl hv.symm
  · rintro ⟨hlast, rfl | ⟨j, q, hlt, hq, hv, hbefore⟩⟩
    · exact ⟨k, p, Nat.lt_succ_self k, hp, rfl,
        (callsNothing_succ (Nat.le_refl k) hp).mpr ⟨callsNothing_self, hlast⟩⟩
    · exact ⟨j, q, Nat.lt_succ_of_lt hlt, hq, hv,
        (callsNothing_succ (Nat.le_of_lt hlt) hp).mpr ⟨hbefore, hlast⟩⟩

/-- The texts seen before a pass are those from which the passes have started since the last
call. -/
theorem mem_seen (hp : progressAt opts ctx ex s t k = some p) {v : Text} :
    v ∈ p.seen ↔ SeenSince opts ctx ex s t v k := by
  induction k generalizing p with
  | zero =>
    obtain rfl := Option.some.inj hp
    exact ⟨fun h => absurd h List.not_mem_nil, fun ⟨_, _, hlt, _⟩ => absurd hlt (Nat.not_lt_zero _)⟩
  | succ k ih =>
    obtain ⟨p', hp', hv⟩ := progressAt_succ.mp hp
    have hc := continues_of_verdict hv
    rw [hc.seen, mem_seenAfter_iff hc.result, seenSince_succ hp', ih hp']

theorem mem_seenAfter (hp : progressAt opts ctx ex s t k = some p)
    (hr : (runPass opts ctx ex p).result = .ok u) {v : Text} :
    v ∈ p.seenAfter (runPass opts ctx ex p) ↔ SeenSince opts ctx ex s t v (k + 1) := by
  rw [mem_seenAfter_iff hr, seenSince_succ hp, mem_seen hp]

end Interpolation
