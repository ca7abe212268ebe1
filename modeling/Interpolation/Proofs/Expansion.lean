import Interpolation.Proofs.Pass
import Interpolation.Proofs.SeenTexts
import Mathlib.Order.Bounds.Defs

/-!
# Recursive resolution without commands

As long as no command token comes up, the passes of a resolution are the substitutions of the
template, one after the other. The first of three things ends them: a text that asks for no other
pass, a text that has come up before, or the depth. A text that has come up before goes round from
then on, so after it no pass could come to an end any more.
-/

namespace Interpolation

/-- The texts after at least one and at most `n` substitutions hold no command token. -/
def CommandFree (ctx : Context) (t : Text) (n : Nat) : Prop :=
  ∀ i, 1 ≤ i → i ≤ n → Placeholder.command.occursIn (expansion ctx t i) = false

/-- The text after `k` substitutions has come up before. -/
def Repeats (ctx : Context) (t : Text) (k : Nat) : Prop :=
  ∃ j < k, expansion ctx t j = expansion ctx t k

theorem hasResidual_of_repeats {ctx : Context} {t : Text} {k : Nat} (hk : Repeats ctx t k)
    (hasks : ∀ i, 1 ≤ i → i ≤ k → hasResidual (expansion ctx t i) = true) {i : Nat} (hi : 1 ≤ i) :
    hasResidual (expansion ctx t i) = true := by
  obtain ⟨j, hjk, hrepeat⟩ := hk
  rcases Nat.lt_or_ge i j with hij | hji
  · exact hasks i hi (by omega)
  · refine expansion_of_repeat hjk hrepeat.symm (P := fun u => hasResidual u = true) ?_ hji
    intro m hjm hmk
    rcases Nat.eq_zero_or_pos m with rfl | hpos
    · obtain rfl := Nat.le_zero.mp hjm
      rw [hrepeat]
      exact hasks k hjk (Nat.le_refl k)
    · exact hasks m hpos (Nat.le_of_lt hmk)

section Passes

variable {σ : Type} {opts : Options} {ctx : Context} {ex : Executor σ} {s : σ} {t : Text} {k : Nat}
  {p : Progress σ}

theorem find?_of_commandFree (hfree : CommandFree ctx t (opts.maxDepth + 1))
    (hk : k ≤ opts.maxDepth) : Placeholder.command.find? (expansion ctx t (k + 1)) = none :=
  Placeholder.occursIn_eq_false.mp (hfree (k + 1) (Nat.le_add_left 1 k) (Nat.succ_le_succ hk))

theorem progressAt_expansion (hfree : CommandFree ctx t (opts.maxDepth + 1))
    (hp : progressAt opts ctx ex s t k = some p) :
    p.current = expansion ctx t k ∧ p.state = s := by
  induction k generalizing p with
  | zero =>
    obtain rfl := Option.some.inj hp
    exact ⟨rfl, rfl⟩
  | succ k ih =>
    have hk := le_maxDepth_of_progressAt hp
    obtain ⟨p', hp', hv⟩ := progressAt_succ.mp hp
    obtain ⟨hcurrent, hstate⟩ := ih hp'
    have hc := continues_of_verdict hv
    have hf := find?_of_commandFree hfree (Nat.le_of_succ_le hk)
    rw [expansion_succ, ← hcurrent] at hf
    obtain ⟨hresult, hsame, -⟩ := runPass_of_none opts ex hf
    have hnext := hc.result
    rw [hresult] at hnext
    refine ⟨?_, by rw [hc.state, hsame, hstate]⟩
    rw [← Except.ok.inj hnext, hcurrent, expansion_succ]

theorem runPass_expansion (hfree : CommandFree ctx t (opts.maxDepth + 1))
    (hp : progressAt opts ctx ex s t k = some p) :
    (runPass opts ctx ex p).result = .ok (expansion ctx t (k + 1)) ∧
      (runPass opts ctx ex p).state = s ∧ passCalls opts ctx ex p = [] := by
  obtain ⟨hcurrent, hstate⟩ := progressAt_expansion hfree hp
  have hf := find?_of_commandFree hfree (le_maxDepth_of_progressAt hp)
  rw [expansion_succ, ← hcurrent] at hf
  rw [expansion_succ, ← hcurrent, ← hstate]
  exact runPass_of_none opts ex hf

theorem mem_seenAfter_expansion (hfree : CommandFree ctx t (opts.maxDepth + 1))
    (hp : progressAt opts ctx ex s t k = some p) :
    expansion ctx t (k + 1) ∈ p.seenAfter (runPass opts ctx ex p) ↔ Repeats ctx t (k + 1) := by
  rw [mem_seenAfter hp (runPass_expansion hfree hp).1]
  constructor
  · rintro ⟨j, q, hlt, hq, hcurrent, -⟩
    exact ⟨j, hlt, by rw [← (progressAt_expansion hfree hq).1, hcurrent]⟩
  · rintro ⟨j, hlt, hrepeat⟩
    obtain ⟨q, hq⟩ := progressAt_of_le hp (Nat.le_of_lt_succ hlt)
    refine ⟨j, q, hlt, hq, by rw [(progressAt_expansion hfree hq).1, hrepeat], ?_⟩
    exact fun i _ _ r hr => (runPass_expansion hfree hr).2.2

theorem asks_of_progressAt (hfree : CommandFree ctx t (opts.maxDepth + 1))
    (hp : progressAt opts ctx ex s t (k + 1) = some p) :
    hasResidual (expansion ctx t (k + 1)) = true ∧ ¬ Repeats ctx t (k + 1) := by
  obtain ⟨p', hp', hv⟩ := progressAt_succ.mp hp
  have hc := continues_of_verdict hv
  have hasks := hc.asks
  have hfresh := hc.fresh
  rw [(progressAt_expansion hfree hp).1, Bool.and_eq_true] at hasks
  rw [(progressAt_expansion hfree hp).1, mem_seenAfter_expansion hfree hp'] at hfresh
  exact ⟨hasks.2, hfresh⟩

/-- Where a resolution ends, and why. -/
inductive ExpansionEnds (opts : Options) (ctx : Context) (t : Text) (n : Nat) :
    Except ResolveError Text → Prop where
  | done (hd : hasResidual (expansion ctx t n) = false) :
    ExpansionEnds opts ctx t n (.ok (expansion ctx t n))
  | repeated (hd : hasResidual (expansion ctx t n) = true) (hs : Repeats ctx t n) :
    ExpansionEnds opts ctx t n (.error (.expansionCycle n))
  | tooDeep (hd : hasResidual (expansion ctx t n) = true) (hs : ¬ Repeats ctx t n)
      (hn : n = opts.maxDepth + 1) :
    ExpansionEnds opts ctx t n (.error (.maxDepthExceeded opts.maxDepth))

variable (ex s) in
theorem exists_expansionEnds (hrec : opts.recursive = true)
    (hfree : CommandFree ctx t (opts.maxDepth + 1)) :
    ∃ n, 1 ≤ n ∧ n ≤ opts.maxDepth + 1 ∧
      (∀ i, 1 ≤ i → i < n → hasResidual (expansion ctx t i) = true ∧ ¬ Repeats ctx t i) ∧
      ExpansionEnds opts ctx t n (resolve opts ctx ex s t).result ∧
      (resolve opts ctx ex s t).state = s := by
  obtain ⟨n, p, result, hp, hv⟩ := exists_stop opts ctx ex s t
  obtain ⟨hresult, hstate⟩ := resolve_of_stop hp hv
  obtain ⟨hrun, hsame, -⟩ := runPass_expansion hfree hp
  have hle := le_maxDepth_of_progressAt hp
  refine ⟨n + 1, Nat.le_add_left 1 n, Nat.succ_le_succ hle, ?_, ?_, hstate.trans hsame⟩
  · rintro (_ | i) hi hlt
    · exact absurd hi (Nat.not_succ_le_zero 0)
    · obtain ⟨q, hq⟩ := progressAt_of_le hp (Nat.le_of_lt_succ hlt)
      exact asks_of_progressAt hfree hq
  · rw [hresult]
    have hpass := pass_of_progressAt hp
    have hends := ends_of_verdict hv
    cases hends with
    | failed hr =>
      rw [hrun] at hr
      cases hr
    | done hr hd =>
      rw [hrun] at hr
      obtain rfl := Except.ok.inj hr
      rw [hrec, Bool.true_and] at hd
      exact .done hd
    | repeated hr hd hs =>
      rw [hrun] at hr
      obtain rfl := Except.ok.inj hr
      rw [hrec, Bool.true_and] at hd
      rw [hpass]
      exact .repeated hd ((mem_seenAfter_expansion hfree hp).mp hs)
    | tooDeep hr hd hs hlt =>
      rw [hrun] at hr
      obtain rfl := Except.ok.inj hr
      rw [hrec, Bool.true_and] at hd
      exact .tooDeep hd (fun h => hs ((mem_seenAfter_expansion hfree hp).mpr h)) (by omega)

end Passes

section Outcome

variable {opts : Options} {ctx : Context} {t : Text} {n : Nat}
  {result : Except ResolveError Text}

private theorem done_of_ends (hends : ExpansionEnds opts ctx t n result) (hpos : 1 ≤ n)
    (hle : n ≤ opts.maxDepth + 1)
    (hbefore : ∀ i, 1 ≤ i → i < n → hasResidual (expansion ctx t i) = true ∧ ¬ Repeats ctx t i)
    {m : Nat} (hm : IsLeast {i | 1 ≤ i ∧ i ≤ opts.maxDepth + 1 ∧
      hasResidual (expansion ctx t i) = false} m) : result = .ok (expansion ctx t m) := by
  obtain ⟨⟨hmpos, hmle, hdone⟩, hleast⟩ := hm
  have hge : n ≤ m := by
    apply Nat.le_of_not_lt
    intro hlt
    rw [(hbefore m hmpos hlt).1] at hdone
    cases hdone
  cases hends with
  | done hd =>
    have hle' : m ≤ n := hleast ⟨hpos, hle, hd⟩
    rw [Nat.le_antisymm hle' hge]
  | repeated hd hs =>
    have hasks : ∀ i, 1 ≤ i → i ≤ n → hasResidual (expansion ctx t i) = true := by
      intro i hi hin
      rcases Nat.lt_or_eq_of_le hin with hlt | rfl
      · exact (hbefore i hi hlt).1
      · exact hd
    rw [hasResidual_of_repeats hs hasks hmpos] at hdone
    cases hdone
  | tooDeep hd hs hn =>
    obtain rfl : n = m := Nat.le_antisymm hge (hn ▸ hmle)
    rw [hd] at hdone
    cases hdone

private theorem cycle_of_ends (hends : ExpansionEnds opts ctx t n result) (hpos : 1 ≤ n)
    (hle : n ≤ opts.maxDepth + 1)
    (hbefore : ∀ i, 1 ≤ i → i < n → hasResidual (expansion ctx t i) = true ∧ ¬ Repeats ctx t i)
    (hasks : ∀ i, 1 ≤ i → i ≤ opts.maxDepth + 1 → hasResidual (expansion ctx t i) = true)
    {k : Nat} (hk : IsLeast {i | 1 ≤ i ∧ i ≤ opts.maxDepth + 1 ∧ Repeats ctx t i} k) :
    result = .error (.expansionCycle k) := by
  obtain ⟨⟨hkpos, hkle, hrepeats⟩, hleast⟩ := hk
  have hge : n ≤ k := Nat.le_of_not_lt fun hlt => (hbefore k hkpos hlt).2 hrepeats
  cases hends with
  | done hd =>
    rw [hasks n hpos hle] at hd
    cases hd
  | repeated hd hs =>
    have hle' : k ≤ n := hleast ⟨hpos, hle, hs⟩
    rw [Nat.le_antisymm hle' hge]
  | tooDeep hd hs hn =>
    obtain rfl : n = k := Nat.le_antisymm hge (hn ▸ hkle)
    exact absurd hrepeats hs

private theorem tooDeep_of_ends (hends : ExpansionEnds opts ctx t n result) (hpos : 1 ≤ n)
    (hle : n ≤ opts.maxDepth + 1)
    (hasks : ∀ i, 1 ≤ i → i ≤ opts.maxDepth + 1 → hasResidual (expansion ctx t i) = true)
    (hnone : ∀ i, 1 ≤ i → i ≤ opts.maxDepth + 1 → ¬ Repeats ctx t i) :
    result = .error (.maxDepthExceeded opts.maxDepth) := by
  cases hends with
  | done hd =>
    rw [hasks n hpos hle] at hd
    cases hd
  | repeated hd hs => exact absurd hs (hnone n hpos hle)
  | tooDeep hd hs hn => rfl

/-- A recursive resolution in which no command token comes up, in full. If one of the texts that
the depth allows asks for no other pass, it comes to the first such text. If none does and one of
them has come up before, it fails with the number of the first such text. Otherwise it is too deep.
No command is called and the executor keeps its state. -/
theorem resolve_expansion {σ : Type} (ex : Executor σ) (s : σ) (hrec : opts.recursive = true)
    (hfree : CommandFree ctx t (opts.maxDepth + 1)) :
    (∀ n, IsLeast {i | 1 ≤ i ∧ i ≤ opts.maxDepth + 1 ∧
          hasResidual (expansion ctx t i) = false} n →
        (resolve opts ctx ex s t).result = .ok (expansion ctx t n)) ∧
      ((∀ i, 1 ≤ i → i ≤ opts.maxDepth + 1 → hasResidual (expansion ctx t i) = true) →
        (∀ k, IsLeast {i | 1 ≤ i ∧ i ≤ opts.maxDepth + 1 ∧ Repeats ctx t i} k →
          (resolve opts ctx ex s t).result = .error (.expansionCycle k)) ∧
        ((∀ i, 1 ≤ i → i ≤ opts.maxDepth + 1 → ¬ Repeats ctx t i) →
          (resolve opts ctx ex s t).result = .error (.maxDepthExceeded opts.maxDepth))) ∧
      calls opts ctx ex s t = [] ∧ (resolve opts ctx ex s t).state = s := by
  obtain ⟨n, hpos, hle, hbefore, hends, hstate⟩ := exists_expansionEnds ex s hrec hfree
  obtain ⟨-, -, -, -, -, hlisted⟩ := exists_expansionEnds ex.recording (s, []) hrec hfree
  refine ⟨?_, ?_, congrArg Prod.snd hlisted, hstate⟩
  · intro m hm
    exact done_of_ends hends hpos hle hbefore hm
  · intro hasks
    exact ⟨fun k hk => cycle_of_ends hends hpos hle hbefore hasks hk,
      fun hnone => tooDeep_of_ends hends hpos hle hasks hnone⟩

def nestedVariables : Context where
  environment name :=
    if name = ['A'] then some (Placeholder.env.written (some ['B']))
    else if name = ['B'] then some ['b']
    else none

private theorem expansion_nested_one :
    expansion nestedVariables (Placeholder.env.written (some ['A'])) 1 =
      Placeholder.env.written (some ['B']) := by
  rw [expansion_succ, substitute_eq_flatMap]
  decide +kernel

private theorem expansion_nested_two :
    expansion nestedVariables (Placeholder.env.written (some ['A'])) 2 = ['b'] := by
  rw [expansion_succ, expansion_nested_one, substitute_eq_flatMap]
  decide +kernel

private theorem commandFree_nested :
    CommandFree nestedVariables (Placeholder.env.written (some ['A'])) 2 := by
  intro i hpos hle
  obtain rfl | rfl : i = 1 ∨ i = 2 := by omega
  · rw [expansion_nested_one]
    decide
  · rw [expansion_nested_two]
    decide

private theorem isLeast_nested :
    IsLeast {i | 1 ≤ i ∧ i ≤ 2 ∧ hasResidual (expansion nestedVariables
      (Placeholder.env.written (some ['A'])) i) = false} 2 := by
  refine ⟨⟨by decide, by decide, ?_⟩, ?_⟩
  · rw [expansion_nested_two]
    decide
  · rintro i ⟨hpos, -, hd⟩
    rcases Nat.lt_or_eq_of_le hpos with hlt | rfl
    · exact hlt
    · rw [expansion_nested_one] at hd
      exact absurd hd (by decide)

theorem resolve_nestedVariables :
    CommandFree nestedVariables (Placeholder.env.written (some ['A'])) 2 ∧
      (resolve { recursive := true, maxDepth := 1 } nestedVariables (Executor.none : Executor Unit)
        () (Placeholder.env.written (some ['A']))).result = .ok ['b'] := by
  have hrec : ({ recursive := true, maxDepth := 1 } : Options).recursive = true := rfl
  have houtcome := resolve_expansion (Executor.none : Executor Unit) () hrec commandFree_nested
  refine ⟨commandFree_nested, ?_⟩
  rw [houtcome.1 2 isLeast_nested, expansion_nested_two]

end Outcome

end Interpolation
