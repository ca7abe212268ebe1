import Interpolation.Proofs.PassCalls
import Interpolation.Proofs.Scan

/-!
# What a resolved text holds

A resolution that succeeds leaves no command token, and a recursive one leaves nothing that asks for
another pass. The texts without tokens are those that no resolution changes. Both rest on the same
fact: every search, that of a pass, of the commands, of the check for another pass or of a scan,
finds a token just where one stands.
-/

namespace Interpolation

section Searches

variable {t : Text} {p : Placeholder}

theorem find?_eq_none_iff (offset : Nat) :
    p.find? t = none ↔ ∀ o : Occurrence, o.StandsIn offset t → o.placeholder ≠ p := by
  constructor
  · rintro hf o ho rfl
    obtain ⟨f, hfound, -⟩ := Occurrence.find?_of_standsIn ho
    rw [hf] at hfound
    cases hfound
  · intro h
    cases hf : p.find? t with
    | none => rfl
    | some f => exact absurd rfl (h _ (Occurrence.standsIn_of_find? offset hf))

theorem hasResidual_eq_false_iff (offset : Nat) :
    hasResidual t = false ↔
      ∀ o : Occurrence, o.StandsIn offset t → o.placeholder.triggersRecursion = false := by
  simp only [hasResidual, List.any_eq_false, Bool.and_eq_true, not_and, Bool.not_eq_true,
    Placeholder.occursIn_eq_false]
  constructor
  · intro h o ho
    cases htrigger : o.placeholder.triggersRecursion with
    | false => rfl
    | true =>
      have hnone := h o.placeholder (Placeholder.mem_catalogue _) htrigger
      exact absurd rfl ((find?_eq_none_iff offset).mp hnone o ho)
  · intro h q _ htrigger
    refine (find?_eq_none_iff offset).mpr ?_
    rintro o ho rfl
    rw [h o ho] at htrigger
    cases htrigger

theorem hasResidual_of_none (h : ∀ p : Placeholder, p.find? t = none) : hasResidual t = false := by
  refine (hasResidual_eq_false_iff 0).mpr fun o ho => ?_
  exact absurd rfl ((find?_eq_none_iff 0).mp (h o.placeholder) o ho)

theorem scan_eq_nil_iff : scan t = [] ↔ ∀ p : Placeholder, p.find? t = none := by
  constructor
  · intro hs p
    refine (find?_eq_none_iff 0).mpr fun o ho => ?_
    obtain ⟨u, hu, -⟩ := exists_scan ho
    rw [hs] at hu
    cases hu
  · intro h
    refine List.eq_nil_iff_forall_not_mem.mpr fun o ho => ?_
    exact (find?_eq_none_iff 0).mp (h o.placeholder) o (mem_scan.mp ho).stands rfl

theorem substitute_of_none (ctx : Context) (h : ∀ p : Placeholder, p.find? t = none) :
    substitute ctx t = t :=
  passOver_of_none ctx _ fun p _ => h p

theorem triggersRecursion_eq_false :
    p.triggersRecursion = false ↔ p = .file ∨ p = .execPath ∨ p = .userHome := by
  cases p <;> decide

end Searches

section Resolutions

variable {σ : Type} {opts : Options} {ctx : Context} {ex : Executor σ} {s : σ} {t r : Text}

theorem free_of_resolve_ok (hr : (resolve opts ctx ex s t).result = .ok r) :
    Placeholder.command.find? r = none ∧ (opts.recursive && hasResidual r) = false := by
  obtain ⟨k, p, result, hp, hv⟩ := exists_stop opts ctx ex s t
  rw [(resolve_of_stop hp hv).1] at hr
  rw [hr] at hv
  cases ends_of_verdict hv with
  | done hrun hd => exact ⟨find?_of_runPass_ok hrun, hd⟩

variable (opts ctx ex s) in
theorem resolve_of_scan_nil (hs : scan r = []) :
    (resolve opts ctx ex s r).result = .ok r ∧ calls opts ctx ex s r = [] ∧
      (resolve opts ctx ex s r).state = s := by
  have hnone := scan_eq_nil_iff.mp hs
  have hsame := substitute_of_none ctx hnone
  have hresidual := hasResidual_of_none hnone
  have hf : Placeholder.command.find? (substitute ctx r) = none := by
    rw [hsame]
    exact hnone .command
  have hrun : runCommands ex opts.maxCommands opts.maxCommands { timeout := opts.timeout } s
      (substitute ctx r) = ⟨.ok r, opts.maxCommands, { timeout := opts.timeout }, s, []⟩ := by
    rw [runCommands_none hf, hsame]
  have hresult := congrArg CommandRun.result hrun
  obtain ⟨hr, hs', hc⟩ := resolve_of_start_done rfl hresult (by rw [hresidual, Bool.and_false])
  exact ⟨hr, hc.trans (commandCalls_none hf), by rw [hs', hrun]⟩

end Resolutions

/-- What a resolution guarantees. A text to which it comes has no command token anywhere, and if the
resolution is recursive, a scan reports no other tokens in it than those of `file`, `execPath` and
`userHome`. And a text in which a scan reports nothing is a fixed point under any limits: every
resolution of it comes to the text itself, calls nothing and keeps the state of the executor. -/
theorem resolve_guarantee {σ : Type} (opts : Options) (ctx : Context) (ex : Executor σ) (s : σ) :
    (∀ t r, (resolve opts ctx ex s t).result = .ok r →
      (∀ o : Occurrence, o.StandsIn 0 r → o.placeholder ≠ .command) ∧
        (opts.recursive = true → ∀ o ∈ scan r,
          o.placeholder = .file ∨ o.placeholder = .execPath ∨ o.placeholder = .userHome)) ∧
      ∀ r, scan r = [] →
        (resolve opts ctx ex s r).result = .ok r ∧ calls opts ctx ex s r = [] ∧
          (resolve opts ctx ex s r).state = s := by
  refine ⟨fun t r hr => ?_, fun r hs => resolve_of_scan_nil opts ctx ex s hs⟩
  obtain ⟨hfree, hd⟩ := free_of_resolve_ok hr
  refine ⟨(find?_eq_none_iff 0).mp hfree, fun hrec o ho => ?_⟩
  rw [hrec, Bool.true_and] at hd
  exact triggersRecursion_eq_false.mp
    ((hasResidual_eq_false_iff 0).mp hd o (mem_scan.mp ho).stands)

theorem resolve_leftFile :
    let opts : Options := { recursive := true, maxDepth := 0, maxCommands := 0 }
    let file := Placeholder.file.written none
    let ctx : Context := { environment := fun _ => some file }
    let t := Placeholder.env.written (some ['A'])
    (resolve opts ctx .none () t).result = .ok file ∧
      (∀ o ∈ scan file, o.placeholder = .file ∨ o.placeholder = .execPath ∨
        o.placeholder = .userHome) ∧
      (resolve opts ctx .none () ['$', '{', 'x', '}']).result = .ok ['$', '{', 'x', '}'] := by
  intro opts file ctx t
  have hsubstitute : substitute ctx t = file := by
    rw [substitute_eq_passOver]
    decide +kernel
  have hrun : (runCommands .none opts.maxCommands opts.maxCommands { timeout := opts.timeout } ()
      (substitute ctx t)).result = .ok file := by
    rw [hsubstitute, runCommands_none (by decide)]
  have hr := (resolve_of_start_done rfl hrun (by decide)).1
  obtain ⟨hok, hfixed⟩ := resolve_guarantee opts ctx .none ()
  exact ⟨hr, (hok t file hr).2 rfl, (hfixed _ (by decide +kernel)).1⟩

end Interpolation
