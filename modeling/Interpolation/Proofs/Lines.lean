import Interpolation.Proofs.Pass
import Interpolation.Proofs.PassCalls

/-!
# Lines

No token holds a line break, so a text can be cut at any of its line breaks: what is found, replaced
and called in front of it does not depend on what stands behind it, nor the other way round. What
values and answers bring in, line breaks and parts of tokens among it, stays on its side of the cut.
-/

namespace Interpolation

namespace Placeholder

variable {p : Placeholder}

theorem break_notMem_opening (p : Placeholder) : '\n' ∉ p.opening := by
  cases p <;> decide

theorem break_notMem_written {x : Option Text} (hx : p.Admits x) : '\n' ∉ p.written x := by
  have hp := p.break_notMem_opening
  cases x with
  | none => simp [written, hp]
  | some a =>
    have ha : '\n' ∉ a := hx.2.2
    simp [written, hp, ha]

theorem read?_line (p : Placeholder) (a b : Text) :
    p.read? (a ++ '\n' :: b) = (p.read? a).map fun r => (r.1, r.2 ++ '\n' :: b) := by
  refine Option.ext fun ⟨x, rest⟩ => ?_
  rw [Option.map_eq_some_iff]
  constructor
  · intro h
    obtain ⟨ht, hx⟩ := read?_eq_some.mp h
    rcases List.append_eq_append_iff.mp ht with ⟨w, hw, hbreak⟩ | ⟨w, rfl, rfl⟩
    · have hfree := break_notMem_written hx
      cases w with
      | nil =>
        obtain rfl : rest = '\n' :: b := hbreak.symm
        exact ⟨(x, []), read?_eq_some.mpr ⟨by simpa using hw.symm, hx⟩, rfl⟩
      | cons c w =>
        obtain ⟨rfl, -⟩ := List.cons.inj hbreak
        simp [hw] at hfree
    · exact ⟨(x, w), read?_eq_some.mpr ⟨rfl, hx⟩, rfl⟩
  · rintro ⟨⟨y, r⟩, hr, heq⟩
    obtain ⟨rfl, rfl⟩ := Prod.mk.inj heq
    obtain ⟨rfl, hx⟩ := read?_eq_some.mp hr
    exact read?_eq_some.mpr ⟨List.append_assoc _ _ _, hx⟩

def Found.ahead (f : Found) (b : Text) : Found :=
  { f with after := f.after ++ '\n' :: b }

def Found.behind (a : Text) (f : Found) : Found :=
  { f with before := a ++ '\n' :: f.before }

theorem find?_line (p : Placeholder) (a b : Text) :
    p.find? (a ++ '\n' :: b) =
      match p.find? a with
      | some f => some (f.ahead b)
      | none => (p.find? b).map (Found.behind a) := by
  induction a with
  | nil =>
    have hbreak : p.read? ('\n' :: b) = none := read?_line p [] b
    change p.find? ('\n' :: b) = (p.find? b).map (Found.behind [])
    rw [find?, hbreak]
    rfl
  | cons c a ih =>
    have hread := read?_line p (c :: a) b
    rw [List.cons_append] at hread ⊢
    rw [find?, find?, hread, ih]
    cases p.read? (c :: a) with
    | some r => rfl
    | none => cases p.find? a <;> cases p.find? b <;> rfl

theorem find?_line_some {a : Text} {f : Found} (h : p.find? a = some f) (b : Text) :
    p.find? (a ++ '\n' :: b) = some (f.ahead b) := by
  rw [find?_line, h]

theorem find?_behind_none {a b : Text} (ha : p.find? a = none) (hb : p.find? b = none) :
    p.find? (a ++ '\n' :: b) = none := by
  rw [find?_line, ha, hb]
  rfl

theorem find?_behind_some {a b : Text} {f : Found} (ha : p.find? a = none)
    (hb : p.find? b = some f) : p.find? (a ++ '\n' :: b) = some (f.behind a) := by
  rw [find?_line, ha, hb]
  rfl

end Placeholder

section Substitution

variable (ctx : Context) (order : List Placeholder) {p : Placeholder} {t : Text}

theorem passOver_of_find?_none (h : p.find? t = none) :
    passOver ctx (p :: order) t = passOver ctx order t := by
  rw [passOver_cons, Placeholder.split_eq, h]
  rfl

theorem passOver_of_find? {f : Placeholder.Found} (h : p.find? t = some f) :
    passOver ctx (p :: order) t =
      passOver ctx order f.before ++
        (ctx.value p f.argument ++ passOver ctx (p :: order) f.after) := by
  rw [passOver_cons, Placeholder.split_eq, h, passOver_cons ctx order p f.after]
  simp

theorem passOver_line (a b : Text) :
    passOver ctx order (a ++ '\n' :: b) =
      passOver ctx order a ++ '\n' :: passOver ctx order b := by
  induction order generalizing a b with
  | nil => simp only [passOver_nil]
  | cons p order ih =>
    induction hn : a.length using Nat.strongRecOn generalizing a with
    | ind n ihn =>
      cases ha : p.find? a with
      | some f =>
        have hlt := Placeholder.length_after_lt ha
        rw [passOver_of_find? ctx order (Placeholder.find?_line_some ha b),
          passOver_of_find? ctx order ha]
        change _ ++ (_ ++ passOver ctx (p :: order) (f.after ++ '\n' :: b)) = _
        rw [ihn f.after.length (hn ▸ hlt) f.after rfl, List.append_assoc, List.append_assoc]
        rfl
      | none =>
        rw [passOver_of_find?_none ctx order ha]
        cases hb : p.find? b with
        | none =>
          rw [passOver_of_find?_none ctx order (Placeholder.find?_behind_none ha hb),
            passOver_of_find?_none ctx order hb, ih]
        | some f =>
          rw [passOver_of_find? ctx order (Placeholder.find?_behind_some ha hb),
            passOver_of_find? ctx order hb]
          change passOver ctx order (a ++ '\n' :: f.before) ++ _ = _
          rw [ih, List.append_assoc]
          rfl

theorem substitute_line (ctx : Context) (a b : Text) :
    substitute ctx (a ++ '\n' :: b) = substitute ctx a ++ '\n' :: substitute ctx b :=
  passOver_line ctx _ a b

end Substitution

section Commands

variable {σ : Type} {ex : Executor σ} {limit left : Nat} {clock : Clock} {s : σ} {a b u : Text}

theorem splice_ahead (f : Placeholder.Found) (b : Text) (reply : Reply) :
    (f.ahead b).splice reply = f.splice reply ++ '\n' :: b := by
  simp [Placeholder.Found.splice, Placeholder.Found.ahead]

theorem splice_behind (a : Text) (f : Placeholder.Found) (reply : Reply) :
    (f.behind a).splice reply = a ++ '\n' :: f.splice reply := by
  simp [Placeholder.Found.splice, Placeholder.Found.behind]

def CommandRun.behind (u : Text) (run : CommandRun σ) : CommandRun σ :=
  { run with result := run.result.map fun v => u ++ '\n' :: v }

theorem CommandRun.behind_after (u : Text) (events : List Event) (run : CommandRun σ) :
    (run.after events).behind u = (run.behind u).after events := rfl

theorem runCommands_behind (hu : Placeholder.command.find? u = none) (limit left : Nat)
    (clock : Clock) (s : σ) (b : Text) :
    runCommands ex limit left clock s (u ++ '\n' :: b) =
      (runCommands ex limit left clock s b).behind u := by
  induction left, clock, s, b using runCommands_induction ex with
  | none left clock s b hf =>
    rw [runCommands_none (Placeholder.find?_behind_none hu hf), runCommands_none hf]
    rfl
  | spent clock s b f hf =>
    rw [runCommands_zero (Placeholder.find?_behind_some hu hf), runCommands_zero hf]
    rfl
  | timedOut left clock s b f hf hw =>
    rw [runCommands_timedOut (Placeholder.find?_behind_some hu hf) hw, runCommands_timedOut hf hw]
    rfl
  | call left clock later s b f hf hw ih =>
    rw [runCommands_call (Placeholder.find?_behind_some hu hf) hw, splice_behind,
      runCommands_call hf hw, CommandRun.behind_after, ← ih]
    rfl

/-- A run that has gone through a first line goes on with a second one, if it has come to a text. -/
def CommandRun.thenLine (ex : Executor σ) (limit : Nat) (b : Text) (run : CommandRun σ) :
    CommandRun σ :=
  match run.result with
  | .error _ => run
  | .ok u => ((runCommands ex limit run.left run.clock run.state b).behind u).after run.events

theorem CommandRun.thenLine_error {run : CommandRun σ} {e : ResolveError}
    (h : run.result = .error e) : run.thenLine ex limit b = run := by
  rw [thenLine, h]

theorem CommandRun.thenLine_ok {run : CommandRun σ} (h : run.result = .ok u) :
    run.thenLine ex limit b =
      ((runCommands ex limit run.left run.clock run.state b).behind u).after run.events := by
  rw [thenLine, h]

theorem CommandRun.thenLine_after (events : List Event) (run : CommandRun σ) :
    (run.after events).thenLine ex limit b = (run.thenLine ex limit b).after events := by
  cases hr : run.result with
  | error e =>
    rw [thenLine_error hr, thenLine_error (show (run.after events).result = _ from hr)]
  | ok u =>
    rw [thenLine_ok hr, thenLine_ok (show (run.after events).result = _ from hr)]
    simp [after]

/-- The commands of two lines are those of the first, then those of the second. -/
theorem runCommands_line (ex : Executor σ) (limit left : Nat) (clock : Clock) (s : σ) (a b : Text) :
    runCommands ex limit left clock s (a ++ '\n' :: b) =
      (runCommands ex limit left clock s a).thenLine ex limit b := by
  induction left, clock, s, a using runCommands_induction ex with
  | none left clock s a hf =>
    rw [runCommands_behind hf, runCommands_none hf]
    rfl
  | spent clock s a f hf =>
    rw [runCommands_zero (Placeholder.find?_line_some hf b), runCommands_zero hf]
    rfl
  | timedOut left clock s a f hf hw =>
    rw [runCommands_timedOut (Placeholder.find?_line_some hf b) hw, runCommands_timedOut hf hw]
    rfl
  | call left clock later s a f hf hw ih =>
    rw [runCommands_call (Placeholder.find?_line_some hf b) hw, splice_ahead,
      runCommands_call hf hw, CommandRun.thenLine_after, ← ih]
    rfl

theorem runCommands_untimed (ex : Executor σ) (left : Nat) (s : σ) (t : Text) {clock clock' : Clock}
    (hclock : clock.timeout = none) (hclock' : clock'.timeout = none) (limit limit' : Nat) :
    (runCommands ex limit left clock s t).result =
        (runCommands ex limit' left clock' s t).result.mapError
          (fun _ => .commandLimitExceeded limit) ∧
      (runCommands ex limit left clock s t).state =
        (runCommands ex limit' left clock' s t).state := by
  induction left, clock, s, t, hclock using untimed_induction ex generalizing clock' with
  | none left clock s t hclock hf =>
    rw [runCommands_none hf, runCommands_none hf]
    exact ⟨rfl, rfl⟩
  | spent clock s t hclock f hf =>
    rw [runCommands_zero hf, runCommands_zero hf]
    exact ⟨rfl, rfl⟩
  | call left clock s t hclock f hf hw ih =>
    have hw' := wait?_of_none hclock' (ex.delay s f.id)
    rw [runCommands_call hf hw, runCommands_call hf hw']
    exact ih hclock'

theorem error_of_untimed (hclock : clock.timeout = none) {t : Text} {e : ResolveError}
    (h : (runCommands ex limit left clock s t).result = .error e) :
    e = .commandLimitExceeded limit := by
  have hsame := (runCommands_untimed ex left s t hclock hclock limit limit).1
  rw [h] at hsame
  exact Except.error.inj hsame

theorem runCommands_line_error {e : ResolveError}
    (h : (runCommands ex limit left clock s a).result = .error e) (b : Text) :
    runCommands ex limit left clock s (a ++ '\n' :: b) = runCommands ex limit left clock s a := by
  rw [runCommands_line, CommandRun.thenLine_error h]

theorem runCommands_line_ok (hclock : clock.timeout = none)
    (h : (runCommands ex limit left clock s a).result = .ok u) (b : Text) (limit' : Nat) :
    let first := runCommands ex limit left clock s a
    let second := runCommands ex limit' first.left {} first.state b
    (runCommands ex limit left clock s (a ++ '\n' :: b)).result =
        (second.result.mapError fun _ => .commandLimitExceeded limit).map
          (fun v => u ++ '\n' :: v) ∧
      (runCommands ex limit left clock s (a ++ '\n' :: b)).state = second.state := by
  intro first second
  have hfirst : first.clock.timeout = none := by
    rw [← hclock]
    exact timeout_of_runCommands ex limit left clock s a
  obtain ⟨hresult, hstate⟩ := runCommands_untimed ex first.left first.state b hfirst
    (rfl : Clock.timeout {} = none) limit limit'
  rw [runCommands_line, CommandRun.thenLine_ok h]
  exact ⟨congrArg (Except.map fun v => u ++ '\n' :: v) hresult, hstate⟩

end Commands

section Resolutions

variable {σ : Type} {depth commands : Nat} {ctx : Context} {ex : Executor σ} {s : σ} {a b u : Text}

theorem resolve_line_error {e : ResolveError}
    (h : (resolve (.single depth commands) ctx ex s a).result = .error e) (b : Text) :
    (resolve (.single depth commands) ctx ex s (a ++ '\n' :: b)).result =
        .error (.commandLimitExceeded commands) ∧
      (resolve (.single depth commands) ctx ex s (a ++ '\n' :: b)).state =
        (resolve (.single depth commands) ctx ex s a).state := by
  obtain ⟨hfirst, hfirstState⟩ := resolve_single depth commands ctx ex s a
  obtain ⟨hwhole, hwholeState⟩ := resolve_single depth commands ctx ex s (a ++ '\n' :: b)
  rw [hfirst] at h
  rw [substitute_line, runCommands_line_error h] at hwhole hwholeState
  rw [hwhole, h, error_of_untimed rfl h, hwholeState, hfirstState]
  exact ⟨rfl, rfl⟩

theorem resolve_line_ok
    (h : (resolve (.single depth commands) ctx ex s a).result = .ok u) (b : Text) :
    let left := commands - (calls (.single depth commands) ctx ex s a).length
    let second := resolve (.single depth left) ctx ex
      (resolve (.single depth commands) ctx ex s a).state b
    (resolve (.single depth commands) ctx ex s (a ++ '\n' :: b)).result =
        (second.result.mapError fun _ => .commandLimitExceeded commands).map
          (fun v => u ++ '\n' :: v) ∧
      (resolve (.single depth commands) ctx ex s (a ++ '\n' :: b)).state = second.state := by
  intro left second
  obtain ⟨hfirst, hfirstState⟩ := resolve_single depth commands ctx ex s a
  obtain ⟨hwhole, hwholeState⟩ := resolve_single depth commands ctx ex s (a ++ '\n' :: b)
  obtain ⟨hsecond, hsecondState⟩ := resolve_single depth left ctx ex
    (resolve (.single depth commands) ctx ex s a).state b
  rw [hfirst] at h
  have hleft : left = (runCommands ex commands commands {} s (substitute ctx a)).left := by
    have hlength := length_commandCalls_of_ok h
    rw [← calls_single depth] at hlength
    omega
  obtain ⟨hresult, hstate⟩ := runCommands_line_ok rfl h (substitute ctx b) left
  rw [← substitute_line, ← hleft, ← hfirstState] at hresult hstate
  rw [hwhole, hwholeState, hsecond, hsecondState]
  exact ⟨hresult, hstate⟩

end Resolutions

/-- Lines resolve independently of each other, whatever values and answers bring in. A single pass
over two lines first makes the calls of the first line. If this line comes to a text, the calls
follow that the second line makes from the state that the first has left, with as many calls allowed
as the first has left; and if the second line comes to a text as well, the whole comes to both. If
either line fails, the whole fails with its own limit. -/
theorem resolve_lines {σ : Type} (depth commands : Nat) (ctx : Context) (ex : Executor σ) (s : σ)
    (a b : Text) :
    let opts : Options := .single depth commands
    let first := resolve opts ctx ex s a
    let rest : Options := .single depth (commands - (calls opts ctx ex s a).length)
    let second := resolve rest ctx ex first.state b
    let whole := resolve opts ctx ex s (a ++ '\n' :: b)
    (∀ u, first.result = .ok u →
      calls opts ctx ex s (a ++ '\n' :: b) =
          calls opts ctx ex s a ++ calls rest ctx ex first.state b ∧
        whole.state = second.state ∧
        (∀ v, second.result = .ok v → whole.result = .ok (u ++ '\n' :: v)) ∧
        ∀ e, second.result = .error e → whole.result = .error (.commandLimitExceeded commands)) ∧
    ∀ e, first.result = .error e →
      calls opts ctx ex s (a ++ '\n' :: b) = calls opts ctx ex s a ∧
        whole.state = first.state ∧
        whole.result = .error (.commandLimitExceeded commands) := by
  intro opts first rest second whole
  obtain ⟨hsame, hlisted⟩ := resolve_recording opts ctx ex s a
  have hwhole := (resolve_recording opts ctx ex s (a ++ '\n' :: b)).2
  refine ⟨fun u hu => ?_, fun e he => ?_⟩
  · obtain ⟨hresult, hstate⟩ : whole.result =
        (second.result.mapError fun _ => .commandLimitExceeded commands).map
          (fun v => u ++ '\n' :: v) ∧ whole.state = second.state := resolve_line_ok hu b
    refine ⟨?_, hstate, fun v hv => ?_, fun e he => ?_⟩
    · have hlines := (resolve_line_ok (hsame.trans hu) b).2
      rw [← calls_map opts ctx ex.recording ex.recording_mapsTo, hlisted, hwhole,
        resolve_listed] at hlines
      exact (Prod.mk.inj hlines).2
    · rw [hresult, hv]
      rfl
    · rw [hresult, he]
      rfl
  · obtain ⟨hresult, hstate⟩ := resolve_line_error he b
    have hlines := (resolve_line_error (hsame.trans he) b).2
    rw [hlisted, hwhole] at hlines
    exact ⟨(Prod.mk.inj hlines).2, hstate, hresult⟩

end Interpolation
