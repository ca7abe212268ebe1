import Interpolation.Resolution.Commands

/-!
# The calls of a command run

A command run goes on from call to call. Each call takes one away from those that are allowed, and
nothing else bounds the run: what a call puts into the text may be anything. An executor can be
replaced by one that answers like it and lists its calls, so the list says what a run asks of the
executor.
-/

namespace Interpolation

variable {σ τ : Type}

theorem Placeholder.occursIn_eq_false {p : Placeholder} {t : Text} :
    p.occursIn t = false ↔ p.find? t = none := by
  simp [occursIn]

def Placeholder.Found.id (f : Placeholder.Found) : Text :=
  f.argument.getD []

/-- The text with a reply in the place of the found token. -/
def Placeholder.Found.splice (f : Placeholder.Found) (reply : Reply) : Text :=
  f.before ++ reply.replacement ++ f.after

/-- Something has happened before the run. -/
def CommandRun.after (events : List Event) (run : CommandRun σ) : CommandRun σ :=
  { run with events := events ++ run.events }

@[simp] theorem CommandRun.after_result (events : List Event) (run : CommandRun σ) :
    (run.after events).result = run.result := rfl

@[simp] theorem CommandRun.after_left (events : List Event) (run : CommandRun σ) :
    (run.after events).left = run.left := rfl

@[simp] theorem CommandRun.after_clock (events : List Event) (run : CommandRun σ) :
    (run.after events).clock = run.clock := rfl

@[simp] theorem CommandRun.after_state (events : List Event) (run : CommandRun σ) :
    (run.after events).state = run.state := rfl

@[simp] theorem CommandRun.after_events (events : List Event) (run : CommandRun σ) :
    (run.after events).events = events ++ run.events := rfl

theorem wait?_of_none {clock : Clock} (h : clock.timeout = none) (pause : Duration) :
    clock.wait? pause = some { clock with elapsed := clock.elapsed + pause } := by
  simp only [Clock.wait?, h]

theorem eq_of_wait? {clock later : Clock} {pause : Duration}
    (h : clock.wait? pause = some later) :
    later = { clock with elapsed := clock.elapsed + pause } := by
  simp only [Clock.wait?] at h
  split at h
  · exact (Option.some.inj h).symm
  · split at h
    · exact (Option.some.inj h).symm
    · cases h

section Equations

variable {ex : Executor σ} {limit left : Nat} {clock : Clock} {s : σ} {t : Text}

theorem runCommands_none (hf : Placeholder.command.find? t = none) :
    runCommands ex limit left clock s t = ⟨.ok t, left, clock, s, []⟩ := by
  rw [runCommands.eq_def]
  simp only [hf]

variable {f : Placeholder.Found}

theorem runCommands_zero (hf : Placeholder.command.find? t = some f) :
    runCommands ex limit 0 clock s t =
      ⟨.error (.commandLimitExceeded limit), 0, clock, s, []⟩ := by
  rw [runCommands.eq_def]
  simp only [hf]

theorem runCommands_timedOut (hf : Placeholder.command.find? t = some f)
    (hw : clock.wait? (ex.delay s f.id) = none) :
    runCommands ex limit (left + 1) clock s t =
      ⟨.error (.timedOut (clock.timeout.getD 0)), left, clock, s,
        .invoking f.id :: ex.notices f.id⟩ := by
  rw [runCommands.eq_def]
  simp only [Placeholder.Found.id] at hw ⊢
  simp only [hf, hw]

/-- A run goes on from the text that a call leaves. -/
theorem runCommands_call {later : Clock} (hf : Placeholder.command.find? t = some f)
    (hw : clock.wait? (ex.delay s f.id) = some later) :
    runCommands ex limit (left + 1) clock s t =
      (runCommands ex limit left later (ex.call s f.id).2 (f.splice (ex.call s f.id).1)).after
        (.invoking f.id :: ex.notices f.id ++ replyEvents f.id (ex.call s f.id).1) := by
  rw [runCommands.eq_def]
  simp only [Placeholder.Found.id] at hw ⊢
  simp only [hf, hw]
  rfl

end Equations

/-- Induction along a command run: it ends without a token, without a call left or without time, or
it goes on from the text that a call leaves. -/
theorem runCommands_induction (ex : Executor σ) {motive : Nat → Clock → σ → Text → Prop}
    (none : ∀ left clock s t, Placeholder.command.find? t = none → motive left clock s t)
    (spent : ∀ clock s t f, Placeholder.command.find? t = some f → motive 0 clock s t)
    (timedOut : ∀ left clock s t f, Placeholder.command.find? t = some f →
      clock.wait? (ex.delay s f.id) = .none → motive (left + 1) clock s t)
    (call : ∀ left clock later s t f, Placeholder.command.find? t = some f →
      clock.wait? (ex.delay s f.id) = some later →
      motive left later (ex.call s f.id).2 (f.splice (ex.call s f.id).1) →
      motive (left + 1) clock s t)
    (left : Nat) (clock : Clock) (s : σ) (t : Text) : motive left clock s t := by
  induction left generalizing clock s t with
  | zero =>
    cases hf : Placeholder.command.find? t with
    | none => exact none 0 clock s t hf
    | some f => exact spent clock s t f hf
  | succ left ih =>
    cases hf : Placeholder.command.find? t with
    | none => exact none (left + 1) clock s t hf
    | some f =>
      cases hw : clock.wait? (ex.delay s f.id) with
      | none => exact timedOut left clock s t f hf hw
      | some later => exact call left clock later s t f hf hw (ih later _ _)

/-- Induction along a command run without a timeout. -/
theorem untimed_induction (ex : Executor σ)
    {motive : Nat → (clock : Clock) → σ → Text → clock.timeout = none → Prop}
    (none : ∀ left clock s t hclock, Placeholder.command.find? t = none →
      motive left clock s t hclock)
    (spent : ∀ clock s t hclock f, Placeholder.command.find? t = some f →
      motive 0 clock s t hclock)
    (call : ∀ left clock s t hclock f, Placeholder.command.find? t = some f →
      clock.wait? (ex.delay s f.id) =
        some { clock with elapsed := clock.elapsed + ex.delay s f.id } →
      motive left { clock with elapsed := clock.elapsed + ex.delay s f.id } (ex.call s f.id).2
        (f.splice (ex.call s f.id).1) hclock →
      motive (left + 1) clock s t hclock)
    (left : Nat) (clock : Clock) (s : σ) (t : Text) (hclock : clock.timeout = .none) :
    motive left clock s t hclock := by
  induction left, clock, s, t using runCommands_induction ex with
  | none left clock s t hf => exact none left clock s t hclock hf
  | spent clock s t f hf => exact spent clock s t hclock f hf
  | timedOut left clock s t f hf hw =>
    rw [wait?_of_none hclock] at hw
    cases hw
  | call left clock later s t f hf hw ih =>
    obtain rfl := eq_of_wait? hw
    exact call left clock s t hclock f hf hw (ih hclock)

theorem timeout_of_runCommands (ex : Executor σ) (limit left : Nat) (clock : Clock) (s : σ)
    (t : Text) : (runCommands ex limit left clock s t).clock.timeout = clock.timeout := by
  induction left, clock, s, t using runCommands_induction ex with
  | none left clock s t hf => rw [runCommands_none hf]
  | spent clock s t f hf => rw [runCommands_zero hf]
  | timedOut left clock s t f hf hw => rw [runCommands_timedOut hf hw]
  | call left clock later s t f hf hw ih =>
    rw [runCommands_call hf hw, CommandRun.after_clock, ih, eq_of_wait? hw]

/-- `other` answers like `ex`, and its state `h s` stands for `s`. -/
structure Executor.MapsTo (h : σ → τ) (ex : Executor σ) (other : Executor τ) : Prop where
  call : ∀ s id, other.call (h s) id = ((ex.call s id).1, h (ex.call s id).2)
  delay : ∀ s id, other.delay (h s) id = ex.delay s id
  notices : other.notices = ex.notices

theorem Executor.recording_mapsTo (ex : Executor σ) : MapsTo Prod.fst ex.recording ex :=
  ⟨fun _ _ => rfl, fun _ _ => rfl, rfl⟩

theorem Executor.recording_mapsTo_append (ex : Executor σ) (ids : List Text) :
    MapsTo (fun s : σ × List Text => (s.1, ids ++ s.2)) ex.recording ex.recording :=
  ⟨fun _ _ => by simp [recording], fun _ _ => rfl, rfl⟩

theorem Executor.MapsTo.recording {h : σ → τ} {ex : Executor σ} {other : Executor τ}
    (hm : MapsTo h ex other) :
    MapsTo (fun s : σ × List Text => (h s.1, s.2)) ex.recording other.recording :=
  ⟨fun s id => by simp [Executor.recording, hm.call], fun s id => hm.delay s.1 id, hm.notices⟩

/-- The same run with the state of another executor. -/
def CommandRun.map (h : σ → τ) (run : CommandRun σ) : CommandRun τ :=
  ⟨run.result, run.left, run.clock, h run.state, run.events⟩

@[simp] theorem CommandRun.map_result (h : σ → τ) (run : CommandRun σ) :
    (run.map h).result = run.result := rfl

@[simp] theorem CommandRun.map_left (h : σ → τ) (run : CommandRun σ) :
    (run.map h).left = run.left := rfl

@[simp] theorem CommandRun.map_clock (h : σ → τ) (run : CommandRun σ) :
    (run.map h).clock = run.clock := rfl

@[simp] theorem CommandRun.map_state (h : σ → τ) (run : CommandRun σ) :
    (run.map h).state = h run.state := rfl

theorem CommandRun.map_after (h : σ → τ) (events : List Event) (run : CommandRun σ) :
    (run.after events).map h = (run.map h).after events := rfl

theorem runCommands_map {h : σ → τ} {ex : Executor σ} {other : Executor τ}
    (hm : Executor.MapsTo h ex other) (limit left : Nat) (clock : Clock) (s : σ) (t : Text) :
    runCommands other limit left clock (h s) t =
      (runCommands ex limit left clock s t).map h := by
  induction left, clock, s, t using runCommands_induction ex with
  | none left clock s t hf =>
    rw [runCommands_none hf, runCommands_none hf]
    rfl
  | spent clock s t f hf =>
    rw [runCommands_zero hf, runCommands_zero hf]
    rfl
  | timedOut left clock s t f hf hw =>
    have hw' : clock.wait? (other.delay (h s) f.id) = none := by rw [hm.delay, hw]
    rw [runCommands_timedOut hf hw, runCommands_timedOut hf hw', hm.notices]
    rfl
  | call left clock later s t f hf hw ih =>
    have hw' : clock.wait? (other.delay (h s) f.id) = some later := by rw [hm.delay, hw]
    rw [runCommands_call hf hw, runCommands_call hf hw', hm.notices, hm.call, ih,
      CommandRun.map_after]

/-- The ids that a command run calls, in order. -/
def commandCalls (ex : Executor σ) (limit left : Nat) (clock : Clock) (s : σ) (t : Text) :
    List Text :=
  (runCommands ex.recording limit left clock (s, []) t).state.2

theorem runCommands_recording (ex : Executor σ) (limit left : Nat) (clock : Clock) (s : σ)
    (ids : List Text) (t : Text) :
    runCommands ex.recording limit left clock (s, ids) t =
      (runCommands ex limit left clock s t).map
        fun last => (last, ids ++ commandCalls ex limit left clock s t) := by
  have hids := runCommands_map (ex.recording_mapsTo_append ids) limit left clock (s, []) t
  have hrun := runCommands_map ex.recording_mapsTo limit left clock (s, []) t
  simp only [List.append_nil] at hids
  rw [hids, hrun]
  rfl

section Calls

variable {ex : Executor σ} {limit left : Nat} {clock : Clock} {s : σ} {t : Text}

theorem commandCalls_none (hf : Placeholder.command.find? t = none) :
    commandCalls ex limit left clock s t = [] := by
  rw [commandCalls, runCommands_none hf]

variable {f : Placeholder.Found}

theorem commandCalls_zero : commandCalls ex limit 0 clock s t = [] := by
  cases hf : Placeholder.command.find? t with
  | none => exact commandCalls_none hf
  | some f => rw [commandCalls, runCommands_zero hf]

theorem commandCalls_timedOut (hf : Placeholder.command.find? t = some f)
    (hw : clock.wait? (ex.delay s f.id) = none) :
    commandCalls ex limit (left + 1) clock s t = [] := by
  have hw' : clock.wait? (ex.recording.delay (s, []) f.id) = none := hw
  rw [commandCalls, runCommands_timedOut hf hw']

theorem commandCalls_call {later : Clock} (hf : Placeholder.command.find? t = some f)
    (hw : clock.wait? (ex.delay s f.id) = some later) :
    commandCalls ex limit (left + 1) clock s t =
      f.id ::
        commandCalls ex limit left later (ex.call s f.id).2 (f.splice (ex.call s f.id).1) := by
  have hw' : clock.wait? (ex.recording.delay (s, []) f.id) = some later := hw
  rw [commandCalls, runCommands_call hf hw']
  change (runCommands ex.recording limit left later ((ex.call s f.id).2, [f.id])
    (f.splice (ex.call s f.id).1)).state.2 = _
  rw [runCommands_recording]
  rfl

theorem length_commandCalls (ex : Executor σ) (limit left : Nat) (clock : Clock) (s : σ)
    (t : Text) :
    let run := runCommands ex limit left clock s t
    (∃ timeout, run.result = .error (.timedOut timeout)) ∧
        (commandCalls ex limit left clock s t).length + run.left < left ∨
      (commandCalls ex limit left clock s t).length + run.left = left := by
  induction left, clock, s, t using runCommands_induction ex with
  | none left clock s t hf => simp [commandCalls_none hf, runCommands_none hf]
  | spent clock s t f hf => simp [commandCalls_zero, runCommands_zero hf]
  | timedOut left clock s t f hf hw =>
    simp [commandCalls_timedOut hf hw, runCommands_timedOut hf hw]
  | call left clock later s t f hf hw ih =>
    rw [commandCalls_call hf hw, runCommands_call hf hw, List.length_cons]
    rcases ih with ⟨ht, hlt⟩ | heq
    · exact Or.inl ⟨ht, by simp only [CommandRun.after_left]; omega⟩
    · exact Or.inr (by simp only [CommandRun.after_left]; omega)

theorem length_commandCalls_le (ex : Executor σ) (limit left : Nat) (clock : Clock) (s : σ)
    (t : Text) :
    (commandCalls ex limit left clock s t).length +
      (runCommands ex limit left clock s t).left ≤ left := by
  rcases length_commandCalls ex limit left clock s t with ⟨-, hlt⟩ | heq
  · exact Nat.le_of_lt hlt
  · exact Nat.le_of_eq heq

theorem length_commandCalls_of_ok {u : Text}
    (h : (runCommands ex limit left clock s t).result = .ok u) :
    (commandCalls ex limit left clock s t).length +
      (runCommands ex limit left clock s t).left = left := by
  rcases length_commandCalls ex limit left clock s t with ⟨⟨timeout, ht⟩, -⟩ | heq
  · rw [h] at ht
    cases ht
  · exact heq

/-- A run that comes to a text has resolved every command token. -/
theorem find?_of_runCommands_ok {u : Text}
    (h : (runCommands ex limit left clock s t).result = .ok u) :
    Placeholder.command.find? u = none := by
  induction left, clock, s, t using runCommands_induction ex with
  | none left clock s t hf =>
    rw [runCommands_none hf] at h
    obtain rfl := Except.ok.inj h
    exact hf
  | spent clock s t f hf =>
    rw [runCommands_zero hf] at h
    cases h
  | timedOut left clock s t f hf hw =>
    rw [runCommands_timedOut hf hw] at h
    cases h
  | call left clock later s t f hf hw ih =>
    rw [runCommands_call hf hw] at h
    exact ih h

theorem find?_of_commandCalls_nil {u : Text}
    (h : (runCommands ex limit left clock s t).result = .ok u)
    (hc : commandCalls ex limit left clock s t = []) :
    Placeholder.command.find? t = none := by
  induction left, clock, s, t using runCommands_induction ex with
  | none left clock s t hf => exact hf
  | spent clock s t f hf =>
    rw [runCommands_zero hf] at h
    cases h
  | timedOut left clock s t f hf hw =>
    rw [runCommands_timedOut hf hw] at h
    cases h
  | call left clock later s t f hf hw ih =>
    rw [commandCalls_call hf hw] at hc
    cases hc

/-- The errors of a run are its own: the calls are used up, or the time is. -/
theorem error_of_runCommands {e : ResolveError}
    (h : (runCommands ex limit left clock s t).result = .error e) :
    e = .commandLimitExceeded limit ∨ ∃ timeout, e = .timedOut timeout := by
  induction left, clock, s, t using runCommands_induction ex with
  | none left clock s t hf =>
    rw [runCommands_none hf] at h
    cases h
  | spent clock s t f hf =>
    rw [runCommands_zero hf] at h
    exact Or.inl (Except.error.inj h).symm
  | timedOut left clock s t f hf hw =>
    rw [runCommands_timedOut hf hw] at h
    exact Or.inr ⟨_, (Except.error.inj h).symm⟩
  | call left clock later s t f hf hw ih =>
    rw [runCommands_call hf hw] at h
    exact ih h

end Calls

end Interpolation
