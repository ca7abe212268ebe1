import Interpolation.Resolution.Commands

/-!
# Replaying events

Events that tell of calls can be replayed on an executor: it goes from one state to the next with
each call that is told, and the failures that it answers are those that are told, each directly
behind its call.
-/

namespace Interpolation

namespace Event

/-- Whether an event is the start of a call or its failure. -/
def tellsCall : Event → Bool
  | invoking _ | commandFailed .. => true
  | _ => false

def invoked? : Event → Option Text
  | invoking id => some id
  | _ => none

def passNumber? : Event → Option Nat
  | passStarted pass _ => some pass
  | _ => none

theorem invoked?_of_other {e : Event} (he : e.tellsCall = false) : e.invoked? = none := by
  cases e <;> simp_all [tellsCall, invoked?]

theorem passNumber?_of_call {e : Event} (he : e.tellsCall = true) : e.passNumber? = none := by
  cases e <;> simp_all [tellsCall, passNumber?]

end Event

variable {σ : Type}

/-- The state of an executor after some calls, one after the other. -/
def Executor.stateAfter (ex : Executor σ) (s : σ) (ids : List Text) : σ :=
  ids.foldl (fun s id => (ex.call s id).2) s

/-- Events that replay on an executor: from call to call it goes from one state to another, and a
call is told with its failure directly behind it, if it fails. -/
inductive Replays (ex : Executor σ) : σ → List Event → List Text → σ → Prop where
  | nil (s : σ) : Replays ex s [] [] s
  | other {s last : σ} {e : Event} {events : List Event} {ids : List Text}
    (he : e.tellsCall = false) (rest : Replays ex s events ids last) :
    Replays ex s (e :: events) ids last
  | answered {s last : σ} {id : Text} {answer : Option Value} {events : List Event}
    {ids : List Text} (hr : (ex.call s id).1 = .ok answer)
    (rest : Replays ex (ex.call s id).2 events ids last) :
    Replays ex s (.invoking id :: events) (id :: ids) last
  | failed {s last : σ} {id : Text} {e : CommandError} {events : List Event} {ids : List Text}
    (hr : (ex.call s id).1 = .error e) (rest : Replays ex (ex.call s id).2 events ids last) :
    Replays ex s (.invoking id :: .commandFailed id e :: events) (id :: ids) last

namespace Replays

variable {ex : Executor σ} {s last : σ} {events more before after : List Event}
  {ids ids' : List Text} {id : Text} {e : CommandError}

theorem call (rest : Replays ex (ex.call s id).2 events ids last) :
    Replays ex s (.invoking id :: (replyEvents id (ex.call s id).1 ++ events)) (id :: ids)
      last := by
  cases hr : (ex.call s id).1 with
  | ok answer => exact .answered hr rest
  | error e => exact .failed hr rest

theorem append {middle : σ} (h : Replays ex s events ids middle)
    (h' : Replays ex middle more ids' last) : Replays ex s (events ++ more) (ids ++ ids') last := by
  induction h with
  | nil s => exact h'
  | other he _ ih => exact .other he (ih h')
  | answered hr _ ih => exact .answered hr (ih h')
  | failed hr _ ih => exact .failed hr (ih h')

theorem of_other (hother : ∀ e ∈ events, e.tellsCall = false) : Replays ex s events [] s := by
  induction events with
  | nil => exact .nil s
  | cons e events ih =>
    obtain ⟨he, hrest⟩ := List.forall_mem_cons.mp hother
    exact .other he (ih hrest)

theorem last_eq (h : Replays ex s events ids last) : last = ex.stateAfter s ids := by
  induction h with
  | nil s => rfl
  | other _ _ ih => exact ih
  | answered _ _ ih => exact ih
  | failed _ _ ih => exact ih

theorem filterMap_invoked? (h : Replays ex s events ids last) :
    events.filterMap Event.invoked? = ids := by
  induction h with
  | nil s => rfl
  | other he _ ih => rw [List.filterMap_cons_none (Event.invoked?_of_other he), ih]
  | answered _ _ ih => exact congrArg (List.cons _) ih
  | failed _ _ ih => exact congrArg (List.cons _) ih

theorem cut_cons {x y : Event} (h : x :: events = before ++ y :: after) :
    (before = [] ∧ x = y ∧ events = after) ∨
      ∃ rest, before = x :: rest ∧ events = rest ++ y :: after := by
  rcases List.cons_eq_append_iff.mp h with ⟨hbefore, heq⟩ | ⟨rest, hbefore, heq⟩
  · obtain ⟨hy, hafter⟩ := List.cons.inj heq
    exact Or.inl ⟨hbefore, hy.symm, hafter.symm⟩
  · exact Or.inr ⟨rest, hbefore, heq⟩

theorem head?_ne (h : Replays ex s events ids last) (id : Text) (e : CommandError) :
    events.head? ≠ some (.commandFailed id e) := by
  cases h with
  | nil s => simp
  | other he _ =>
    intro heq
    obtain rfl := Option.some.inj heq
    cases he
  | answered _ _ => simp
  | failed _ _ => simp

/-- Directly behind the start of a call stands its failure, just if the executor fails it in the
state after the calls told before. -/
theorem failed_iff (h : Replays ex s events ids last)
    (hcut : events = before ++ .invoking id :: after) :
    after.head? = some (.commandFailed id e) ↔
      (ex.call (ex.stateAfter s (before.filterMap Event.invoked?)) id).1 = .error e := by
  induction h generalizing before with
  | nil s => simp at hcut
  | other he _ ih =>
    rcases cut_cons hcut with ⟨rfl, rfl, rfl⟩ | ⟨rest, rfl, hrest⟩
    · cases he
    · rw [List.filterMap_cons_none (Event.invoked?_of_other he)]
      exact ih hrest
  | answered hr hreplays ih =>
    rcases cut_cons hcut with ⟨rfl, ⟨⟩, rfl⟩ | ⟨rest, rfl, hrest⟩
    · have hnone := hreplays.head?_ne id e
      simp [Executor.stateAfter, hr, hnone]
    · exact ih hrest
  | failed hr _ ih =>
    rcases cut_cons hcut with ⟨rfl, ⟨⟩, rfl⟩ | ⟨rest, rfl, hrest⟩
    · simp [Executor.stateAfter, hr]
    · rcases cut_cons hrest with ⟨-, ⟨⟩, -⟩ | ⟨behind, rfl, hbehind⟩
      have hiff := ih hbehind
      exact hiff

theorem getLast?_of_failed (h : Replays ex s events ids last)
    (hcut : events = before ++ .commandFailed id e :: after) :
    before.getLast? = some (.invoking id) := by
  induction h generalizing before with
  | nil s => simp at hcut
  | other he _ ih =>
    rcases cut_cons hcut with ⟨rfl, rfl, rfl⟩ | ⟨rest, rfl, hrest⟩
    · cases he
    · simp [List.getLast?_cons, ih hrest]
  | answered _ _ ih =>
    rcases cut_cons hcut with ⟨-, ⟨⟩, -⟩ | ⟨rest, rfl, hrest⟩
    simp [List.getLast?_cons, ih hrest]
  | failed _ _ ih =>
    rcases cut_cons hcut with ⟨-, ⟨⟩, -⟩ | ⟨rest, rfl, hrest⟩
    rcases cut_cons hrest with ⟨rfl, ⟨⟩, rfl⟩ | ⟨behind, rfl, hbehind⟩
    · rfl
    · simp [List.getLast?_cons, ih hbehind]

end Replays

end Interpolation
