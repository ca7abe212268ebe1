import Interpolation.Log
import Interpolation.Proofs.Notices
import Interpolation.Proofs.Replay

/-!
# The log as an audit trail

What a resolution tells can be checked against the executor: replaying the calls that are told, one
after the other, gives the failures that are told. Each pass keeps this, tells its number first and
does not tell of the end. A call that is refused is not told at all.
-/

namespace Interpolation

namespace Log.Filter

/-- The filter that shows what the resolver tells, down to the level of debugging. -/
def resolver : Filter :=
  [{ source := some "vars_core".toList, threshold := Level.debug.rank }]

example : read? "vars_core=debug".toList = some resolver := by decide +kernel

theorem shows_singleton (d : Directive) (e : Event) :
    shows [d] e = (d.isAbout e && decide (e.level.rank ≤ d.threshold)) := by
  cases h : d.isAbout e with
  | true => simp [shows, threshold, h]
  | false =>
    have hpos : 0 < e.level.rank := by cases e.level <;> decide
    simp [shows, threshold, h]
    omega

theorem shows_resolver (e : Event) :
    resolver.shows e =
      match e with
      | .passStarted .. | .invoking _ | .commandFailed .. | .completed .. | .timedOut _ => true
      | _ => false := by
  rw [resolver, shows_singleton]
  cases e <;>
    simp [Directive.isAbout, Event.source, Event.level, Level.rank, List.isPrefixOf]

theorem shows_of_call {e : Event} (he : e.tellsCall = true) : resolver.shows e = true := by
  rw [shows_resolver]
  cases e <;> simp_all [Event.tellsCall]

end Log.Filter

variable {σ : Type}

section Quiet

variable {opts : Options} {ctx : Context} {ex : Executor σ} {p q : Progress σ} {s : σ} {t : Text}
  {k : Nat} {clock : Clock} (hq : ex.IsQuiet)
include hq

theorem tellsCall_runCommands (limit left : Nat) (clock : Clock) (s : σ) (t : Text) :
    ∀ e ∈ (runCommands ex limit left clock s t).events, e.tellsCall = true := by
  induction left, clock, s, t using runCommands_induction ex with
  | none left clock s t hf => simp [runCommands_none hf]
  | spent clock s t f hf => simp [runCommands_zero hf]
  | timedOut left clock s t f hf hw => simp [runCommands_timedOut hf hw, hq f.id, Event.tellsCall]
  | call left clock later s t f hf hw ih =>
    have hreply : ∀ e ∈ replyEvents f.id (ex.call s f.id).1, e.tellsCall = true := by
      cases (ex.call s f.id).1 <;> simp [replyEvents, Event.tellsCall]
    intro e he
    rw [runCommands_call hf hw, CommandRun.after_events, hq f.id] at he
    simp only [List.cons_append, List.nil_append, List.mem_cons, List.mem_append] at he
    rcases he with rfl | he | he
    · rfl
    · exact hreply e he
    · exact ih e he

theorem replays_runCommands (limit left : Nat) (s : σ) (t : Text) (hclock : clock.timeout = none) :
    Replays ex s (runCommands ex limit left clock s t).events
      (commandCalls ex limit left clock s t) (runCommands ex limit left clock s t).state := by
  induction left, clock, s, t, hclock using untimed_induction ex with
  | none left clock s t hclock hf =>
    rw [runCommands_none hf, commandCalls_none hf]
    exact .nil s
  | spent clock s t hclock f hf =>
    rw [runCommands_zero hf, commandCalls_zero]
    exact .nil s
  | call left clock s t hclock f hf hw ih =>
    rw [runCommands_call hf hw, commandCalls_call hf hw, CommandRun.after_events, hq f.id]
    simpa using Replays.call ih

theorem shown_runPass (p : Progress σ) :
    (runPass opts ctx ex p).events.filter Log.Filter.resolver.shows =
      .passStarted p.pass (Text.byteLength p.current) ::
        (runCommands ex opts.maxCommands p.left p.clock p.state
          (substitute ctx p.current)).events := by
  have hsubstituted : ((replaced ctx p.current).map Event.substituted).filter
      Log.Filter.resolver.shows = [] := by
    simp [List.filter_eq_nil_iff, Log.Filter.shows_resolver]
  have hcalls := tellsCall_runCommands hq opts.maxCommands p.left p.clock p.state
    (substitute ctx p.current)
  rw [runPass_eq, CommandRun.after_events, List.filter_append, List.filter_cons_of_pos
    (Log.Filter.shows_resolver _), hsubstituted,
    List.filter_eq_self.mpr fun e he => Log.Filter.shows_of_call (hcalls e he)]
  rfl

theorem passNumbers_shown (p : Progress σ) :
    ((runPass opts ctx ex p).events.filter Log.Filter.resolver.shows).filterMap
      Event.passNumber? = [p.pass] := by
  have hcalls := tellsCall_runCommands hq opts.maxCommands p.left p.clock p.state
    (substitute ctx p.current)
  have hnone := List.filterMap_eq_nil_iff.mpr fun e he => Event.passNumber?_of_call (hcalls e he)
  have hstart : Event.passNumber? (.passStarted p.pass (Text.byteLength p.current)) = some p.pass :=
    rfl
  rw [shown_runPass hq, List.filterMap_cons_some hstart, hnone]

theorem completed_notMem_shown (p : Progress σ) (passes commands : Nat) :
    .completed passes commands ∉
      (runPass opts ctx ex p).events.filter Log.Filter.resolver.shows := by
  intro hm
  rw [shown_runPass hq, List.mem_cons] at hm
  rcases hm with heq | hm
  · cases heq
  · have hcall := tellsCall_runCommands hq opts.maxCommands p.left p.clock p.state _ _ hm
    cases hcall

theorem replays_shown (hclock : p.clock.timeout = none) :
    Replays ex p.state ((runPass opts ctx ex p).events.filter Log.Filter.resolver.shows)
      (passCalls opts ctx ex p) (runPass opts ctx ex p).state := by
  have hrun := replays_runCommands hq opts.maxCommands p.left p.state (substitute ctx p.current)
    hclock
  rw [shown_runPass hq, runPass_eq, CommandRun.after_state]
  exact .other rfl hrun

end Quiet

section Passes

variable {opts : Options} {ctx : Context} {ex : Executor σ} {p : Progress σ} {s : σ} {t : Text}
  {k : Nat}

variable (opts ctx ex s t) in
def shownPasses (k : Nat) : List Event :=
  (eventsOf opts ctx ex (firstPasses opts ctx ex s t k)).filter Log.Filter.resolver.shows

theorem shownPasses_succ (hp : progressAt opts ctx ex s t k = some p) :
    shownPasses opts ctx ex s t (k + 1) = shownPasses opts ctx ex s t k ++
      (runPass opts ctx ex p).events.filter Log.Filter.resolver.shows := by
  rw [shownPasses, eventsOf_succ hp, List.filter_append, ← shownPasses]

/-- What the first passes show is an account of them: they are counted from one, their calls are
told, and the end of the resolution is not. -/
structure Accounts (opts : Options) (ctx : Context) (ex : Executor σ) (s : σ) (t : Text) (k : Nat)
    (last : σ) : Prop where
  first : 0 < k →
    (shownPasses opts ctx ex s t k).head? = some (.passStarted 1 (Text.byteLength t))
  numbered : (shownPasses opts ctx ex s t k).filterMap Event.passNumber? = List.range' 1 k
  replays : Replays ex s (shownPasses opts ctx ex s t k) (firstCalls opts ctx ex s t k) last
  running : ∀ passes commands, .completed passes commands ∉ shownPasses opts ctx ex s t k

variable (opts ctx ex s t) in
theorem accounts_zero : Accounts opts ctx ex s t 0 s where
  first hpos := absurd hpos (Nat.lt_irrefl 0)
  numbered := rfl
  replays := .nil s
  running _ _ := List.not_mem_nil

section Step

variable (hq : ex.IsQuiet) (htimeout : opts.timeout = none)
include hq htimeout

theorem Accounts.next (h : Accounts opts ctx ex s t k p.state)
    (hp : progressAt opts ctx ex s t k = some p) :
    Accounts opts ctx ex s t (k + 1) (runPass opts ctx ex p).state := by
  have hclock : p.clock.timeout = none := (timeout_of_progressAt hp).trans htimeout
  refine ⟨fun _ => ?_, ?_, ?_, ?_⟩
  · rw [shownPasses_succ hp, List.head?_append]
    cases k with
    | zero =>
      obtain rfl := Option.some.inj hp
      rw [shown_runPass hq]
      rfl
    | succ k => rw [h.first k.succ_pos, Option.some_or]
  · rw [shownPasses_succ hp, List.filterMap_append, h.numbered, passNumbers_shown hq,
      pass_of_progressAt hp, List.range'_1_concat, Nat.add_comm]
  · rw [shownPasses_succ hp, firstCalls_succ hp]
    exact h.replays.append (replays_shown hq hclock)
  · intro passes commands hm
    rw [shownPasses_succ hp, List.mem_append] at hm
    rcases hm with hm | hm
    · exact h.running passes commands hm
    · exact completed_notMem_shown hq p passes commands hm

theorem accounts_of_progressAt (hp : progressAt opts ctx ex s t k = some p) :
    Accounts opts ctx ex s t k p.state := by
  induction k generalizing p with
  | zero =>
    obtain rfl := Option.some.inj hp
    exact accounts_zero opts ctx ex s t
  | succ k ih =>
    obtain ⟨p', hp', hv⟩ := progressAt_succ.mp hp
    rw [(continues_of_verdict hv).state]
    exact (ih hp').next hq htimeout hp'

end Step

/-- What an audit of a log of `n` passes finds out. -/
structure Audits (opts : Options) (ctx : Context) (ex : Executor σ) (s : σ) (t : Text) (n : Nat)
    (log : List Event) : Prop where
  made : ∀ k, (∃ p, progressAt opts ctx ex s t k = some p) ↔ k < n
  first : log.head? = some (.passStarted 1 (Text.byteLength t))
  numbered : log.filterMap Event.passNumber? = List.range' 1 n
  invoked : log.filterMap Event.invoked? = calls opts ctx ex s t
  failed : ∀ before id after, log = before ++ .invoking id :: after → ∀ e,
    after.head? = some (.commandFailed id e) ↔
      (ex.call (ex.stateAfter s (before.filterMap Event.invoked?)) id).1 = .error e
  behind : ∀ before id e after, log = before ++ .commandFailed id e :: after →
    before.getLast? = some (.invoking id)
  state : (resolve opts ctx ex s t).state =
    ex.stateAfter s (log.filterMap Event.invoked?)
  completed : (∃ passes commands, .completed passes commands ∈ log) ↔
    ∃ u, (resolve opts ctx ex s t).result = .ok u
  last : ∀ before passes commands after, log = before ++ .completed passes commands :: after →
    after = [] ∧ passes = n ∧ commands = (calls opts ctx ex s t).length

section Closing

variable {run : CommandRun σ} {result : Except ResolveError Text} {e : Event}

theorem shows_of_mem_closing (he : e ∈ closing opts p result run) :
    Log.Filter.resolver.shows e = true := by
  rcases cases_of_mem_closing he with ⟨passes, commands, rfl⟩ | ⟨timeout, rfl⟩ <;>
    exact Log.Filter.shows_resolver _

theorem other_of_mem_closing (he : e ∈ closing opts p result run) : e.tellsCall = false := by
  rcases cases_of_mem_closing he with ⟨passes, commands, rfl⟩ | ⟨timeout, rfl⟩ <;> rfl

theorem passNumber?_of_mem_closing (he : e ∈ closing opts p result run) :
    e.passNumber? = none := by
  rcases cases_of_mem_closing he with ⟨passes, commands, rfl⟩ | ⟨timeout, rfl⟩ <;> rfl

end Closing

/-- Events that tell of the end just if there is a success, and then last. -/
inductive EndsLast (passes commands : Nat) : Except ResolveError Text → List Event → Prop where
  | completed {u : Text} {front : List Event}
    (hfront : ∀ passes commands, .completed passes commands ∉ front) :
    EndsLast passes commands (.ok u) (front ++ [.completed passes commands])
  | failed {error : ResolveError} {events : List Event}
    (hevents : ∀ passes commands, .completed passes commands ∉ events) :
    EndsLast passes commands (.error error) events

theorem eq_of_concat_eq_append_cons {α : Type} {front before after : List α} {a b : α}
    (h : front ++ [a] = before ++ b :: after) (hb : b ∉ front) : after = [] ∧ b = a := by
  rcases List.append_eq_append_iff.mp h with ⟨rest, -, hrest⟩ | ⟨rest, hfront, hrest⟩
  · cases rest with
    | nil =>
      obtain ⟨rfl, rfl⟩ := List.cons.inj hrest
      exact ⟨rfl, rfl⟩
    | cons c rest => simp at hrest
  · cases rest with
    | nil =>
      obtain ⟨rfl, rfl⟩ := List.cons.inj hrest
      exact ⟨rfl, rfl⟩
    | cons c rest =>
      obtain ⟨rfl, -⟩ := List.cons.inj hrest
      exact absurd (by simp [hfront]) hb

namespace EndsLast

variable {passes commands passes' commands' : Nat} {result : Except ResolveError Text}
  {events before after : List Event}

theorem completed_iff (h : EndsLast passes commands result events) :
    (∃ passes commands, .completed passes commands ∈ events) ↔ ∃ u, result = .ok u := by
  cases h with
  | completed hfront =>
    refine ⟨fun _ => ⟨_, rfl⟩, fun _ => ⟨passes, commands, ?_⟩⟩
    exact List.mem_append_right _ (List.mem_singleton_self _)
  | failed hevents =>
    constructor
    · rintro ⟨passes', commands', hm⟩
      exact absurd hm (hevents passes' commands')
    · rintro ⟨u, hu⟩
      cases hu

theorem last (h : EndsLast passes commands result events)
    (hcut : events = before ++ .completed passes' commands' :: after) :
    after = [] ∧ passes' = passes ∧ commands' = commands := by
  cases h with
  | completed hfront =>
    obtain ⟨hafter, heq⟩ := eq_of_concat_eq_append_cons hcut (hfront passes' commands')
    exact ⟨hafter, Event.completed.inj heq⟩
  | failed hevents =>
    refine absurd ?_ (hevents passes' commands')
    rw [hcut]
    exact List.mem_append_right _ List.mem_cons_self

end EndsLast

variable (opts ctx ex s t) in
/-- What a resolution tells, as far as it is shown. -/
def shown : List Event :=
  (resolve opts ctx ex s t).events.filter Log.Filter.resolver.shows

section Resolve

variable {result : Except ResolveError Text} (hp : progressAt opts ctx ex s t k = some p)
  (hv : verdict opts ctx ex p = .stop result)
include hp hv

theorem shown_eq : shown opts ctx ex s t =
    shownPasses opts ctx ex s t (k + 1) ++ closing opts p result (runPass opts ctx ex p) := by
  have hclosing : (closing opts p result (runPass opts ctx ex p)).filter
      Log.Filter.resolver.shows = closing opts p result (runPass opts ctx ex p) :=
    List.filter_eq_self.mpr fun e he => shows_of_mem_closing he
  rw [shown, events_resolve hp hv, List.filter_append, ← shownPasses, hclosing]

variable (hq : ex.IsQuiet) (htimeout : opts.timeout = none)
include hq htimeout

theorem accounts_of_stop : Accounts opts ctx ex s t (k + 1) (resolve opts ctx ex s t).state := by
  rw [(resolve_of_stop hp hv).2]
  exact (accounts_of_progressAt hq htimeout hp).next hq htimeout hp

theorem head?_shown :
    (shown opts ctx ex s t).head? = some (.passStarted 1 (Text.byteLength t)) := by
  have hfirst := (accounts_of_stop hp hv hq htimeout).first k.succ_pos
  rw [shown_eq hp hv, List.head?_append, hfirst, Option.some_or]

theorem passNumbers_resolve :
    (shown opts ctx ex s t).filterMap Event.passNumber? = List.range' 1 (k + 1) := by
  have hclosing :
      (closing opts p result (runPass opts ctx ex p)).filterMap Event.passNumber? = [] :=
    List.filterMap_eq_nil_iff.mpr fun e he => passNumber?_of_mem_closing he
  rw [shown_eq hp hv, List.filterMap_append, (accounts_of_stop hp hv hq htimeout).numbered,
    hclosing, List.append_nil]

theorem replays_shown_resolve :
    Replays ex s (shown opts ctx ex s t) (calls opts ctx ex s t)
      (resolve opts ctx ex s t).state := by
  have hpasses := (accounts_of_stop hp hv hq htimeout).replays
  have hclosing : Replays ex (resolve opts ctx ex s t).state
      (closing opts p result (runPass opts ctx ex p)) [] (resolve opts ctx ex s t).state :=
    .of_other fun e he => other_of_mem_closing he
  rw [shown_eq hp hv, calls_eq_firstCalls hp hv]
  simpa using hpasses.append hclosing

theorem endsLast_shown :
    EndsLast (k + 1) (calls opts ctx ex s t).length result (shown opts ctx ex s t) := by
  have haccounts := accounts_of_stop hp hv hq htimeout
  rw [shown_eq hp hv]
  rcases closing_cases opts p (runPass opts ctx ex p) result with
    ⟨u, rfl, hclosing⟩ | ⟨⟨error, rfl⟩, hclosing⟩
  · rw [hclosing, pass_of_progressAt hp, ← length_calls_of_ok hp hv]
    exact .completed haccounts.running
  · refine .failed fun passes commands hm => ?_
    rcases List.mem_append.mp hm with hm | hm
    · exact haccounts.running passes commands hm
    · obtain ⟨timeout, heq⟩ := hclosing _ hm
      cases heq

end Resolve

variable (opts ctx s t) in
/-- The log of a quiet executor stands an audit. -/
theorem audits_of_quiet (hq : ex.IsQuiet) (htimeout : opts.timeout = none) :
    ∃ n, Audits opts ctx ex s t n (shown opts ctx ex s t) := by
  obtain ⟨k, p, result, hp, hv⟩ := exists_stop opts ctx ex s t
  have hreplays := replays_shown_resolve hp hv hq htimeout
  have hend := endsLast_shown hp hv hq htimeout
  have hresult := (resolve_of_stop hp hv).1
  exact ⟨k + 1,
    { made := fun j => (progressAt_iff_le hp hv j).trans Nat.lt_succ_iff.symm
      first := head?_shown hp hv hq htimeout
      numbered := passNumbers_resolve hp hv hq htimeout
      invoked := hreplays.filterMap_invoked?
      failed := fun _ _ _ hcut _ => hreplays.failed_iff hcut
      behind := fun _ _ _ _ hcut => hreplays.getLast?_of_failed hcut
      state := by rw [hreplays.filterMap_invoked?, hreplays.last_eq]
      completed := by rw [hresult, hend.completed_iff]
      last := fun _ _ _ _ hcut => hend.last hcut }⟩

variable (opts ctx ex s t) in
/-- What a resolution logs of its own, without what the executor tells between. -/
def trail : List Event :=
  shown opts ctx ex.silent s t

theorem Audits.of_silent {n : Nat} {log : List Event} (h : Audits opts ctx ex.silent s t n log) :
    Audits opts ctx ex s t n log := by
  obtain ⟨hresult, hstate, -⟩ := resolve_silent opts ctx ex s t
  have hcalls := calls_silent opts ctx ex s t
  exact
    { made := fun k => by rw [progressAt_silent, h.made]
      first := h.first
      numbered := h.numbered
      invoked := h.invoked.trans hcalls
      failed := h.failed
      behind := h.behind
      state := hstate.trans h.state
      completed := by rw [hresult, h.completed]
      last := by rw [← hcalls]; exact h.last }

variable (opts ctx ex s t) in
/-- Without a timeout the log of a resolution is an audit trail. What the executor tells stands
between, each notice behind its call, and does not touch the trail if the log does not show it. -/
theorem trail_audits (htimeout : opts.timeout = none) :
    (resolve opts ctx ex s t).events = ex.interleave (resolve opts ctx ex.silent s t).events ∧
      ((∀ id, ∀ e ∈ ex.notices id, Log.Filter.resolver.shows e = false) →
        shown opts ctx ex s t = trail opts ctx ex s t) ∧
      ∃ n, Audits opts ctx ex s t n (trail opts ctx ex s t) := by
  have hevents := (resolve_silent opts ctx ex s t).2.2
  refine ⟨hevents, ?_, ?_⟩
  · intro hhidden
    rw [trail, shown, shown, hevents, filter_interleave ex hhidden]
  · obtain ⟨n, haudits⟩ := audits_of_quiet opts ctx s t ex.silent_isQuiet htimeout
    exact ⟨n, haudits.of_silent⟩

end Passes

def tiring : Executor Nat where
  call n id :=
    (if n = 0 then .ok (some (.text (Placeholder.env.written (some ['A']))))
      else .error (.notFound id), n + 1)
  notices id := [.runningLine id []]

def commanding : Context where
  environment _ := some (Placeholder.command.written (some ['a']))

theorem trail_tiring :
    let opts : Options := { recursive := true }
    let t := Placeholder.command.written (some ['a']) ++ Placeholder.command.written (some ['b'])
    shown opts commanding tiring 0 t =
        [.passStarted 1 24, .invoking ['a'], .invoking ['b'],
          .commandFailed ['b'] (.notFound ['b']), .passStarted 2 8, .invoking ['a'],
          .commandFailed ['a'] (.notFound ['a']), .completed 2 3] ∧
      ∃ n, Audits opts commanding tiring 0 t n (shown opts commanding tiring 0 t) := by
  intro opts t
  obtain ⟨-, hshown, n, haudits⟩ := trail_audits opts commanding tiring 0 t rfl
  have hhidden : ∀ id, ∀ e ∈ tiring.notices id, Log.Filter.resolver.shows e = false := by
    intro id e he
    obtain rfl := List.mem_singleton.mp he
    exact Log.Filter.shows_resolver _
  have htrail := hshown hhidden
  refine ⟨?_, n, htrail ▸ haudits⟩
  rw [htrail]
  decide +kernel

end Interpolation
