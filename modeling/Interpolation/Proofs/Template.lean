import Interpolation.Proofs.Guarantee

/-!
# Written templates

A template can be written piece by piece: literal text without a dollar sign and tokens whose
arguments have none. Every dollar sign then begins one of these tokens, so each search finds just
what has been written. As long as no value and no answer brings a dollar sign in, a resolution fills
in every piece where it stands, and one pass is all it takes.
-/

namespace Interpolation

namespace Placeholder

variable {p q : Placeholder} {x : Option Text}

theorem read?_eq_none {c : Char} (hc : c ≠ '$') (p : Placeholder) (t : Text) :
    p.read? (c :: t) = none := by
  cases h : p.read? (c :: t) with
  | none => rfl
  | some found =>
    have ht := (read?_eq_some.mp h).1
    cases hx : found.1 <;> rw [hx] at ht <;> simp [written, opening, hc] at ht

theorem find?_append_free {b : Text} (hb : '$' ∉ b) (p : Placeholder) (t : Text) :
    p.find? (b ++ t) = (p.find? t).map fun f => { f with before := b ++ f.before } := by
  induction b with
  | nil => simp
  | cons c b ih =>
    simp only [List.mem_cons, not_or] at hb
    rw [List.cons_append, find?, read?_eq_none (Ne.symm hb.1), ih hb.2]
    cases p.find? t <;> rfl

theorem find?_free {b : Text} (hb : '$' ∉ b) (p : Placeholder) : p.find? b = none := by
  have h := find?_append_free hb p []
  rwa [List.append_nil] at h

theorem find?_written (hx : p.Admits x) (t : Text) :
    p.find? (p.written x ++ t) = some ⟨[], x, t⟩ := by
  have hr : p.read? (p.written x ++ t) = some (x, t) := read?_eq_some.mpr ⟨rfl, hx⟩
  cases hw : p.written x ++ t with
  | nil => simp [hw, read?] at hr
  | cons c u =>
    rw [hw] at hr
    rw [find?, hr]

theorem find?_written_of_ne (hx : p.Admits x) (hfree : ∀ a ∈ x, '$' ∉ a) (h : q ≠ p) :
    q.find? (p.written x) = none := by
  obtain ⟨u, hu, hdollar⟩ := written_eq_dollar (p := p) hfree
  have hr : p.read? (p.written x) = some (x, []) := read?_eq_some.mpr ⟨by simp, hx⟩
  rw [hu] at hr ⊢
  have hn : q.read? ('$' :: u) = none := by
    cases hq : q.read? ('$' :: u) with
    | none => rfl
    | some found => exact absurd (read?_unique hq hr).1 h
  rw [find?, hn, find?_free hdollar]
  rfl

theorem eq_command (h : p.isCommand = true) : p = .command := by
  cases p <;> simp [isCommand] at h ⊢

end Placeholder

section Pass

variable (ctx : Context) (order : List Placeholder)

theorem passOver_append_free {b : Text} (hb : '$' ∉ b) (t : Text) :
    passOver ctx order (b ++ t) = b ++ passOver ctx order t := by
  induction order generalizing t with
  | nil => rw [passOver_nil, passOver_nil]
  | cons p order ih =>
    rw [passOver_cons, passOver_cons, Placeholder.split_eq p (b ++ t),
      Placeholder.find?_append_free hb, Placeholder.split_eq p t]
    cases p.find? t with
    | none => exact ih t
    | some f => simp [ih f.before]

variable {ctx order} {p : Placeholder} {x : Option Text}

theorem settle_written (hx : p.Admits x) (hfree : ∀ a ∈ x, '$' ∉ a) :
    settle ctx order (p.written x) = if p ∈ order then ctx.value p x else p.written x := by
  have hfind := Placeholder.find?_written hx []
  rw [List.append_nil] at hfind
  rw [settle]
  cases hf : firstFound? order (p.written x) with
  | none =>
    have hp : p ∉ order := by
      intro hm
      have hnone := List.findSome?_eq_none_iff.mp hf p hm
      rw [hfind] at hnone
      cases hnone
    rw [if_neg hp]
  | some found =>
    obtain ⟨q, hm, hq⟩ := List.exists_of_findSome?_eq_some hf
    by_cases hqp : q = p
    · subst hqp
      rw [hfind] at hq
      obtain rfl := Option.some.inj hq
      rw [if_pos hm]
      rfl
    · rw [Placeholder.find?_written_of_ne hx hfree hqp] at hq
      cases hq

theorem passOver_written (hx : p.Admits x) (hfree : ∀ a ∈ x, '$' ∉ a) (t : Text) :
    passOver ctx order (p.written x ++ t) =
      (if p ∈ order then ctx.value p x else p.written x) ++ passOver ctx order t := by
  obtain ⟨w, hw, hwb⟩ := Placeholder.written_eq hx
  rw [← settle_written hx hfree, hw, List.append_assoc]
  change passOver ctx order (w ++ '}' :: t) = _
  rw [passOver_append ctx order hwb, passOver_stretch ctx order hwb]

end Pass

/-- A piece of a template: text without a dollar sign, or a token whose argument has none. -/
inductive Piece where
  | literal (t : Text) (free : '$' ∉ t)
  | token (p : Placeholder) (argument : Option Text) (admits : p.Admits argument)
    (free : ∀ a ∈ argument, '$' ∉ a)

namespace Piece

/-- The piece as it is written in a template. -/
def written : Piece → Text
  | literal t _ => t
  | token p x _ _ => p.written x

def id? : Piece → Option Text
  | token .command x _ _ => x
  | _ => none

def value (ctx : Context) : Piece → Text
  | literal t _ => t
  | token p x _ _ => ctx.value p x

/-- The ids of the commands that some pieces call, in order. -/
def ids (pieces : List Piece) : List Text :=
  pieces.filterMap id?

theorem substitute_written (ctx : Context) (pieces : List Piece) :
    substitute ctx (pieces.flatMap written) = pieces.flatMap (value ctx) := by
  rw [substitute_eq_passOver]
  induction pieces with
  | nil => exact passOver_open ctx _ List.not_mem_nil
  | cons piece pieces ih =>
    rw [List.flatMap_cons, List.flatMap_cons, ← ih]
    cases piece with
    | literal t free => exact passOver_append_free ctx _ free _
    | token p x admits free =>
      change passOver _ _ (p.written x ++ _) = ctx.value p x ++ _
      rw [passOver_written admits free]
      split
      · rfl
      · next hm =>
        rw [mem_substitutionOrder, Bool.not_eq_false] at hm
        rw [Placeholder.eq_command hm]
        rfl

section Outcomes

variable {σ : Type} (ctx : Context) (ex : Executor σ)

/-- What some pieces come to, in order, and the state of the executor behind them. A command token
comes to what its command replies, any other piece to its value. -/
def outcomes : σ → List Piece → List Text × σ
  | s, [] => ([], s)
  | s, piece :: pieces =>
    match piece.id? with
    | none =>
      let (texts, last) := outcomes s pieces
      (piece.value ctx :: texts, last)
    | some id =>
      let (reply, next) := ex.call s id
      let (texts, last) := outcomes next pieces
      (reply.replacement :: texts, last)

variable {ctx ex} {s : σ} {piece : Piece} {id : Text}

theorem outcomes_of_none (h : piece.id? = none) (pieces : List Piece) :
    outcomes ctx ex s (piece :: pieces) =
      (piece.value ctx :: (outcomes ctx ex s pieces).1, (outcomes ctx ex s pieces).2) := by
  simp only [outcomes, h]

theorem outcomes_of_some (h : piece.id? = some id) (pieces : List Piece) :
    outcomes ctx ex s (piece :: pieces) =
      ((ex.call s id).1.replacement :: (outcomes ctx ex (ex.call s id).2 pieces).1,
        (outcomes ctx ex (ex.call s id).2 pieces).2) := by
  simp only [outcomes, h]

theorem ids_of_none (h : piece.id? = none) (pieces : List Piece) :
    ids (piece :: pieces) = ids pieces :=
  List.filterMap_cons_none h

theorem ids_of_some (h : piece.id? = some id) (pieces : List Piece) :
    ids (piece :: pieces) = id :: ids pieces :=
  List.filterMap_cons_some h

variable (ctx) in
theorem value_of_some (h : piece.id? = some id) :
    piece.value ctx = Placeholder.command.written (some id) ∧
      Placeholder.command.Admits (some id) := by
  cases piece with
  | literal t free => cases h
  | token p x admits free =>
    cases p with
    | command =>
      obtain rfl : x = some id := h
      exact ⟨rfl, admits⟩
    | _ => cases h

/-- The commands of a template are called from left to right, and each reply stands where the token
of its command stood. In front of the pieces to come stands what those before have come to. -/
theorem runCommands_outcomes (limit left : Nat) (clock : Clock) (s : σ) (b : Text)
    {pieces : List Piece} (hclock : clock.timeout = none) (hb : '$' ∉ b)
    (hfree : ∀ text ∈ (outcomes ctx ex s pieces).1, '$' ∉ text)
    (hleft : (ids pieces).length ≤ left) :
    (runCommands ex limit left clock s (b ++ pieces.flatMap (value ctx))).result =
        .ok (b ++ (outcomes ctx ex s pieces).1.flatten) ∧
      (runCommands ex limit left clock s (b ++ pieces.flatMap (value ctx))).state =
        (outcomes ctx ex s pieces).2 ∧
      commandCalls ex limit left clock s (b ++ pieces.flatMap (value ctx)) = ids pieces := by
  induction pieces generalizing left clock s b with
  | nil =>
    have hf : Placeholder.command.find? (b ++ [].flatMap (value ctx)) = none := by
      rw [List.flatMap_nil, List.append_nil]
      exact Placeholder.find?_free hb _
    rw [runCommands_none hf, commandCalls_none hf]
    exact ⟨rfl, rfl, rfl⟩
  | cons piece pieces ih =>
    cases hid : piece.id? with
    | none =>
      rw [outcomes_of_none hid] at hfree ⊢
      rw [ids_of_none hid] at hleft ⊢
      obtain ⟨hvalue, hfree⟩ := List.forall_mem_cons.mp hfree
      have hrest := ih left clock s (b ++ piece.value ctx) hclock (by simp [hb, hvalue]) hfree hleft
      rwa [List.append_assoc, List.append_assoc] at hrest
    | some id =>
      rw [outcomes_of_some hid] at hfree ⊢
      rw [ids_of_some hid] at hleft ⊢
      obtain ⟨hreply, hfree⟩ := List.forall_mem_cons.mp hfree
      obtain ⟨hwritten, hadmits⟩ := value_of_some ctx hid
      have hf : Placeholder.command.find? (b ++ (piece :: pieces).flatMap (value ctx)) =
          some ⟨b, some id, pieces.flatMap (value ctx)⟩ := by
        rw [List.flatMap_cons, hwritten, Placeholder.find?_append_free hb,
          Placeholder.find?_written hadmits, Option.map_some, List.append_nil]
      obtain ⟨left, rfl⟩ := Nat.exists_eq_add_of_le' (Nat.le_trans (Nat.le_add_left 1 _) hleft)
      have hw := wait?_of_none hclock (ex.delay s id)
      obtain ⟨hresult, hstate, hcalls⟩ := ih left
        { clock with elapsed := clock.elapsed + ex.delay s id } (ex.call s id).2
        (b ++ (ex.call s id).1.replacement) hclock (by simp [hb, hreply]) hfree
        (Nat.le_of_succ_le_succ hleft)
      rw [runCommands_call hf hw, commandCalls_call hf hw]
      rw [List.append_assoc b _ (List.flatten _)] at hresult
      exact ⟨hresult, hstate, congrArg (id :: ·) hcalls⟩

end Outcomes

end Piece

/-- What a written template means. Let its pieces come to texts without dollar signs, each command
called in the state that those before have left. Then a resolution that may call as many commands
as there are command tokens comes to these texts, put together, under any other limits. It calls the
commands of the tokens from left to right, once for each token, and nothing else. -/
theorem resolve_written {σ : Type} (opts : Options) (ctx : Context) (ex : Executor σ) (s : σ)
    (pieces : List Piece) (htimeout : opts.timeout = none)
    (hfree : ∀ text ∈ (Piece.outcomes ctx ex s pieces).1, '$' ∉ text)
    (hcommands : (Piece.ids pieces).length ≤ opts.maxCommands) :
    let t := pieces.flatMap Piece.written
    (resolve opts ctx ex s t).result = .ok (Piece.outcomes ctx ex s pieces).1.flatten ∧
      calls opts ctx ex s t = Piece.ids pieces ∧
      (resolve opts ctx ex s t).state = (Piece.outcomes ctx ex s pieces).2 := by
  intro t
  -- one pass: it fills in the values, then its commands fill in the replies
  have hsubstitute : substitute ctx t = pieces.flatMap (Piece.value ctx) :=
    Piece.substitute_written ctx pieces
  obtain ⟨hresult, hstate, hcalls⟩ := Piece.runCommands_outcomes opts.maxCommands
    opts.maxCommands { timeout := opts.timeout } s [] htimeout List.not_mem_nil hfree hcommands
  simp only [List.nil_append, ← hsubstitute] at hresult hstate hcalls
  have hdone : hasResidual (Piece.outcomes ctx ex s pieces).1.flatten = false :=
    hasResidual_of_none (Placeholder.find?_free (by simpa using hfree))
  obtain ⟨hr, hs, hc⟩ := resolve_of_start_done rfl hresult (by rw [hdone, Bool.and_false])
  exact ⟨hr, hc.trans hcalls, hs.trans hstate⟩

def answering : Executor (List Text) :=
  .scripted [(['n'], [.ok (some (.text ['1'])), .error (.notFound ['n'])])]

def bracedTemplate : List Piece :=
  [.literal ['{'] (by decide), .token .env (some ['A']) (by decide) (by decide),
    .token .command (some ['n']) (by decide) (by decide), .literal ['}'] (by decide),
    .token .command (some ['n']) (by decide) (by decide)]

theorem resolve_bracedTemplate :
    let opts : Options := { recursive := true, maxDepth := 0, maxCommands := 2 }
    let ctx : Context := { environment := fun _ => some ['x', ':', '}'] }
    (resolve opts ctx answering [] (bracedTemplate.flatMap Piece.written)).result =
        .ok ['{', 'x', ':', '}', '1', '}'] ∧
      calls opts ctx answering [] (bracedTemplate.flatMap Piece.written) = [['n'], ['n']] := by
  intro opts ctx
  have houtcomes : Piece.outcomes ctx answering [] bracedTemplate =
      ([['{'], ['x', ':', '}'], ['1'], ['}'], []], [['n'], ['n']]) := rfl
  obtain ⟨hresult, hcalls, -⟩ := resolve_written opts ctx answering [] bracedTemplate rfl
    (by rw [houtcomes]; decide) (by decide)
  rw [houtcomes] at hresult
  exact ⟨hresult, hcalls⟩

end Interpolation
