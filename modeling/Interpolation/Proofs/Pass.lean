import Interpolation.Proofs.Stretch
import Interpolation.Substitution

/-!
# A pass goes over a text stretch by stretch

A pass replaces at most one token of a stretch: that of the first placeholder in its order that has
one there. What is left of the stretch has no closing brace any more, and neither a value that has
been put in nor the place of a cut can be part of a later token. So the pass over a text is the
passes over its stretches, put together.
-/

namespace Interpolation

variable (ctx : Context) (order : List Placeholder)

namespace Segment

@[simp] theorem join_append (xs ys : List Segment) : join (xs ++ ys) = join xs ++ join ys :=
  List.flatMap_append

@[simp] theorem pass_append (xs ys : List Segment) :
    pass ctx order (xs ++ ys) = pass ctx order xs ++ pass ctx order ys := by
  induction order generalizing xs ys with
  | nil => rfl
  | cons p order ih =>
    simp only [pass, List.foldl_cons, List.flatMap_append] at ih ⊢
    exact ih _ _

theorem pass_nil : pass ctx order [] = [] := by
  induction order with
  | nil => rfl
  | cons p order ih => simpa [pass] using ih

theorem pass_resolved (p : Placeholder) (t : Text) :
    pass ctx order [resolved p t] = [resolved p t] := by
  induction order with
  | nil => rfl
  | cons q order ih => simpa [pass, replace] using ih

end Segment

/-- The text after a pass that tries the placeholders of some order. -/
def passOver (t : Text) : Text :=
  Segment.join (Segment.pass ctx order [.template t])

theorem substitute_eq_passOver (t : Text) :
    substitute ctx t = passOver ctx Placeholder.substitutionOrder t := rfl

theorem passOver_nil (t : Text) : passOver ctx [] t = t := by
  simp [passOver, Segment.pass, Segment.join, Segment.text]

private theorem join_pass_found (found : List (Text × Option Text)) (p : Placeholder) :
    Segment.join (Segment.pass ctx order
      (found.flatMap fun f => [.template f.1, .resolved p (ctx.value p f.2)])) =
      found.flatMap fun f => passOver ctx order f.1 ++ ctx.value p f.2 := by
  induction found with
  | nil => simp [Segment.pass_nil, Segment.join]
  | cons f found ih =>
    have hcut : [Segment.template f.1, .resolved p (ctx.value p f.2)] =
        [.template f.1] ++ [.resolved p (ctx.value p f.2)] := rfl
    rw [List.flatMap_cons, List.flatMap_cons, Segment.pass_append, Segment.join_append, ih, hcut,
      Segment.pass_append, Segment.pass_resolved, Segment.join_append]
    simp [passOver, Segment.join, Segment.text]

/-- The first placeholder of an order cuts the text, and the others go over its pieces. -/
theorem passOver_cons (p : Placeholder) (t : Text) :
    passOver ctx (p :: order) t =
      (p.split t).1.flatMap (fun f => passOver ctx order f.1 ++ ctx.value p f.2) ++
        passOver ctx order (p.split t).2 := by
  have hreplace : Segment.replace ctx p (.template t) =
      (p.split t).1.flatMap (fun f => [.template f.1, .resolved p (ctx.value p f.2)]) ++
        [.template (p.split t).2] := rfl
  change Segment.join (Segment.pass ctx order (Segment.replace ctx p (.template t) ++ [])) = _
  rw [List.append_nil, hreplace, Segment.pass_append, Segment.join_append, join_pass_found]
  rfl

theorem passOver_of_none {t : Text} (h : ∀ p ∈ order, p.find? t = none) :
    passOver ctx order t = t := by
  induction order with
  | nil => exact passOver_nil ctx t
  | cons p order ih =>
    obtain ⟨hp, horder⟩ := List.forall_mem_cons.mp h
    rw [passOver_cons, Placeholder.split_eq, hp, List.flatMap_nil, List.nil_append, ih horder]

theorem passOver_open {a : Text} (ha : '}' ∉ a) : passOver ctx order a = a :=
  passOver_of_none ctx order fun _ _ => Placeholder.find?_open ha

theorem passOver_append {a : Text} (ha : '}' ∉ a) (t : Text) :
    passOver ctx order (a ++ '}' :: t) =
      passOver ctx order (a ++ ['}']) ++ passOver ctx order t := by
  induction order generalizing t with
  | nil => simp [passOver_nil]
  | cons p order ih =>
    rw [passOver_cons, passOver_cons, passOver_cons, Placeholder.split_eq p (a ++ '}' :: t),
      Placeholder.split_eq p (a ++ ['}']), Placeholder.find?_append ha]
    cases hs : p.find? (a ++ ['}']) with
    | some f =>
      have hafter := Placeholder.after_of_find? ha hs
      simp [hafter, Placeholder.split_open, passOver_open]
    | none =>
      rw [Placeholder.split_eq p t]
      cases p.find? t with
      | none => simp [ih t]
      | some f => simp [ih f.before]

/-- The first placeholder of an order that has a token in a text, with the leftmost one. -/
def firstFound? (t : Text) : Option (Placeholder × Placeholder.Found) :=
  order.findSome? fun p => (p.find? t).map fun f => (p, f)

theorem find?_of_firstFound? {order : List Placeholder} {t : Text} {p : Placeholder}
    {f : Placeholder.Found} (h : firstFound? order t = some (p, f)) : p.find? t = some f := by
  obtain ⟨q, -, hq⟩ := List.exists_of_findSome?_eq_some h
  obtain ⟨g, hg, heq⟩ := Option.map_eq_some_iff.mp hq
  obtain ⟨rfl, rfl⟩ := Prod.mk.inj heq
  exact hg

/-- A stretch after a pass. -/
def settle (s : Text) : Text :=
  match firstFound? order s with
  | some (p, f) => f.before ++ ctx.value p f.argument
  | none => s

theorem passOver_stretch {a : Text} (ha : '}' ∉ a) :
    passOver ctx order (a ++ ['}']) = settle ctx order (a ++ ['}']) := by
  induction order with
  | nil => exact passOver_nil ctx _
  | cons p order ih =>
    rw [passOver_cons, Placeholder.split_eq, settle, firstFound?, List.findSome?_cons]
    cases hs : p.find? (a ++ ['}']) with
    | some f =>
      have hafter := Placeholder.after_of_find? ha hs
      have hbefore := Placeholder.before_of_find? ha hs
      simp [hafter, Placeholder.split_open, passOver_open, hbefore]
    | none => simpa [settle, firstFound?] using ih

theorem firstFound?_open {a : Text} (ha : '}' ∉ a) : firstFound? order a = none := by
  simp [firstFound?, Placeholder.find?_open ha]

theorem passOver_eq_flatMap (t : Text) :
    passOver ctx order t = (Text.stretches t).flatMap (settle ctx order) := by
  induction t using Text.stretch_induction with
  | last a ha =>
    rw [passOver_open ctx order ha]
    by_cases hne : a = []
    · simp [hne, Text.stretches]
    · simp [Text.stretches_open ha hne, settle, firstFound?_open order ha]
  | more a t ha ih =>
    rw [passOver_append ctx order ha, passOver_stretch ctx order ha, ih,
      Text.stretches_append ha, List.flatMap_cons]

theorem substitute_eq_flatMap (t : Text) :
    substitute ctx t = (Text.stretches t).flatMap (settle ctx Placeholder.substitutionOrder) := by
  rw [substitute_eq_passOver, passOver_eq_flatMap]

end Interpolation
