import Interpolation.Token

/-!
# Stretches of a text

A text is cut behind every closing brace. A token holds one closing brace, its last character, so
each token lies within one stretch and ends where the stretch ends. Looking for the tokens of a
placeholder is therefore the same as looking into one stretch after the other.
-/

namespace Interpolation

namespace Text

/-- Cut a text behind every closing brace. -/
def stretches : Text → List Text
  | [] => []
  | c :: t =>
    if c = '}' then [c] :: stretches t
    else
      match stretches t with
      | [] => [[c]]
      | s :: rest => (c :: s) :: rest

theorem stretches_append {a : Text} (ha : '}' ∉ a) (t : Text) :
    stretches (a ++ '}' :: t) = (a ++ ['}']) :: stretches t := by
  induction a with
  | nil => simp [stretches]
  | cons c a ih =>
    simp only [List.mem_cons, not_or] at ha
    simp [stretches, Ne.symm ha.1, ih ha.2]

theorem stretches_open {a : Text} (ha : '}' ∉ a) (hne : a ≠ []) : stretches a = [a] := by
  induction a with
  | nil => exact absurd rfl hne
  | cons c a ih =>
    simp only [List.mem_cons, not_or] at ha
    cases a with
    | nil => simp [stretches, Ne.symm ha.1]
    | cons d a => rw [stretches, if_neg (Ne.symm ha.1), ih ha.2 (by simp)]

theorem stretch_cases (t : Text) : '}' ∉ t ∨ ∃ a u, '}' ∉ a ∧ t = a ++ '}' :: u := by
  by_cases h : '}' ∈ t
  · obtain ⟨a, u, rfl, ha⟩ := List.eq_append_cons_of_mem h
    exact Or.inr ⟨a, u, ha, rfl⟩
  · exact Or.inl h

/-- Induction over the stretches of a text. -/
theorem stretch_induction {P : Text → Prop} (last : ∀ a, '}' ∉ a → P a)
    (more : ∀ a t, '}' ∉ a → P t → P (a ++ '}' :: t)) (t : Text) : P t := by
  induction h : t.length using Nat.strongRecOn generalizing t with
  | ind n ih =>
    rcases stretch_cases t with ha | ⟨a, u, ha, rfl⟩
    · exact last t ha
    · refine more a u ha (ih u.length ?_ u rfl)
      simp only [List.length_append, List.length_cons] at h
      omega

theorem append_brace_inj {a b t u : Text} (ha : '}' ∉ a) (hb : '}' ∉ b) :
    a ++ '}' :: t = b ++ '}' :: u ↔ a = b ∧ t = u := by
  induction a generalizing b with
  | nil => cases b <;> simp_all [eq_comm]
  | cons c a ih => cases b <;> simp_all [eq_comm, and_assoc]

end Text

namespace Placeholder

variable {p : Placeholder}

theorem brace_notMem_opening (p : Placeholder) : '}' ∉ p.opening := by
  cases p <;> decide

/-- The only closing brace of a token is its last character. -/
theorem written_eq {x : Option Text} (hx : p.Admits x) :
    ∃ u, p.written x = u ++ ['}'] ∧ '}' ∉ u := by
  have hp := brace_notMem_opening p
  cases x with
  | none => exact ⟨p.opening, rfl, hp⟩
  | some x =>
    refine ⟨p.opening ++ ':' :: x, by simp [written], ?_⟩
    have hx : '}' ∉ x := hx.2.1
    simp [hp, hx]

theorem read?_append {a : Text} (ha : '}' ∉ a) {t rest : Text} {x : Option Text} :
    p.read? (a ++ '}' :: t) = some (x, rest) ↔
      p.written x = a ++ ['}'] ∧ p.Admits x ∧ rest = t := by
  rw [read?_eq_some]
  constructor
  · rintro ⟨ht, hx⟩
    obtain ⟨u, hu, hub⟩ := written_eq hx
    rw [hu, List.append_assoc] at ht
    obtain ⟨rfl, rfl⟩ := (Text.append_brace_inj ha hub).mp ht
    exact ⟨hu, hx, rfl⟩
  · rintro ⟨hw, hx, rfl⟩
    exact ⟨by simp [hw], hx⟩

theorem find?_open {a : Text} (ha : '}' ∉ a) : p.find? a = none := by
  cases h : p.find? a with
  | none => rfl
  | some f =>
    obtain ⟨ht, hx⟩ := eq_of_find? h
    obtain ⟨u, hu, -⟩ := written_eq hx
    rw [ht, hu] at ha
    simp at ha

/-- The leftmost token is in the first stretch, or it is the leftmost one behind it. -/
theorem find?_append {a : Text} (ha : '}' ∉ a) (t : Text) :
    p.find? (a ++ '}' :: t) =
      match p.find? (a ++ ['}']) with
      | some f => some { f with after := t }
      | none => (p.find? t).map fun f => { f with before := a ++ '}' :: f.before } := by
  induction a with
  | nil =>
    have hread (u : Text) : p.read? ('}' :: u) = none := rfl
    simp [find?, hread]
  | cons c a ih =>
    have hca := ha
    have ha : '}' ∉ a := fun hm => ha (List.mem_cons_of_mem _ hm)
    simp only [List.cons_append, find?]
    cases hr : p.read? (c :: (a ++ ['}'])) with
    | some r =>
      obtain ⟨x, rest⟩ := r
      obtain ⟨hw, hx, rfl⟩ := (read?_append hca).mp hr
      have hs : p.read? (c :: (a ++ '}' :: t)) = some (x, t) :=
        (read?_append hca).mpr ⟨hw, hx, rfl⟩
      rw [hs]
    | none =>
      have hn : p.read? (c :: (a ++ '}' :: t)) = none := by
        cases hs : p.read? (c :: (a ++ '}' :: t)) with
        | none => rfl
        | some r =>
          obtain ⟨x, rest⟩ := r
          obtain ⟨hw, hx, rfl⟩ := (read?_append hca).mp hs
          rw [show p.read? (c :: (a ++ ['}'])) = some (x, []) from
            (read?_append hca).mpr ⟨hw, hx, rfl⟩] at hr
          cases hr
      rw [hn, ih ha]
      cases p.find? (a ++ ['}']) <;> cases p.find? t <;> simp

theorem after_of_find? {a : Text} (ha : '}' ∉ a) {f : Found}
    (h : p.find? (a ++ ['}']) = some f) : f.after = [] := by
  have hf := find?_append (p := p) ha []
  rw [h] at hf
  exact congrArg Found.after (Option.some.inj hf)

theorem before_of_find? {a : Text} (ha : '}' ∉ a) {f : Found}
    (h : p.find? (a ++ ['}']) = some f) : '}' ∉ f.before := by
  obtain ⟨ht, hx⟩ := eq_of_find? h
  obtain ⟨u, hu, -⟩ := written_eq hx
  rw [hu, after_of_find? ha h, List.append_nil, ← List.append_assoc] at ht
  have hab := (List.append_inj' ht rfl).1
  rw [hab] at ha
  exact fun hm => ha (List.mem_append_left _ hm)

theorem split_eq (p : Placeholder) (t : Text) :
    p.split t =
      match p.find? t with
      | none => ([], t)
      | some f => ((f.before, f.argument) :: (p.split f.after).1, (p.split f.after).2) := by
  rw [split]
  split <;> simp_all

theorem split_open {a : Text} (ha : '}' ∉ a) : p.split a = ([], a) := by
  rw [split_eq, find?_open ha]

end Placeholder

end Interpolation
