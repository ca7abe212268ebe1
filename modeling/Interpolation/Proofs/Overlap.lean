import Interpolation.Proofs.Occurrence
import Mathlib.Data.List.Nodup

/-!
# Tokens that overlap

No two tokens begin at the same place: the name and the mark behind it say which placeholder a token
belongs to. Tokens may overlap, but then they end at the same brace, and of all tokens that end
there the one that begins first, the leading one, contains the others.
-/

namespace Interpolation

theorem Text.append_cons_inj {a b t u : Text} {c d : Char} (h : a ++ c :: t = b ++ d :: u)
    (hc : c ∉ b) (hd : d ∉ a) : a = b ∧ c = d ∧ t = u := by
  rcases List.append_eq_append_iff.mp h with ⟨r, rfl, hr⟩ | ⟨r, rfl, hr⟩
  · cases r with
    | nil => simpa using hr
    | cons x r =>
      obtain ⟨rfl, -⟩ := List.cons.inj hr
      simp at hc
  · cases r with
    | nil => simpa [eq_comm] using hr
    | cons x r =>
      obtain ⟨rfl, -⟩ := List.cons.inj hr
      simp at hd

namespace Placeholder

def mark (p : Placeholder) : Char :=
  if p.takesArgument then ':' else '}'

theorem written_eq_mark {p : Placeholder} {x : Option Text} (hx : p.Admits x) :
    ∃ u, p.written x = p.opening ++ p.mark :: u := by
  cases x with
  | none => exact ⟨[], by rw [written, mark, show p.takesArgument = false from hx]; rfl⟩
  | some a => exact ⟨a ++ ['}'], by rw [written, mark, hx.1]; rfl⟩

theorem name_free (p : Placeholder) : ':' ∉ p.name.toList ∧ '}' ∉ p.name.toList := by
  cases p <;> decide

theorem mark_cases (p : Placeholder) : p.mark = ':' ∨ p.mark = '}' := by
  rw [mark]
  split
  · exact Or.inl rfl
  · exact Or.inr rfl

theorem mark_notMem_name (p q : Placeholder) : p.mark ∉ q.name.toList := by
  obtain ⟨hcolon, hbrace⟩ := q.name_free
  rcases p.mark_cases with h | h
  · rw [h]
    exact hcolon
  · rw [h]
    exact hbrace

theorem eq_of_name_mark {p q : Placeholder} (hname : p.name.toList = q.name.toList)
    (hmark : p.mark = q.mark) : p = q := by
  have hnodup : (catalogue.map fun p => (p.name.toList, p.mark)).Nodup := by decide
  exact List.inj_on_of_nodup_map hnodup (mem_catalogue p) (mem_catalogue q)
    (Prod.ext hname hmark)

/-- At most one token can be read at the beginning of a text. -/
theorem read?_unique {p q : Placeholder} {t rest rest' : Text} {x y : Option Text}
    (hp : p.read? t = some (x, rest)) (hq : q.read? t = some (y, rest')) :
    p = q ∧ x = y ∧ rest = rest' := by
  obtain ⟨hpt, hx⟩ := read?_eq_some.mp hp
  obtain ⟨hqt, hy⟩ := read?_eq_some.mp hq
  obtain ⟨u, hu⟩ := written_eq_mark hx
  obtain ⟨v, hv⟩ := written_eq_mark hy
  have hcut : p.name.toList ++ p.mark :: (u ++ rest) = q.name.toList ++ q.mark :: (v ++ rest') := by
    rw [hpt, hu, hv] at hqt
    simpa [opening] using hqt
  obtain ⟨hname, hmark, -⟩ :=
    Text.append_cons_inj hcut (mark_notMem_name p q) (mark_notMem_name q p)
  obtain rfl := eq_of_name_mark hname hmark
  rw [hp] at hq
  obtain ⟨rfl, rfl⟩ := Prod.mk.inj (Option.some.inj hq)
  exact ⟨rfl, rfl, rfl⟩

theorem dollar_notMem_name (p : Placeholder) : '$' ∉ p.name.toList := by
  cases p <;> decide

theorem written_eq_dollar {p : Placeholder} {x : Option Text} (hfree : ∀ a ∈ x, '$' ∉ a) :
    ∃ u, p.written x = '$' :: u ∧ '$' ∉ u := by
  have hname := p.dollar_notMem_name
  cases x with
  | none => exact ⟨'{' :: (p.name.toList ++ ['}']), rfl, by simp [hname]⟩
  | some a =>
    have ha := hfree a rfl
    exact ⟨'{' :: (p.name.toList ++ ':' :: (a ++ ['}'])), rfl, by simp [hname, ha]⟩

end Placeholder

namespace Occurrence

variable {offset : Nat} {o u : Occurrence} {t : Text}

/-- At most one token begins at a place. -/
theorem eq_of_start (ho : o.StandsIn offset t) (hu : u.StandsIn offset t)
    (h : o.start = u.start) : o = u := by
  have ⟨hx, b, r, hb, hstart, hstop⟩ := ho
  have ⟨hy, b', r', hb', hstart', hstop'⟩ := hu
  have hcut := (Text.append_inj_of_byteLength (hb.symm.trans hb') (by omega)).2
  have hread : o.placeholder.read? (o.token ++ r) = some (o.argument, r) :=
    Placeholder.read?_eq_some.mpr ⟨rfl, hx⟩
  have hread' : u.placeholder.read? (o.token ++ r) = some (u.argument, r') :=
    Placeholder.read?_eq_some.mpr ⟨hcut, hy⟩
  obtain ⟨hp, ha, -⟩ := Placeholder.read?_unique hread hread'
  have htoken : o.token = u.token := by rw [token, token, hp, ha]
  exact eq_of_standsIn ho hu hp h (by rw [hstop, hstop', h, htoken])

/-- Two tokens end at the same brace, or one stands behind the other. -/
theorem stop_eq_or_apart (ho : o.StandsIn offset t) (hu : u.StandsIn offset t) :
    o.stop = u.stop ∨ o.stop ≤ u.start ∨ u.stop ≤ o.start := by
  induction t using Text.stretch_induction generalizing offset with
  | last a ha => exact absurd ho (not_standsIn_open ha)
  | more a t ha ih =>
    rcases (standsIn_append ha t).mp ho with ho | ho <;>
      rcases (standsIn_append ha t).mp hu with hu | hu
    · exact Or.inl ((stop_of_stretch ha ho).trans (stop_of_stretch ha hu).symm)
    · rw [stop_of_stretch ha ho]
      exact Or.inr (Or.inl (offset_le_start hu))
    · rw [stop_of_stretch ha hu]
      exact Or.inr (Or.inr (offset_le_start ho))
    · exact ih ho hu

/-- Of all tokens that end where `o` ends, `o` begins first. -/
structure Leading (offset : Nat) (t : Text) (o : Occurrence) : Prop where
  stands : o.StandsIn offset t
  first : ∀ u : Occurrence, u.StandsIn offset t → u.stop = o.stop → o.start ≤ u.start

theorem exists_leading (hu : u.StandsIn offset t) :
    ∃ o : Occurrence, o.Leading offset t ∧ o.stop = u.stop := by
  induction hn : u.start using Nat.strongRecOn generalizing u with
  | ind n ih =>
    by_cases hbefore : ∃ v : Occurrence, v.StandsIn offset t ∧ v.stop = u.stop ∧ v.start < u.start
    · obtain ⟨v, hv, hstop, hlt⟩ := hbefore
      obtain ⟨o, ho, hstop'⟩ := ih v.start (hn ▸ hlt) hv rfl
      exact ⟨o, ho, hstop'.trans hstop⟩
    · refine ⟨u, ⟨hu, fun v hv hstop => ?_⟩, rfl⟩
      exact Nat.le_of_not_lt fun hlt => hbefore ⟨v, hv, hstop, hlt⟩

end Occurrence

end Interpolation
