import Interpolation.Proofs.Overlap
import Mathlib.Data.List.Sort

/-!
# One walk over a text

A walk reads a text once from the left. Where a token begins it is told and the walk goes on behind
it; anywhere else it goes on with the next character. The tokens that are told are the leading ones:
a token inside another one is passed over with it, and nothing else is.
-/

namespace Interpolation

def token? (t : Text) : Option (Placeholder × Option Text × Text) :=
  Placeholder.catalogue.findSome? fun p => (p.read? t).map fun (a, rest) => (p, a, rest)

section Token

variable {p : Placeholder} {x : Option Text} {t rest : Text}

theorem token?_eq_some : token? t = some (p, x, rest) ↔ p.read? t = some (x, rest) := by
  constructor
  · intro h
    obtain ⟨q, -, hq⟩ := List.exists_of_findSome?_eq_some h
    obtain ⟨⟨y, r⟩, hr, heq⟩ := Option.map_eq_some_iff.mp hq
    cases heq
    exact hr
  · intro h
    cases ht : token? t with
    | none =>
      have hnone := List.findSome?_eq_none_iff.mp ht p (Placeholder.mem_catalogue p)
      rw [h] at hnone
      cases hnone
    | some found =>
      obtain ⟨q, -, hq⟩ := List.exists_of_findSome?_eq_some ht
      obtain ⟨⟨y, r⟩, hr, rfl⟩ := Option.map_eq_some_iff.mp hq
      obtain ⟨rfl, rfl, rfl⟩ := Placeholder.read?_unique h hr
      rfl

theorem token?_eq_none : token? t = none ↔ ∀ p : Placeholder, p.read? t = none := by
  rw [token?, List.findSome?_eq_none_iff]
  constructor
  · intro h p
    exact Option.map_eq_none_iff.mp (h p (Placeholder.mem_catalogue p))
  · intro h p _
    rw [h p]
    rfl

theorem length_of_token? (h : token? t = some (p, x, rest)) : rest.length < t.length := by
  obtain ⟨rfl, -⟩ := Placeholder.read?_eq_some.mp (token?_eq_some.mp h)
  have := p.written_length_pos x
  rw [List.length_append]
  omega

end Token

/-- Walk over a text that begins at `offset`: tell the token that begins here and go on behind it,
or go on with the next character. -/
def walk (offset : Nat) : Text → List Occurrence
  | [] => []
  | c :: t =>
    match h : token? (c :: t) with
    | some (p, x, rest) =>
      have : rest.length < t.length + 1 := length_of_token? h
      let stop := offset + Text.byteLength (p.written x)
      ⟨p, x, offset, stop⟩ :: walk stop rest
    | none => walk (offset + c.utf8Size) t
termination_by t => t.length

theorem walk_nil (offset : Nat) : walk offset [] = [] := by
  rw [walk]

theorem walk_token {p : Placeholder} {x : Option Text} {t rest : Text} (offset : Nat)
    (h : token? t = some (p, x, rest)) :
    walk offset t =
      ⟨p, x, offset, offset + Text.byteLength (p.written x)⟩ ::
        walk (offset + Text.byteLength (p.written x)) rest := by
  cases t with
  | nil => cases h
  | cons c t =>
    rw [walk]
    split <;> simp_all

theorem walk_char {c : Char} {t : Text} (offset : Nat) (h : token? (c :: t) = none) :
    walk offset (c :: t) = walk (offset + c.utf8Size) t := by
  rw [walk]
  split <;> simp_all

theorem walk_induction {motive : Nat → Text → Prop} (nil : ∀ offset, motive offset [])
    (token : ∀ offset t p x rest, token? t = some (p, x, rest) →
      motive (offset + Text.byteLength (p.written x)) rest → motive offset t)
    (char : ∀ offset c t, token? (c :: t) = none → motive (offset + c.utf8Size) t →
      motive offset (c :: t)) (offset : Nat) (t : Text) : motive offset t := by
  induction offset, t using walk.induct with
  | case1 offset => exact nil offset
  | case2 offset c t p x rest h _ stop ih => exact token offset (c :: t) p x rest h ih
  | case3 offset c t h ih => exact char offset c t h ih

namespace Occurrence

variable {offset : Nat} {o : Occurrence} {t : Text}

theorem standsIn_cons {c : Char} (h : token? (c :: t) = none) :
    o.StandsIn offset (c :: t) ↔ o.StandsIn (offset + c.utf8Size) t := by
  constructor
  · rintro ⟨hx, before, after, ht, hstart, hstop⟩
    cases before with
    | nil =>
      have hread : o.placeholder.read? (c :: t) = some (o.argument, after) :=
        Placeholder.read?_eq_some.mpr ⟨ht, hx⟩
      rw [token?_eq_none.mp h] at hread
      cases hread
    | cons d before =>
      obtain ⟨rfl, rfl⟩ := List.cons.inj ht
      refine ⟨hx, before, after, rfl, ?_, hstop⟩
      rw [hstart, Text.byteLength_cons, Nat.add_assoc]
  · rintro ⟨hx, before, after, rfl, hstart, hstop⟩
    refine ⟨hx, c :: before, after, rfl, ?_, hstop⟩
    rw [hstart, Text.byteLength_cons, Nat.add_assoc]

theorem leading_cons {c : Char} (h : token? (c :: t) = none) :
    o.Leading offset (c :: t) ↔ o.Leading (offset + c.utf8Size) t := by
  constructor
  · rintro ⟨hs, hf⟩
    exact ⟨(standsIn_cons h).mp hs, fun u hu => hf u ((standsIn_cons h).mpr hu)⟩
  · rintro ⟨hs, hf⟩
    exact ⟨(standsIn_cons h).mpr hs, fun u hu => hf u ((standsIn_cons h).mp hu)⟩

theorem leading_token {p : Placeholder} {x : Option Text} {rest : Text}
    (h : token? t = some (p, x, rest)) :
    o.Leading offset t ↔
      o = ⟨p, x, offset, offset + Text.byteLength (p.written x)⟩ ∨
        o.Leading (offset + Text.byteLength (p.written x)) rest := by
  obtain ⟨rfl, hx⟩ := Placeholder.read?_eq_some.mp (token?_eq_some.mp h)
  obtain ⟨w, hw, hwb⟩ := Placeholder.written_eq hx
  have hhead : (⟨p, x, offset, offset + Text.byteLength (p.written x)⟩ : Occurrence).StandsIn
      offset (p.written x ++ rest) := ⟨hx, [], rest, rfl, rfl, rfl⟩
  have hstands (u : Occurrence) : u.StandsIn offset (p.written x ++ rest) ↔
      u.StandsIn offset (p.written x) ∨
        u.StandsIn (offset + Text.byteLength (p.written x)) rest := by
    rw [hw, List.append_assoc]
    exact standsIn_append hwb rest
  have hends (u : Occurrence) (hu : u.StandsIn offset (p.written x)) :
      u.stop = offset + Text.byteLength (p.written x) := by
    rw [hw] at hu ⊢
    exact stop_of_stretch hwb hu
  constructor
  · rintro ⟨hs, hf⟩
    rcases (hstands o).mp hs with ho | ho
    · left
      have hle := hf _ hhead (hends o ho).symm
      have hge := offset_le_start hs
      exact eq_of_start hs hhead (Nat.le_antisymm hle hge)
    · exact Or.inr ⟨ho, fun u hu => hf u ((hstands u).mpr (Or.inr hu))⟩
  · rintro (rfl | ⟨hs, hf⟩)
    · exact ⟨hhead, fun u hu _ => offset_le_start hu⟩
    · refine ⟨(hstands o).mpr (Or.inr hs), fun u hu hstop => ?_⟩
      rcases (hstands u).mp hu with hu | hu
      · have := hends u hu
        have := offset_le_start hs
        have := start_lt_stop hs
        omega
      · exact hf u hu hstop

end Occurrence

/-- A walk tells the leading tokens. -/
theorem mem_walk {offset : Nat} {t : Text} {o : Occurrence} :
    o ∈ walk offset t ↔ o.Leading offset t := by
  induction offset, t using walk_induction with
  | nil offset =>
    have hnone : ¬ o.Leading offset [] := fun h =>
      Occurrence.not_standsIn_open List.not_mem_nil h.stands
    simpa [walk_nil] using hnone
  | token offset t p x rest h ih =>
    rw [walk_token offset h, List.mem_cons, ih, Occurrence.leading_token h]
  | char offset c t h ih => rw [walk_char offset h, ih, Occurrence.leading_cons h]

theorem pairwise_walk (offset : Nat) (t : Text) :
    (walk offset t).Pairwise fun o u => o.stop ≤ u.start := by
  induction offset, t using walk_induction with
  | nil offset =>
    rw [walk_nil]
    exact List.Pairwise.nil
  | token offset t p x rest h ih =>
    rw [walk_token offset h, List.pairwise_cons]
    exact ⟨fun u hu => Occurrence.offset_le_start (mem_walk.mp hu).stands, ih⟩
  | char offset c t h ih =>
    rw [walk_char offset h]
    exact ih

end Interpolation
