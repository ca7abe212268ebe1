import Interpolation.Proofs.NormalForm

/-!
# The components of paths

The components of a path are the pieces between its separators. A path is relative to a base just if
the components of the base come first among its own, and the relative path is made of those that
follow. A doubled separator has an empty component in it, and the components of `/home/u/proj` do
not come first among those of `/home/u/proj2`.
-/

namespace Interpolation

namespace NormalPath

/-- The pieces of a text between its separators. -/
def components (t : Text) : List Text :=
  t.splitOn '/'

/-- The text of some components, with a separator between any two. -/
def ofComponents (parts : List Text) : Text :=
  ['/'].intercalate parts

variable {p base r : NormalPath}

theorem ofComponents_components (t : Text) : ofComponents (components t) = t :=
  List.intercalate_splitOn '/'

theorem components_ne_nil (t : Text) : components t ≠ [] :=
  List.splitOn_ne_nil '/' t

theorem components_append (t u : Text) :
    components (t ++ '/' :: u) = components t ++ components u :=
  List.splitOn_append_cons_self t u

theorem ofComponents_append {front back : List Text} (hf : front ≠ []) (hb : back ≠ []) :
    ofComponents (front ++ back) = ofComponents front ++ '/' :: ofComponents back := by
  induction front with
  | nil => exact absurd rfl hf
  | cons part front ih =>
    cases front with
    | nil =>
      rw [List.singleton_append, ofComponents, List.intercalate_cons_of_ne_nil hb]
      simp [ofComponents]
    | cons next front =>
      have ih := ih (by simp)
      simp only [ofComponents, List.cons_append, List.intercalate_cons_cons] at ih ⊢
      rw [ih]
      simp

theorem eq_of_components_append {t u : Text} {rest : List Text}
    (h : components u = components t ++ rest) :
    rest = [] ∧ u = t ∨ u = t ++ '/' :: ofComponents rest := by
  have hu : u = ofComponents (components t ++ rest) := by
    rw [← h, ofComponents_components]
  by_cases hrest : rest = []
  · rw [hrest, List.append_nil, ofComponents_components] at hu
    exact Or.inl ⟨hrest, hu⟩
  · rw [ofComponents_append (components_ne_nil t) hrest, ofComponents_components] at hu
    exact Or.inr hu

/-- A path is relative to a base if it goes on behind the base with a separator, or is the base; what
is behind a root, or behind nothing, is relative only after a separator. -/
theorem relativeTo?_eq_some :
    p.relativeTo? base = some r ↔
      p.text = base.trimmed ++ '/' :: r.text ∨
        base.trimmed ≠ [] ∧ p.text = base.trimmed ∧ r.text = [] := by
  obtain ⟨rest⟩ := r
  unfold relativeTo?
  split
  · next hroot =>
    rw [hroot]
    split
    · next t ht => simp [ht]
    · next hother =>
      have hnone : p.text ≠ '/' :: rest := hother rest
      simpa using hnone
  · next hbase =>
    have hne : base.trimmed ≠ [] := hbase
    split
    · next hsame =>
      have heq := Text.isPrefixOf?_eq_some.mp hsame
      rw [List.append_nil] at heq
      simp [heq, hne, eq_comm]
    · next t ht =>
      have heq := Text.isPrefixOf?_eq_some.mp ht
      simp [heq]
    · next hnone hslash =>
      have hopen : p.text ≠ base.trimmed := by
        intro heq
        exact hnone (Text.isPrefixOf?_eq_some.mpr (by rw [List.append_nil, heq]))
      have hother : p.text ≠ base.trimmed ++ '/' :: rest := by
        intro heq
        exact hslash rest (Text.isPrefixOf?_eq_some.mpr heq)
      simp [hopen, hother]

theorem isWithin_eq_true : p.isWithin base = true ↔ ∃ r, p.relativeTo? base = some r :=
  Option.isSome_iff_exists

theorem isWithin_iff_text :
    p.isWithin base = true ↔
      base.trimmed ≠ [] ∧ p.text = base.trimmed ∨
        ∃ rest, p.text = base.trimmed ++ '/' :: rest := by
  rw [isWithin_eq_true]
  constructor
  · rintro ⟨⟨rest⟩, hrest⟩
    rcases relativeTo?_eq_some.mp hrest with hbehind | ⟨hne, hsame, -⟩
    · exact Or.inr ⟨rest, hbehind⟩
    · exact Or.inl ⟨hne, hsame⟩
  · rintro (⟨hne, hsame⟩ | ⟨rest, hbehind⟩)
    · exact ⟨⟨[]⟩, relativeTo?_eq_some.mpr (Or.inr ⟨hne, hsame, rfl⟩)⟩
    · exact ⟨⟨rest⟩, relativeTo?_eq_some.mpr (Or.inl hbehind)⟩

theorem relativeTo?_iff_components :
    p.relativeTo? base = some r ↔
      ¬ (p.text = [] ∧ base.trimmed = []) ∧
        ∃ rest, components p.text = components base.trimmed ++ rest ∧
          r.text = ofComponents rest := by
  rw [relativeTo?_eq_some]
  constructor
  · rintro (hbehind | ⟨hne, hsame, hempty⟩)
    · refine ⟨by simp [hbehind], components r.text, ?_, (ofComponents_components r.text).symm⟩
      rw [hbehind, components_append]
    · refine ⟨fun h => hne h.2, [], ?_, hempty⟩
      rw [hsame, List.append_nil]
  · rintro ⟨hne, rest, hcomponents, hr⟩
    rcases eq_of_components_append hcomponents with ⟨rfl, hsame⟩ | hbehind
    · have hbase : base.trimmed ≠ [] := fun h => hne ⟨by rw [hsame, h], h⟩
      exact Or.inr ⟨hbase, hsame, hr⟩
    · exact Or.inl (by rw [hbehind, hr])

theorem isWithin_iff_components :
    p.isWithin base = true ↔
      ¬ (p.text = [] ∧ base.trimmed = []) ∧ components base.trimmed <+: components p.text := by
  rw [isWithin_eq_true]
  constructor
  · rintro ⟨r, hr⟩
    obtain ⟨hne, rest, hcomponents, -⟩ := relativeTo?_iff_components.mp hr
    exact ⟨hne, rest, hcomponents.symm⟩
  · rintro ⟨hne, rest, hcomponents⟩
    exact ⟨⟨ofComponents rest⟩, relativeTo?_iff_components.mpr ⟨hne, rest, hcomponents.symm, rfl⟩⟩

theorem isWithin_eq_false_of_sibling {c : Char} {t : Text} (ht : p.text = base.trimmed ++ c :: t)
    (hc : c ≠ '/') : p.isWithin base = false := by
  refine Bool.eq_false_iff.mpr fun hwithin => ?_
  rcases isWithin_iff_text.mp hwithin with ⟨-, hsame⟩ | ⟨rest, hbehind⟩
  · rw [ht] at hsame
    simp at hsame
  · rw [ht] at hbehind
    have htail := List.append_cancel_left hbehind
    exact hc (List.cons.inj htail).1

/-- Relative paths go by whole components. Unless a path and its base without separators at the end
are both empty, the path is relative to the base just if the components of the base come first among
its own, and the relative path is made of the components that follow. The path is within the base in
just these cases. So a path whose text goes on behind the base with anything else than a separator is
not within the base. -/
theorem relativeTo?_by_components (p base : NormalPath) :
    (∀ r, p.relativeTo? base = some r ↔
      ¬ (p.text = [] ∧ base.trimmed = []) ∧
        ∃ rest, components p.text = components base.trimmed ++ rest ∧ r.text = ofComponents rest) ∧
      (p.isWithin base = true ↔
        ¬ (p.text = [] ∧ base.trimmed = []) ∧ components base.trimmed <+: components p.text) ∧
      ∀ c t, p.text = base.trimmed ++ c :: t → c ≠ '/' → p.isWithin base = false := by
  refine ⟨?_, ?_, ?_⟩
  · intro r
    exact relativeTo?_iff_components
  · exact isWithin_iff_components
  · intro c t ht hc
    exact isWithin_eq_false_of_sibling ht hc

example : (ofText "/home/u/proj2/a.ts".toList).isWithin (ofText "/home/u/proj/".toList) = false := by
  decide +kernel

end NormalPath

end Interpolation
