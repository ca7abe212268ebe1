import Interpolation.Proofs.Agreement

/-!
# The order of a pass

The order in which a pass tries the placeholders decides only between tokens of different
placeholders that end at the same brace. Where no token lies within another one, each brace ends at
most one token, and a pass comes to the same text in whatever order it tries the placeholders.
-/

namespace Interpolation

/-- No token of the text lies within another one. -/
def IsFlat (t : Text) : Prop :=
  ∀ o u : Occurrence, o.StandsIn 0 t → u.StandsIn 0 t → o.Within u → o = u

section Order

variable {order order' : List Placeholder} {offset : Nat} {t : Text} {o u : Occurrence}

theorem Occurrence.Replaced.reorder (ho : o.Replaced order offset t)
    (hmem : ∀ p, p ∈ order ↔ p ∈ order')
    (halone : ∀ u : Occurrence, u.StandsIn offset t → u.stop = o.stop →
      u.placeholder = o.placeholder) : o.Replaced order' offset t where
  stands := ho.stands
  mem := (hmem _).mp ho.mem
  first := by
    intro u hu hum hstop
    have hsame := halone u hu hstop
    rcases ho.first u hu ((hmem _).mpr hum) hstop with hearlier | hleft
    · rw [hsame] at hearlier
      exact absurd hearlier (Nat.lt_irrefl _)
    · exact Or.inr hleft

theorem replacedTokens_reorder (hmem : ∀ p, p ∈ order ↔ p ∈ order')
    (halone : ∀ o u : Occurrence, o.StandsIn 0 t → u.StandsIn 0 t → u.stop = o.stop →
      u.placeholder = o.placeholder) :
    replacedTokens order 0 (Text.stretches t) = replacedTokens order' 0 (Text.stretches t) := by
  refine eq_of_apart (pairwise_replacedTokens order 0 t) (pairwise_replacedTokens order' 0 t)
    (fun o ho => (mem_replacedTokens.mp ho).stands) fun o => ?_
  rw [mem_replacedTokens, mem_replacedTokens]
  constructor
  · intro ho
    exact ho.reorder hmem fun u => halone o u ho.stands
  · intro ho
    exact ho.reorder (fun p => (hmem p).symm) fun u => halone o u ho.stands

theorem passOver_congr (ctx : Context)
    (h : replacedTokens order 0 (Text.stretches t) = replacedTokens order' 0 (Text.stretches t)) :
    passOver ctx order t = passOver ctx order' t := by
  have hpass := passOver_eq_replaceAll? order ctx 0 t
  rw [h, passOver_eq_replaceAll? order' ctx 0 t] at hpass
  exact (Option.some.inj hpass).symm

theorem IsFlat.eq_of_stop (h : IsFlat t) (ho : o.StandsIn 0 t) (hu : u.StandsIn 0 t)
    (hstop : u.stop = o.stop) : u = o := by
  rcases Nat.le_total u.start o.start with hle | hle
  · exact (h o u ho hu ⟨hle, Nat.le_of_eq hstop.symm⟩).symm
  · exact h u o hu ho ⟨hle, Nat.le_of_eq hstop⟩

theorem isFlat_of_scan (h : ∀ v ∈ scan t, ∀ a ∈ v.argument, '$' ∉ a) : IsFlat t := by
  intro o u ho hu hwithin
  obtain ⟨v, hv, huv⟩ := exists_scan hu
  have hvs := (mem_scan.mp hv).stands
  -- both are the reported token around them
  have huv' : u = v := Occurrence.eq_of_within hu hvs huv (h v hv)
  rw [huv'] at hwithin ⊢
  exact Occurrence.eq_of_within ho hvs hwithin (h v hv)

end Order

/-- The kinds of placeholders are independent. In a text where no token lies within another one, a
pass that tries the placeholders in any order comes to the same text, whatever the context is. -/
theorem pass_order_independent (ctx : Context) (t : Text) (order : List Placeholder)
    (hflat : IsFlat t) (horder : order.Perm Placeholder.substitutionOrder) :
    Segment.join (Segment.pass ctx order [.template t]) = substitute ctx t := by
  have halone : ∀ o u : Occurrence, o.StandsIn 0 t → u.StandsIn 0 t → u.stop = o.stop →
      u.placeholder = o.placeholder := fun o u ho hu hstop =>
    congrArg Occurrence.placeholder (hflat.eq_of_stop ho hu hstop)
  have htokens := replacedTokens_reorder (fun p => horder.mem_iff) halone
  exact passOver_congr ctx htokens

theorem pass_order_backwards :
    let file := Placeholder.file.written none
    let behind := Placeholder.command.written (some "id".toList) ++ Placeholder.cwd.opening
    let t := '}' :: (Placeholder.env.written (some "X:".toList) ++ file ++ behind)
    let ctx : Context := { environment := fun _ => some file, activeFile := some ⟨"/f".toList⟩ }
    let order := Placeholder.substitutionOrder.reverse
    Segment.join (Segment.pass ctx order [.template t]) = substitute ctx t ∧
      substitute ctx t = '}' :: (file ++ "/f".toList ++ behind) := by
  intro file behind t ctx order
  have hflat : IsFlat t := by
    apply isFlat_of_scan
    rw [scan_eq_walk]
    decide +kernel
  refine ⟨pass_order_independent ctx t order hflat (List.reverse_perm _), ?_⟩
  rw [substitute_eq_flatMap]
  decide +kernel

example :
    let t := Placeholder.env.opening ++ ':' :: Placeholder.file.written none
    let ctx : Context := { activeFile := some ⟨"/f".toList⟩ }
    passOver ctx [.file, .env] t = Placeholder.env.opening ++ ":/f".toList ∧
      passOver ctx [.env, .file] t = [] := by
  simp only [passOver_eq_flatMap]
  decide +kernel

end Interpolation
