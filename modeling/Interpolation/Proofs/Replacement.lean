import Interpolation.Proofs.Occurrence
import Interpolation.Proofs.Pass
import Mathlib.Logic.ExistsUnique

/-!
# Which tokens a pass replaces

Of the tokens that end at one closing brace a pass replaces the one of the earliest placeholder, and
of the tokens of this placeholder the one that begins first. All other text is copied. The rule does
not mention the context: which tokens are replaced depends on the text alone.
-/

namespace Interpolation

variable (order : List Placeholder)

/-- The token that a pass replaces in a stretch. -/
def replacedToken? (offset : Nat) (s : Text) : Option Occurrence :=
  (firstFound? order s).map fun found => found.2.occurrence found.1 offset

namespace Occurrence

/-- `o` has an earlier placeholder than `u`, or the same one and does not begin behind it. -/
def Precedes (o u : Occurrence) : Prop :=
  order.idxOf o.placeholder < order.idxOf u.placeholder ∨
    o.placeholder = u.placeholder ∧ o.start ≤ u.start

/-- Of all tokens of some placeholders that end where `o` ends, `o` comes first. -/
structure Replaced (offset : Nat) (t : Text) (o : Occurrence) : Prop where
  stands : o.StandsIn offset t
  mem : o.placeholder ∈ order
  first : ∀ u, u.StandsIn offset t → u.placeholder ∈ order → u.stop = o.stop → o.Precedes order u

variable {order} {offset : Nat} {o u : Occurrence} {t : Text}

theorem replaced_unique (ho : o.Replaced order offset t) (hu : u.Replaced order offset t)
    (h : o.stop = u.stop) : o = u := by
  have hou := ho.first u hu.stands hu.mem h.symm
  have huo := hu.first o ho.stands ho.mem h
  have hp : o.placeholder = u.placeholder := by
    rcases hou with hlt | heq
    · rcases huo with hgt | heq
      · exact absurd hgt (Nat.lt_asymm hlt)
      · exact heq.1.symm
    · exact heq.1
  have hle : o.start ≤ u.start := by
    rcases hou with hlt | heq
    · exact absurd hlt (by simp [hp])
    · exact heq.2
  have hge : u.start ≤ o.start := by
    rcases huo with hlt | heq
    · exact absurd hlt (by simp [hp])
    · exact heq.2
  exact eq_of_standsIn ho.stands hu.stands hp (Nat.le_antisymm hle hge) h

theorem replaced_append {a : Text} (ha : '}' ∉ a) :
    o.Replaced order offset (a ++ '}' :: t) ↔
      o.Replaced order offset (a ++ ['}']) ∨
        o.Replaced order (offset + Text.byteLength (a ++ ['}'])) t := by
  constructor
  · rintro ⟨hs, hm, hf⟩
    rcases (standsIn_append ha t).mp hs with hs | hs
    · exact Or.inl ⟨hs, hm, fun u hu => hf u ((standsIn_append ha t).mpr (Or.inl hu))⟩
    · exact Or.inr ⟨hs, hm, fun u hu => hf u ((standsIn_append ha t).mpr (Or.inr hu))⟩
  · rintro (⟨hs, hm, hf⟩ | ⟨hs, hm, hf⟩)
    · refine ⟨(standsIn_append ha t).mpr (Or.inl hs), hm, ?_⟩
      intro u hu hum hstop
      rcases (standsIn_append ha t).mp hu with hu | hu
      · exact hf u hu hum hstop
      · have := stop_of_stretch ha hs
        have := start_lt_stop hu
        have := offset_le_start hu
        omega
    · refine ⟨(standsIn_append ha t).mpr (Or.inr hs), hm, ?_⟩
      intro u hu hum hstop
      rcases (standsIn_append ha t).mp hu with hu | hu
      · have := stop_of_stretch ha hu
        have := start_lt_stop hs
        have := offset_le_start hs
        omega
      · exact hf u hu hum hstop

theorem precedes_of_firstFound? (offset : Nat) {p : Placeholder} {f : Placeholder.Found}
    (h : firstFound? order t = some (p, f)) :
    (f.occurrence p offset).StandsIn offset t ∧ p ∈ order ∧
      ∀ u, u.StandsIn offset t → (f.occurrence p offset).Precedes order u := by
  obtain ⟨earlier, q, later, rfl, hq, hnone⟩ := List.findSome?_eq_some_iff.mp h
  obtain ⟨g, hg, heq⟩ := Option.map_eq_some_iff.mp hq
  obtain ⟨rfl, rfl⟩ := Prod.mk.inj heq
  refine ⟨standsIn_of_find? offset hg, by simp, ?_⟩
  intro u hu
  obtain ⟨k, hk, hle⟩ := find?_of_standsIn hu
  have habsent : ∀ r ∈ earlier, ∀ j, r.find? t ≠ some j := by
    intro r hr j hj
    have := hnone r hr
    simp [hj] at this
  by_cases hqu : q = u.placeholder
  · subst hqu
    rw [hk] at hg
    obtain rfl := Option.some.inj hg
    exact Or.inr ⟨rfl, hle⟩
  · left
    have hqe : q ∉ earlier := fun hm => habsent q hm g hg
    have hue : u.placeholder ∉ earlier := fun hm => habsent _ hm k hk
    have hbeq : (q == u.placeholder) = false := beq_false_of_ne hqu
    simp [Placeholder.Found.occurrence, List.idxOf_append, hqe, hue, List.idxOf_cons, hbeq]

theorem firstFound?_of_standsIn (hu : u.StandsIn offset t) (hm : u.placeholder ∈ order) :
    ∃ found, firstFound? order t = some found := by
  obtain ⟨f, hf, -⟩ := find?_of_standsIn hu
  rw [← Option.isSome_iff_exists, firstFound?, List.findSome?_isSome_iff]
  exact ⟨_, hm, by simp [hf]⟩

theorem replaced_stretch {a : Text} (ha : '}' ∉ a) :
    o.Replaced order offset (a ++ ['}']) ↔
      replacedToken? order offset (a ++ ['}']) = some o := by
  rw [replacedToken?, Option.map_eq_some_iff]
  constructor
  · intro ho
    obtain ⟨found, hfound⟩ := firstFound?_of_standsIn ho.stands ho.mem
    obtain ⟨hs, hm, hf⟩ := precedes_of_firstFound? offset hfound
    refine ⟨found, hfound, replaced_unique ⟨hs, hm, fun u hu _ _ => hf u hu⟩ ho ?_⟩
    rw [stop_of_stretch ha ho.stands, stop_of_stretch ha hs]
  · rintro ⟨found, hfound, rfl⟩
    obtain ⟨hs, hm, hf⟩ := precedes_of_firstFound? offset hfound
    exact ⟨hs, hm, fun u hu _ _ => hf u hu⟩

end Occurrence

theorem replacedToken?_open (offset : Nat) {a : Text} (ha : '}' ∉ a) :
    replacedToken? order offset a = none := by
  simp [replacedToken?, firstFound?_open order ha]

/-- The tokens that a pass replaces in some stretches, from left to right. -/
def replacedTokens : Nat → List Text → List Occurrence
  | _, [] => []
  | offset, s :: rest =>
    (replacedToken? order offset s).toList ++ replacedTokens (offset + Text.byteLength s) rest

theorem mem_replacedTokens {order : List Placeholder} {offset : Nat} {t : Text} {o : Occurrence} :
    o ∈ replacedTokens order offset (Text.stretches t) ↔ o.Replaced order offset t := by
  induction t using Text.stretch_induction generalizing offset with
  | last a ha =>
    have hn : ¬ o.Replaced order offset a := fun h => Occurrence.not_standsIn_open ha h.stands
    by_cases hne : a = []
    · subst hne
      simpa [replacedTokens, Text.stretches] using hn
    · simpa [replacedTokens, Text.stretches_open ha hne, replacedToken?_open order _ ha] using hn
  | more a t ha ih =>
    rw [Occurrence.replaced_append ha, Occurrence.replaced_stretch ha, Text.stretches_append ha,
      replacedTokens, List.mem_append, ih, Option.mem_toList]

theorem exists_replaced {order : List Placeholder} {offset : Nat} {t : Text} {u : Occurrence}
    (hu : u.StandsIn offset t) (hm : u.placeholder ∈ order) :
    ∃ o : Occurrence, o.Replaced order offset t ∧ o.stop = u.stop := by
  induction t using Text.stretch_induction generalizing offset with
  | last a ha => exact absurd hu (Occurrence.not_standsIn_open ha)
  | more a t ha ih =>
    rcases (Occurrence.standsIn_append ha t).mp hu with hu | hu
    · obtain ⟨found, hfound⟩ := Occurrence.firstFound?_of_standsIn hu hm
      have hr : (found.2.occurrence found.1 offset).Replaced order offset (a ++ ['}']) :=
        (Occurrence.replaced_stretch ha).mpr (by rw [replacedToken?, hfound]; rfl)
      refine ⟨_, (Occurrence.replaced_append ha).mpr (Or.inl hr), ?_⟩
      rw [Occurrence.stop_of_stretch ha hr.stands, Occurrence.stop_of_stretch ha hu]
    · obtain ⟨o, ho, hstop⟩ := ih hu
      exact ⟨o, (Occurrence.replaced_append ha).mpr (Or.inr ho), hstop⟩

theorem pairwise_replacedTokens (offset : Nat) (t : Text) :
    (replacedTokens order offset (Text.stretches t)).Pairwise fun o u => o.stop ≤ u.start := by
  induction t using Text.stretch_induction generalizing offset with
  | last a ha =>
    by_cases hne : a = []
    · simp [hne, replacedTokens, Text.stretches]
    · simp [replacedTokens, Text.stretches_open ha hne, replacedToken?_open order _ ha]
  | more a t ha ih =>
    rw [Text.stretches_append ha, replacedTokens, List.pairwise_append]
    refine ⟨?_, ih _, ?_⟩
    · cases replacedToken? order offset (a ++ ['}']) <;> simp
    · intro o ho u hu
      have hr := (Occurrence.replaced_stretch ha).mpr (Option.mem_toList.mp ho)
      have := Occurrence.stop_of_stretch ha hr.stands
      have := Occurrence.offset_le_start (mem_replacedTokens.mp hu).stands
      omega

/-- Write values over occurrences that come from left to right in a text that begins at `offset`.
There is no answer if an occurrence begins or ends inside a character or outside the text. -/
def replaceAll? (value : Occurrence → Text) : Nat → Text → List Occurrence → Option Text
  | _, t, [] => some t
  | offset, t, o :: rest => do
    let (before, t) ← Text.splitAt? (o.start - offset) t
    let (_, after) ← Text.splitAt? (o.stop - o.start) t
    let done ← replaceAll? value o.stop after rest
    return before ++ value o ++ done

theorem replaceAll?_append (value : Occurrence → Text) (offset : Nat) (a t : Text)
    (os : List Occurrence) (h : ∀ o ∈ os, offset + Text.byteLength a ≤ o.start) :
    replaceAll? value offset (a ++ t) os =
      (replaceAll? value (offset + Text.byteLength a) t os).map (a ++ ·) := by
  cases os with
  | nil => rfl
  | cons o rest =>
    have hle := h o List.mem_cons_self
    have hcut : o.start - offset =
        Text.byteLength a + (o.start - (offset + Text.byteLength a)) := by omega
    rw [replaceAll?, replaceAll?, hcut, Text.splitAt?_add]
    cases Text.splitAt? (o.start - (offset + Text.byteLength a)) t with
    | none => rfl
    | some cut =>
      obtain ⟨before, t⟩ := cut
      simp only [Option.map_some, Option.bind_eq_bind, Option.bind_some]
      cases Text.splitAt? (o.stop - o.start) t with
      | none => rfl
      | some cut =>
        obtain ⟨-, after⟩ := cut
        cases hrest : replaceAll? value o.stop after rest <;> simp [hrest]

theorem replaceAll?_cons (value : Occurrence → Text) (offset : Nat) (b t : Text) (o : Occurrence)
    (rest : List Occurrence) (hstart : o.start = offset + Text.byteLength b)
    (hstop : o.stop = o.start + Text.byteLength o.token) :
    replaceAll? value offset (b ++ (o.token ++ t)) (o :: rest) =
      (replaceAll? value o.stop t rest).map (b ++ value o ++ ·) := by
  have hb : o.start - offset = Text.byteLength b := by omega
  have ho : o.stop - o.start = Text.byteLength o.token := by omega
  simp only [replaceAll?, hb, ho, Text.splitAt?_append, Option.bind_eq_bind, Option.bind_some]
  cases replaceAll? value o.stop t rest <;> simp

theorem passOver_eq_replaceAll? (ctx : Context) (offset : Nat) (t : Text) :
    replaceAll? (fun o => ctx.value o.placeholder o.argument) offset t
      (replacedTokens order offset (Text.stretches t)) = some (passOver ctx order t) := by
  induction t using Text.stretch_induction generalizing offset with
  | last a ha =>
    rw [passOver_open ctx order ha]
    by_cases hne : a = []
    · simp [hne, replacedTokens, replaceAll?, Text.stretches]
    · simp [replacedTokens, replaceAll?, Text.stretches_open ha hne, replacedToken?_open order _ ha]
  | more a t ha ih =>
    rw [Text.stretches_append ha, replacedTokens, passOver_append ctx order ha,
      passOver_stretch ctx order ha, settle, replacedToken?]
    have hsplit : a ++ '}' :: t = (a ++ ['}']) ++ t := by simp
    cases hf : firstFound? order (a ++ ['}']) with
    | none =>
      have hbehind : ∀ o ∈ replacedTokens order (offset + Text.byteLength (a ++ ['}']))
          (Text.stretches t), offset + Text.byteLength (a ++ ['}']) ≤ o.start :=
        fun o ho => Occurrence.offset_le_start (mem_replacedTokens.mp ho).stands
      simp only [Option.map_none, Option.toList_none, List.nil_append]
      rw [hsplit, replaceAll?_append _ _ _ _ _ hbehind, ih]
      rfl
    | some found =>
      obtain ⟨p, f⟩ := found
      have hfind := find?_of_firstFound? hf
      have htext := (Placeholder.eq_of_find? hfind).1
      rw [Placeholder.after_of_find? ha hfind, List.append_nil] at htext
      have hstop := Occurrence.stop_of_stretch ha
        (Occurrence.standsIn_of_find? offset hfind)
      simp only [Option.map_some, Option.toList_some, List.singleton_append]
      rw [hsplit, ← hstop, htext, List.append_assoc]
      change replaceAll? _ offset (f.before ++ ((f.occurrence p offset).token ++ t)) _ = _
      rw [replaceAll?_cons _ _ _ _ _ _ rfl rfl, ih]
      rfl

theorem mem_substitutionOrder {p : Placeholder} :
    p ∈ Placeholder.substitutionOrder ↔ p.isCommand = false := by
  simp [Placeholder.substitutionOrder, Placeholder.mem_catalogue]

theorem idxOf_substitutionOrder {p : Placeholder} (hp : p.isCommand = false) :
    Placeholder.substitutionOrder.idxOf p = Placeholder.catalogue.idxOf p := by
  have hcatalogue : Placeholder.catalogue = Placeholder.substitutionOrder ++ [.command] := by decide
  rw [hcatalogue, List.idxOf_append, if_pos (mem_substitutionOrder.mpr hp)]

theorem replaced_substitutionOrder {t : Text} {o : Occurrence} :
    o.Replaced Placeholder.substitutionOrder 0 t ↔
      o.StandsIn 0 t ∧ o.placeholder.isCommand = false ∧
        ∀ u : Occurrence, u.StandsIn 0 t → u.placeholder.isCommand = false → u.stop = o.stop →
          o.Precedes Placeholder.catalogue u := by
  constructor
  · rintro ⟨hs, hm, hf⟩
    have ho := mem_substitutionOrder.mp hm
    refine ⟨hs, ho, fun u hu hc hstop => ?_⟩
    have := hf u hu (mem_substitutionOrder.mpr hc) hstop
    rwa [Occurrence.Precedes, idxOf_substitutionOrder ho, idxOf_substitutionOrder hc] at this
  · rintro ⟨hs, ho, hf⟩
    refine ⟨hs, mem_substitutionOrder.mpr ho, fun u hu hm hstop => ?_⟩
    have hc := mem_substitutionOrder.mp hm
    rw [Occurrence.Precedes, idxOf_substitutionOrder ho, idxOf_substitutionOrder hc]
    exact hf u hu hc hstop

/-- What a substitution pass does: for each brace at which some token ends, but not only one of a
command, it replaces exactly one of the tokens that end there. It is the token of the placeholder
that is first in the catalogue and, of its tokens, the one that begins first. The list of these
tokens is the same for every context, and nothing else is changed. -/
theorem substitute_replaces (t : Text) :
    ∃ os : List Occurrence,
      (∀ o : Occurrence, o ∈ os ↔
        o.StandsIn 0 t ∧ o.placeholder.isCommand = false ∧
          ∀ u : Occurrence, u.StandsIn 0 t → u.placeholder.isCommand = false → u.stop = o.stop →
            o.Precedes Placeholder.catalogue u) ∧
      (∀ u : Occurrence, u.StandsIn 0 t → u.placeholder.isCommand = false →
        ∃! o, o ∈ os ∧ o.stop = u.stop) ∧
      os.Pairwise (fun o u => o.stop ≤ u.start) ∧
      ∀ ctx : Context,
        replaceAll? (fun o => ctx.value o.placeholder o.argument) 0 t os =
          some (substitute ctx t) := by
  refine ⟨replacedTokens Placeholder.substitutionOrder 0 (Text.stretches t), ?_, ?_, ?_, ?_⟩
  · intro o
    rw [mem_replacedTokens, replaced_substitutionOrder]
  · intro u hu hc
    obtain ⟨o, ho, hstop⟩ := exists_replaced hu (mem_substitutionOrder.mpr hc)
    refine ⟨o, ⟨mem_replacedTokens.mpr ho, hstop⟩, ?_⟩
    rintro o' ⟨ho', hstop'⟩
    exact Occurrence.replaced_unique (mem_replacedTokens.mp ho') ho (hstop'.trans hstop.symm)
  · exact pairwise_replacedTokens _ 0 t
  · intro ctx
    exact passOver_eq_replaceAll? _ ctx 0 t

end Interpolation
