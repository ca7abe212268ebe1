import Interpolation.Proofs.Nesting

/-!
# What a scan reports and what a pass replaces

Of the tokens that end at one brace a scan reports the one that begins first, and a pass replaces
one of the first placeholder that is not a command. Both lie within the reported token, so each
replaced token belongs to one that is reported. Where no token lies within another one, there is
nothing to choose, and a pass replaces just what a scan reports.
-/

namespace Interpolation

namespace Occurrence

variable {offset : Nat} {o u : Occurrence} {t : Text}

theorem Leading.unique (ho : o.Leading offset t) (hu : u.Leading offset t)
    (h : o.stop = u.stop) : o = u := by
  have hle := ho.first u hu.stands h.symm
  have hge := hu.first o ho.stands h
  exact eq_of_start ho.stands hu.stands (Nat.le_antisymm hle hge)

end Occurrence

section Reported

variable {t : Text} {o u v : Occurrence}

theorem reported_unique (ho : o.StandsIn 0 t) (hu : u ∈ scan t) (hv : v ∈ scan t)
    (hou : o.Within u) (hov : o.Within v) : u = v := by
  have hu := mem_scan.mp hu
  have hv := mem_scan.mp hv
  have hstop := Occurrence.stop_of_within ho hu.stands hou
  exact hu.unique hv (hstop.symm.trans (Occurrence.stop_of_within ho hv.stands hov))

def replacedIn (t : Text) : List Occurrence :=
  replacedTokens Placeholder.substitutionOrder 0 (Text.stretches t)

theorem mem_replacedIn :
    o ∈ replacedIn t ↔ o.Replaced Placeholder.substitutionOrder 0 t :=
  mem_replacedTokens

theorem stands_of_replacedIn (ho : o ∈ replacedIn t) :
    o.StandsIn 0 t ∧ o.placeholder.isCommand = false :=
  ⟨(mem_replacedIn.mp ho).stands, mem_substitutionOrder.mp (mem_replacedIn.mp ho).mem⟩

theorem replacedIn_unique (hu : u.StandsIn 0 t) (ho : o ∈ replacedIn t) (hv : v ∈ replacedIn t)
    (hou : o.Within u) (hvu : v.Within u) : o = v := by
  have hostop := Occurrence.stop_of_within (stands_of_replacedIn ho).1 hu hou
  have hvstop := Occurrence.stop_of_within (stands_of_replacedIn hv).1 hu hvu
  exact Occurrence.replaced_unique (mem_replacedIn.mp ho) (mem_replacedIn.mp hv)
    (hostop.trans hvstop.symm)

theorem exists_replacedIn (hu : u ∈ scan t) (hv : v.StandsIn 0 t)
    (hc : v.placeholder.isCommand = false) (hvu : v.Within u) : ∃ o ∈ replacedIn t, o.Within u := by
  have hleading := mem_scan.mp hu
  obtain ⟨o, ho, hstop⟩ := exists_replaced hv (mem_substitutionOrder.mpr hc)
  have hends := hstop.trans (Occurrence.stop_of_within hv hleading.stands hvu)
  exact ⟨o, mem_replacedIn.mpr ho, hleading.first o ho.stands hends, Nat.le_of_eq hends⟩

theorem mem_replacedIn_of_flat
    (hflat : ∀ o u : Occurrence, o.StandsIn 0 t → u.StandsIn 0 t → o.Within u → o = u) :
    o ∈ replacedIn t ↔ o ∈ scan t ∧ o.placeholder.isCommand = false := by
  constructor
  · intro ho
    obtain ⟨hs, hc⟩ := stands_of_replacedIn ho
    obtain ⟨u, hu, hwithin⟩ := exists_scan hs
    rw [hflat o u hs (mem_scan.mp hu).stands hwithin] at hc ⊢
    exact ⟨hu, hc⟩
  · rintro ⟨hu, hc⟩
    have hs := (mem_scan.mp hu).stands
    obtain ⟨v, hv, hwithin⟩ := exists_replacedIn hu hs hc o.within_refl
    rwa [← hflat v o (stands_of_replacedIn hv).1 hs hwithin]

theorem replacedIn_of_flat
    (hflat : ∀ o u : Occurrence, o.StandsIn 0 t → u.StandsIn 0 t → o.Within u → o = u) :
    replacedIn t = (scan t).filter fun o => !o.placeholder.isCommand := by
  refine eq_of_apart (pairwise_replacedTokens _ 0 t) ((pairwise_scan t).filter _)
    (fun o ho => (stands_of_replacedIn ho).1) fun o => ?_
  rw [List.mem_filter, Bool.not_eq_true']
  exact mem_replacedIn_of_flat hflat

end Reported

/-- What a scan reports against what a substitution pass replaces. The same list of disjoint tokens
is replaced whatever the context is. Each of them is a suffix of exactly one reported token, and
ends with it. A reported token that is not a command has exactly one of them within it. A reported
command has at most one, and it has one just if a token that is not a command lies within it. In a
text where no token lies within another one, the replaced tokens are the reported ones, but for
commands. -/
theorem scan_against_substitute (t : Text) :
    ∃ os : List Occurrence,
      (∀ o ∈ os, o.StandsIn 0 t ∧ o.placeholder.isCommand = false) ∧
      os.Pairwise (fun o u => o.stop ≤ u.start) ∧
      (∀ ctx : Context,
        replaceAll? (fun o => ctx.value o.placeholder o.argument) 0 t os =
          some (substitute ctx t)) ∧
      (∀ o ∈ os, ∃ u ∈ scan t, o.Within u ∧ o.stop = u.stop ∧ o.token <:+ u.token ∧
        ∀ v ∈ scan t, o.Within v → v = u) ∧
      (∀ u ∈ scan t, u.placeholder.isCommand = false → ∃! o, o ∈ os ∧ o.Within u) ∧
      (∀ u ∈ scan t, u.placeholder.isCommand = true →
        (∀ o ∈ os, ∀ v ∈ os, o.Within u → v.Within u → o = v) ∧
          ((∃ o ∈ os, o.Within u) ↔
            ∃ v : Occurrence, v.StandsIn 0 t ∧ v.placeholder.isCommand = false ∧ v.Within u)) ∧
      ((∀ o u : Occurrence, o.StandsIn 0 t → u.StandsIn 0 t → o.Within u → o = u) →
        os = (scan t).filter fun o => !o.placeholder.isCommand) := by
  refine ⟨replacedIn t, fun o ho => stands_of_replacedIn ho, pairwise_replacedTokens _ 0 t,
    fun ctx => passOver_eq_replaceAll? _ ctx 0 t, ?_, ?_, ?_, replacedIn_of_flat⟩
  · intro o ho
    have hs := (stands_of_replacedIn ho).1
    obtain ⟨u, hu, hwithin⟩ := exists_scan hs
    have hus := (mem_scan.mp hu).stands
    obtain ⟨w, hw, -⟩ := Occurrence.token_of_within hs hus hwithin
    exact ⟨u, hu, hwithin, Occurrence.stop_of_within hs hus hwithin, ⟨w, hw.symm⟩,
      fun v hv hov => reported_unique hs hv hu hov hwithin⟩
  · intro u hu hc
    have hs := (mem_scan.mp hu).stands
    obtain ⟨o, ho, hwithin⟩ := exists_replacedIn hu hs hc u.within_refl
    exact ⟨o, ⟨ho, hwithin⟩, fun v hv => replacedIn_unique hs hv.1 ho hv.2 hwithin⟩
  · intro u hu _
    refine ⟨fun o ho v hv => replacedIn_unique (mem_scan.mp hu).stands ho hv, ?_, ?_⟩
    · rintro ⟨o, ho, hwithin⟩
      obtain ⟨hs, hc⟩ := stands_of_replacedIn ho
      exact ⟨o, hs, hc, hwithin⟩
    · rintro ⟨v, hv, hc, hwithin⟩
      exact exists_replacedIn hu hv hc hwithin

example :
    let t := Placeholder.env.written (some (Placeholder.file.written none).dropLast)
    (scan t).map Occurrence.placeholder = [.env] ∧
      (replacedIn t).map Occurrence.placeholder = [.file] := by
  simp only [scan_eq_walk]
  decide +kernel

end Interpolation
