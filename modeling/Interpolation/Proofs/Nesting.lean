import Interpolation.Proofs.Guarantee

/-!
# Tokens within tokens

Tokens that overlap end at the same brace, so one of them stands within the other. A token that
stands within another one is a suffix of it, so it stands in the argument of the other. Every
placeholder that takes an argument asks for another pass. What a scan drops can therefore not be the
only token that does: the token around it, which is reported, asks for another pass as well.
-/

namespace Interpolation

namespace Occurrence

/-- The place of `o` lies within the place of `u`. -/
def Within (o u : Occurrence) : Prop :=
  u.start ≤ o.start ∧ o.stop ≤ u.stop

variable {offset : Nat} {o u : Occurrence} {t : Text}

theorem within_refl (o : Occurrence) : o.Within o :=
  ⟨Nat.le_refl _, Nat.le_refl _⟩

theorem stop_of_within (ho : o.StandsIn offset t) (hu : u.StandsIn offset t) (h : o.Within u) :
    o.stop = u.stop := by
  obtain ⟨hstart, hstop⟩ := h
  have := start_lt_stop ho
  rcases stop_eq_or_apart ho hu with heq | hbefore | hbehind
  · exact heq
  · omega
  · omega

theorem token_of_within (ho : o.StandsIn offset t) (hu : u.StandsIn offset t) (h : o.Within u) :
    ∃ w, u.token = w ++ o.token ∧ o.start = u.start + Text.byteLength w := by
  have hends := stop_of_within ho hu h
  obtain ⟨-, b, r, hb, hbstart, hbstop⟩ := ho
  obtain ⟨-, b', r', hb', hbstart', hbstop'⟩ := hu
  have hcut : b ++ o.token = b' ++ u.token := by
    refine (Text.append_inj_of_byteLength (t := r) (u := r') ?_ ?_).1
    · rw [List.append_assoc, List.append_assoc, ← hb, ← hb']
    · rw [Text.byteLength_append, Text.byteLength_append]
      omega
  rcases List.append_eq_append_iff.mp hcut with ⟨w, rfl, hw⟩ | ⟨w, rfl, hw⟩
  · have hle := h.1
    rw [Text.byteLength_append] at hbstart'
    obtain rfl : w = [] := Text.byteLength_eq_zero.mp (by omega)
    exact ⟨[], hw.symm, by simp only [Text.byteLength_nil] at *; omega⟩
  · refine ⟨w, hw, ?_⟩
    rw [Text.byteLength_append] at hbstart
    omega

theorem dollar_mem_token (o : Occurrence) : '$' ∈ o.token := by
  rw [token]
  cases o.argument <;> simp [Placeholder.written, Placeholder.opening]

theorem eq_of_within (ho : o.StandsIn offset t) (hu : u.StandsIn offset t) (h : o.Within u)
    (hfree : ∀ a ∈ u.argument, '$' ∉ a) : o = u := by
  obtain ⟨w, hw, hstart⟩ := token_of_within ho hu h
  obtain ⟨v, hv, hdollar⟩ := Placeholder.written_eq_dollar (p := u.placeholder) hfree
  rw [token, hv] at hw
  cases w with
  | nil => exact eq_of_start ho hu hstart
  | cons c w =>
    rw [(List.cons.inj hw).2] at hdollar
    exact absurd (List.mem_append_right w o.dollar_mem_token) hdollar

theorem takesArgument_of_within (ho : o.StandsIn offset t) (hu : u.StandsIn offset t)
    (h : o.Within u) (hne : o ≠ u) : u.placeholder.takesArgument = true := by
  cases hx : u.argument with
  | some a =>
    have hadmits := hu.1
    rw [hx] at hadmits
    exact hadmits.1
  | none =>
    have hfree : ∀ a ∈ u.argument, '$' ∉ a := by simp [hx]
    exact absurd (eq_of_within ho hu h hfree) hne

/-- Some byte of the text belongs to both tokens. -/
def Overlaps (o u : Occurrence) : Prop :=
  ∃ i, (o.start ≤ i ∧ i < o.stop) ∧ u.start ≤ i ∧ i < u.stop

/-- A token is the end of another one, which begins earlier and takes an argument. -/
structure Ends (o u : Occurrence) : Prop where
  later : u.start < o.start
  stop : o.stop = u.stop
  suffix : o.token <:+ u.token
  argument : u.placeholder.takesArgument = true

theorem stop_of_overlaps (ho : o.StandsIn offset t) (hu : u.StandsIn offset t)
    (h : o.Overlaps u) : o.stop = u.stop := by
  obtain ⟨i, ⟨hstart, hstop⟩, hstart', hstop'⟩ := h
  rcases stop_eq_or_apart ho hu with heq | hbefore | hbehind
  · exact heq
  · omega
  · omega

theorem ends_of_start_lt (ho : o.StandsIn offset t) (hu : u.StandsIn offset t)
    (hstop : o.stop = u.stop) (hlt : u.start < o.start) : o.Ends u := by
  have hwithin : o.Within u := ⟨Nat.le_of_lt hlt, Nat.le_of_eq hstop⟩
  have hne : o ≠ u := by
    rintro rfl
    exact Nat.lt_irrefl _ hlt
  obtain ⟨w, hw, -⟩ := token_of_within ho hu hwithin
  exact ⟨hlt, hstop, ⟨w, hw.symm⟩, takesArgument_of_within ho hu hwithin hne⟩

theorem newline_notMem_argument (ho : o.StandsIn offset t) : ∀ a ∈ o.argument, '\n' ∉ a := by
  intro a ha
  have hadmits := ho.1
  rw [show o.argument = some a from ha] at hadmits
  exact hadmits.2.2

/-- The placeholder reads a token off the text at `start` and goes on behind `stop`. -/
def IsRead (t : Text) (o : Occurrence) : Prop :=
  ∃ before rest after, t = before ++ rest ∧
    o.placeholder.read? rest = some (o.argument, after) ∧
    o.start = Text.byteLength before ∧ o.stop + Text.byteLength after = Text.byteLength t

theorem standsIn_of_isRead (h : o.IsRead t) : o.StandsIn 0 t := by
  obtain ⟨before, rest, after, rfl, hread, hstart, hstop⟩ := h
  obtain ⟨rfl, hadmits⟩ := Placeholder.read?_eq_some.mp hread
  refine ⟨hadmits, before, after, rfl, by rw [hstart, Nat.zero_add], ?_⟩
  rw [Text.byteLength_append, Text.byteLength_append, ← token] at hstop
  omega

/-- Of the tokens that can be read in a text no two begin at the same place, each ends at its only
brace, and of two that overlap the one that begins later is the end of the other. -/
theorem overlapping_tokens (t : Text) :
    (∀ o u : Occurrence, o.IsRead t → u.IsRead t → o.start = u.start → o = u) ∧
      (∀ o : Occurrence, o.IsRead t →
        (∃ before w after, t = before ++ (w ++ '}' :: after) ∧ o.token = w ++ ['}'] ∧ '}' ∉ w ∧
          o.start = Text.byteLength before ∧ o.stop = Text.byteLength (before ++ o.token)) ∧
        ∀ a ∈ o.argument, '\n' ∉ a) ∧
      ∀ o u : Occurrence, o.IsRead t → u.IsRead t → o ≠ u → o.Overlaps u → o.Ends u ∨ u.Ends o := by
  refine ⟨?_, ?_, ?_⟩
  · intro o u ho hu hstart
    exact eq_of_start (standsIn_of_isRead ho) (standsIn_of_isRead hu) hstart
  · intro o ho
    have hstands := standsIn_of_isRead ho
    refine ⟨?_, newline_notMem_argument hstands⟩
    obtain ⟨hadmits, before, after, ht, hstart, hstop⟩ := hstands
    rw [Nat.zero_add] at hstart
    obtain ⟨w, hw, hbrace⟩ := Placeholder.written_eq hadmits
    refine ⟨before, w, after, ?_, hw, hbrace, hstart, ?_⟩
    · rw [ht, token, hw, List.append_assoc, List.singleton_append]
    · rw [hstop, hstart, Text.byteLength_append]
  · intro o u ho hu hne hoverlaps
    replace ho := standsIn_of_isRead ho
    replace hu := standsIn_of_isRead hu
    have hstop := stop_of_overlaps ho hu hoverlaps
    rcases Nat.lt_trichotomy u.start o.start with hlt | heq | hlt
    · exact Or.inl (ends_of_start_lt ho hu hstop hlt)
    · exact absurd (eq_of_start ho hu heq.symm) hne
    · exact Or.inr (ends_of_start_lt hu ho hstop.symm hlt)

example :
    let t := Placeholder.env.written (some Placeholder.file.opening)
    IsRead t ⟨.env, some Placeholder.file.opening, 0, 13⟩ ∧ IsRead t ⟨.file, none, 6, 13⟩ :=
  ⟨⟨[], _, [], rfl, by decide, rfl, by decide⟩,
    ⟨"$\x7benv:".toList, _, [], rfl, by decide, by decide, by decide⟩⟩

end Occurrence

theorem Placeholder.triggersRecursion_of_takesArgument {p : Placeholder}
    (h : p.takesArgument = true) : p.triggersRecursion = true := by
  revert h
  cases p <;> decide

theorem hasResidual_iff {t : Text} :
    hasResidual t = true ↔
      ∃ o : Occurrence, o.StandsIn 0 t ∧ o.placeholder.triggersRecursion = true := by
  rw [← Bool.not_eq_false, hasResidual_eq_false_iff 0]
  simp only [not_forall, Bool.not_eq_false, exists_prop]

/-- A text asks for another pass just if a scan of it reports a token that does: the search for
such a token and the scan, which drops overlaps, never disagree. -/
theorem hasResidual_iff_reported (t : Text) :
    hasResidual t = true ↔ ∃ o ∈ scan t, o.placeholder.triggersRecursion = true := by
  rw [hasResidual_iff]
  constructor
  · rintro ⟨u, hu, htrigger⟩
    obtain ⟨o, ho, hwithin⟩ := exists_scan hu
    refine ⟨o, ho, ?_⟩
    by_cases heq : u = o
    · rw [← heq]
      exact htrigger
    · have hargument :=
        Occurrence.takesArgument_of_within hu (mem_scan.mp ho).stands hwithin heq
      exact Placeholder.triggersRecursion_of_takesArgument hargument
  · rintro ⟨o, ho, htrigger⟩
    exact ⟨o, (mem_scan.mp ho).stands, htrigger⟩

end Interpolation
