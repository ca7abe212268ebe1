import Interpolation.Proofs.Stretch

/-!
# Where tokens stand

An occurrence stands in a text if its token can be read there at its place. Offsets count bytes; a
text may begin at any offset, so that a statement about the text behind a stretch is about the same
places as one about the whole text.
-/

namespace Interpolation

namespace Text

theorem byteLength_eq_zero {a : Text} : byteLength a = 0 ↔ a = [] := by
  cases a with
  | nil => simp
  | cons c a =>
    have := c.utf8Size_pos
    simp only [byteLength_cons, List.cons_ne_nil, iff_false]
    omega

theorem append_inj_of_byteLength {a b t u : Text} (h : a ++ t = b ++ u)
    (hl : byteLength a = byteLength b) : a = b ∧ t = u := by
  induction a generalizing b with
  | nil =>
    obtain rfl := byteLength_eq_zero.mp hl.symm
    exact ⟨rfl, h⟩
  | cons c a ih =>
    cases b with
    | nil =>
      have := byteLength_eq_zero.mp hl
      simp at this
    | cons d b =>
      simp only [List.cons_append, List.cons.injEq] at h
      obtain ⟨rfl, h⟩ := h
      simp only [byteLength_cons, Nat.add_left_cancel_iff] at hl
      simp [ih h hl]

theorem splitAt?_zero (t : Text) : splitAt? 0 t = some ([], t) := by
  cases t <;> rfl

theorem splitAt?_add (a t : Text) (n : Nat) :
    splitAt? (byteLength a + n) (a ++ t) =
      (splitAt? n t).map fun cut => (a ++ cut.1, cut.2) := by
  induction a with
  | nil => simp
  | cons c a ih =>
    have hpos := c.utf8Size_pos
    obtain ⟨m, hm⟩ : ∃ m, byteLength (c :: a) + n = m + 1 :=
      ⟨byteLength (c :: a) + n - 1, by simp only [byteLength_cons]; omega⟩
    have hle : c.utf8Size ≤ m + 1 := by simp only [byteLength_cons] at hm; omega
    have hsub : m + 1 - c.utf8Size = byteLength a + n := by
      simp only [byteLength_cons] at hm
      omega
    rw [hm, List.cons_append, splitAt?, if_pos hle, hsub, ih]
    cases splitAt? n t <;> simp

theorem splitAt?_append (a t : Text) : splitAt? (byteLength a) (a ++ t) = some (a, t) := by
  have h := splitAt?_add a t 0
  rw [Nat.add_zero, splitAt?_zero] at h
  simpa using h

end Text

namespace Placeholder

variable {p : Placeholder}

theorem find?_le {x : Option Text} (hx : p.Admits x) (b r : Text) :
    ∃ f, p.find? (b ++ (p.written x ++ r)) = some f ∧
      Text.byteLength f.before ≤ Text.byteLength b := by
  induction b with
  | nil =>
    have hr : p.read? (p.written x ++ r) = some (x, r) := read?_eq_some.mpr ⟨rfl, hx⟩
    refine ⟨⟨[], x, r⟩, ?_, Nat.le_refl _⟩
    cases hw : p.written x ++ r with
    | nil => simp [hw, read?] at hr
    | cons c t =>
      rw [hw] at hr
      rw [List.nil_append, find?, hr]
  | cons c b ih =>
    obtain ⟨f, hf, hle⟩ := ih
    rw [List.cons_append, find?]
    cases p.read? (c :: (b ++ (p.written x ++ r))) with
    | some found => exact ⟨_, rfl, by simp⟩
    | none => exact ⟨{ f with before := c :: f.before }, by simp [hf], by simp [hle]⟩

theorem written_inj {x y : Option Text} (h : p.written x = p.written y) : x = y := by
  cases x <;> cases y <;> simp_all [written]

/-- A found token at its place in a text that begins at `offset`. -/
def Found.occurrence (p : Placeholder) (offset : Nat) (f : Found) : Occurrence :=
  let start := offset + Text.byteLength f.before
  ⟨p, f.argument, start, start + Text.byteLength (p.written f.argument)⟩

end Placeholder

namespace Occurrence

/-- The token of the occurrence stands at its place in a text that begins at `offset`. -/
def StandsIn (offset : Nat) (t : Text) (o : Occurrence) : Prop :=
  o.placeholder.Admits o.argument ∧
    ∃ before after, t = before ++ (o.token ++ after) ∧
      o.start = offset + Text.byteLength before ∧ o.stop = o.start + Text.byteLength o.token

variable {offset : Nat} {o u : Occurrence}

theorem byteLength_token_pos (o : Occurrence) : 0 < Text.byteLength o.token := by
  apply Nat.pos_of_ne_zero
  intro h
  have := o.placeholder.written_length_pos o.argument
  rw [← token, Text.byteLength_eq_zero.mp h] at this
  simp at this

theorem start_lt_stop {t : Text} (h : o.StandsIn offset t) : o.start < o.stop := by
  obtain ⟨-, -, -, -, -, hstop⟩ := h
  have := o.byteLength_token_pos
  omega

theorem offset_le_start {t : Text} (h : o.StandsIn offset t) : offset ≤ o.start := by
  obtain ⟨-, before, -, -, hstart, -⟩ := h
  omega

/-- The placeholder and the two ends determine an occurrence. -/
theorem eq_of_standsIn {t : Text} (ho : o.StandsIn offset t) (hu : u.StandsIn offset t)
    (hp : o.placeholder = u.placeholder) (hstart : o.start = u.start) (hstop : o.stop = u.stop) :
    o = u := by
  obtain ⟨-, b, r, rfl, hb, hr⟩ := ho
  obtain ⟨-, b', r', ht, hb', hr'⟩ := hu
  have hcut := Text.append_inj_of_byteLength ht (by omega)
  have htoken := (Text.append_inj_of_byteLength hcut.2 (by omega)).1
  rw [token, token, hp] at htoken
  have hargument := Placeholder.written_inj htoken
  cases o
  cases u
  simp only [Occurrence.mk.injEq]
  exact ⟨hp, hargument, hstart, hstop⟩

theorem not_standsIn_open {a : Text} (ha : '}' ∉ a) : ¬ o.StandsIn offset a := by
  rintro ⟨hx, before, after, rfl, -⟩
  obtain ⟨w, hw, -⟩ := Placeholder.written_eq hx
  rw [token, hw] at ha
  simp at ha

theorem standsIn_append {a : Text} (ha : '}' ∉ a) (t : Text) :
    o.StandsIn offset (a ++ '}' :: t) ↔
      o.StandsIn offset (a ++ ['}']) ∨
        o.StandsIn (offset + Text.byteLength (a ++ ['}'])) t := by
  constructor
  · rintro ⟨hx, before, after, ht, hstart, hstop⟩
    obtain ⟨w, hw, hwb⟩ := Placeholder.written_eq hx
    rw [token, hw] at ht
    by_cases hb : '}' ∈ before
    · obtain ⟨b, b', rfl, hbb⟩ := List.eq_append_cons_of_mem hb
      right
      simp only [List.append_assoc, List.cons_append] at ht
      obtain ⟨rfl, rfl⟩ := (Text.append_brace_inj ha hbb).mp ht
      refine ⟨hx, b', after, by simp [token, hw], ?_, hstop⟩
      rw [hstart]
      simp only [Text.byteLength_append, Text.byteLength_cons, Text.byteLength_nil]
      omega
    · left
      have ht' : a ++ '}' :: t = (before ++ w) ++ '}' :: after := by simpa using ht
      obtain ⟨rfl, rfl⟩ := (Text.append_brace_inj ha (by simp [hb, hwb])).mp ht'
      exact ⟨hx, before, [], by simp [token, hw], hstart, hstop⟩
  · rintro (⟨hx, before, after, ht, hstart, hstop⟩ | ⟨hx, before, after, rfl, hstart, hstop⟩)
    · refine ⟨hx, before, after ++ t, ?_, hstart, hstop⟩
      rw [← List.append_assoc, ← List.append_assoc, List.append_assoc before, ← ht]
      simp
    · refine ⟨hx, a ++ '}' :: before, after, by simp, ?_, hstop⟩
      rw [hstart]
      simp only [Text.byteLength_append, Text.byteLength_cons, Text.byteLength_nil]
      omega

theorem stop_of_stretch {a : Text} (ha : '}' ∉ a) (h : o.StandsIn offset (a ++ ['}'])) :
    o.stop = offset + Text.byteLength (a ++ ['}']) := by
  obtain ⟨hx, before, after, ht, hstart, hstop⟩ := h
  obtain ⟨w, hw, -⟩ := Placeholder.written_eq hx
  have ht' : a ++ '}' :: [] = (before ++ w) ++ '}' :: after := by simpa [token, hw] using ht
  have hbw : '}' ∉ before ++ w := by
    intro hm
    obtain ⟨b, b', hbb, hb⟩ := List.eq_append_cons_of_mem hm
    rw [hbb, List.append_assoc] at ht'
    have := ((Text.append_brace_inj ha hb).mp ht').2
    simp at this
  obtain ⟨rfl, rfl⟩ := (Text.append_brace_inj ha hbw).mp ht'
  rw [hstop, hstart, token, hw]
  simp only [Text.byteLength_append, Text.byteLength_cons, Text.byteLength_nil]
  omega

theorem standsIn_of_find? (offset : Nat) {p : Placeholder} {t : Text} {f : Placeholder.Found}
    (h : p.find? t = some f) : (f.occurrence p offset).StandsIn offset t := by
  obtain ⟨ht, hx⟩ := Placeholder.eq_of_find? h
  exact ⟨hx, f.before, f.after, ht, rfl, rfl⟩

/-- If a token of the placeholder stands in a text, the leftmost one is found. -/
theorem find?_of_standsIn {t : Text} (h : u.StandsIn offset t) :
    ∃ f, u.placeholder.find? t = some f ∧
      (f.occurrence u.placeholder offset).start ≤ u.start := by
  obtain ⟨hx, before, after, rfl, hstart, -⟩ := h
  obtain ⟨f, hf, hle⟩ := Placeholder.find?_le hx before after
  refine ⟨f, hf, ?_⟩
  rw [hstart]
  exact Nat.add_le_add_left hle offset

end Occurrence

end Interpolation
