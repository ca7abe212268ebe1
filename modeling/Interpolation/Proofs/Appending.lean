import Interpolation.Proofs.Components
import Mathlib.Data.List.Forall2

/-!
# Appended and relative paths

Reading, appending and relating make paths in normal form only, and such a path is read as it was,
whichever separator it is written with. Relating undoes appending: a segment appended to a path is,
as seen from the path, the normal form of the segment. A drive root is no such segment, since it
loses its separator behind a path.
-/

namespace Interpolation

theorem Text.exists_dropTrailing (c : Char) (t : Text) :
    ∃ n, t = dropTrailing c t ++ List.replicate n c := by
  let dropped := t.rtakeWhile (· == c)
  have hdropped : dropped = List.replicate dropped.length c := by
    refine List.eq_replicate_of_mem ?_
    intro d hd
    simpa using List.mem_rtakeWhile_imp hd
  refine ⟨dropped.length, ?_⟩
  rw [← hdropped]
  exact List.rdropWhile_append_rtakeWhile.symm

namespace NormalPath

variable {p base r : NormalPath} {t u b segment : Text}

/-- Two texts with the same characters, but for the choice of each separator. -/
def SameButSeparators : Text → Text → Prop :=
  List.Forall₂ fun c d => c = d ∨ IsSeparator c ∧ IsSeparator d

theorem slashed_eq_iff : slashed t = slashed u ↔ SameButSeparators t u := by
  have hchar : ∀ c d : Char, ((if c = '\\' then '/' else c) = if d = '\\' then '/' else d) ↔
      c = d ∨ IsSeparator c ∧ IsSeparator d := by
    intro c d
    by_cases hc : c = '\\' <;> by_cases hd : d = '\\' <;> grind [IsSeparator]
  unfold slashed Text.replaceChar SameButSeparators
  rw [← List.forall₂_eq_eq_eq, List.forall₂_map_left_iff, List.forall₂_map_right_iff]
  simp only [hchar]

private theorem isRootBody_of_isNormal_append {k : Nat} (hback : '\\' ∉ b)
    (h : IsNormal ⟨b ++ List.replicate (k + 1) '/'⟩) : k = 0 ∧ IsRootBody b := by
  have hback' : '\\' ∉ b ++ List.replicate k '/' := by simpa using hback
  rw [List.replicate_succ', ← List.append_assoc, isNormal_concat_iff hback'] at h
  cases k with
  | zero => exact ⟨rfl, by simpa using h⟩
  | succ k => exact absurd (by simp) (slash_notMem_of_isRootBody h)

/-- Reading drops separators at the end, one by one, until the text is in normal form. -/
theorem exists_dropped (t : Text) :
    ∃ n, slashed t = (ofText t).text ++ List.replicate n '/' ∧
      ∀ k < n, ¬ IsNormal ⟨(ofText t).text ++ List.replicate (k + 1) '/'⟩ := by
  have hback := notMem_slashed t
  have hlast := Text.getLast?_dropTrailing '/' (slashed t)
  have hread := ofText_eq t
  obtain ⟨m, hm⟩ := Text.exists_dropTrailing '/' (slashed t)
  generalize Text.dropTrailing '/' (slashed t) = b at hm hlast hread
  have hb : '\\' ∉ b := fun h => hback (hm ▸ List.mem_append_left _ h)
  rw [hm] at hread ⊢
  cases m with
  | zero =>
    rw [List.replicate_zero, List.append_nil, if_neg hlast] at hread
    exact ⟨0, by simp [hread]⟩
  | succ m =>
    rw [if_pos (by simp [List.replicate_succ']), ofBody] at hread
    split at hread
    · refine ⟨m, by simp [hread, List.replicate_succ], fun k _ hnormal => ?_⟩
      rw [hread] at hnormal
      have hroot := (isRootBody_of_isNormal_append (by simpa using hb) hnormal).2
      exact slash_notMem_of_isRootBody hroot (by simp)
    · next hroot =>
      refine ⟨m + 1, by simp [hread], fun k _ hnormal => ?_⟩
      rw [hread] at hnormal
      exact hroot (isRootBody_of_isNormal_append hb hnormal).2

theorem isNormal_join (p : NormalPath) (segment : Text) : (p.join segment).IsNormal := by
  unfold join
  split
  · exact isNormal_ofText _
  · split
    · exact isNormal_ofText _
    · exact isNormal_ofText _

theorem IsNormal.relativeTo? (h : p.IsNormal) (hr : p.relativeTo? base = some r) :
    r.IsNormal := by
  rcases relativeTo?_eq_some.mp hr with hbehind | ⟨-, -, hempty⟩
  · refine ⟨fun hm => h.notMem (by simp [hbehind, hm]), fun hlast => ?_⟩
    have hne : r.text ≠ [] := by
      intro hempty
      rw [hempty] at hlast
      cases hlast
    have hend : p.text.getLast? = some '/' := by
      rw [hbehind, Text.getLast?_behind _ _ hne, hlast]
    exact absurd (h.eq_nil_of_behind hbehind hend) hne
  · exact ⟨by simp [hempty], by simp [hempty]⟩

/-- The paths that reading, appending and relating make. -/
inductive Built : NormalPath → Prop
  | ofText (t : Text) : Built (ofText t)
  | join {p : NormalPath} (segment : Text) : Built p → Built (p.join segment)
  | relativeTo {p base r : NormalPath} :
    Built p → Built base → p.relativeTo? base = some r → Built r

theorem Built.isNormal (h : Built p) : p.IsNormal := by
  induction h with
  | ofText t => exact isNormal_ofText t
  | join segment _ _ => exact isNormal_join _ segment
  | relativeTo _ _ hr ih _ => exact ih.relativeTo? hr

theorem IsNormal.ofText_render (h : p.IsNormal) {separator : Char} (hs : IsSeparator separator) :
    ofText (p.render separator) = p :=
  (ofText_congr (slashed_render hs)).trans h.ofText_text

/-- The normal form of paths. Reading a text gives a path in normal form: it drops separators at the
end, one by one, until the text is in normal form. It makes no difference which separators the text
has, and a text in normal form stays. Every path made by reading, appending and relating is in
normal form, and is read as it was from its text with either separator. -/
theorem normal_form_kept :
    (∀ t, (ofText t).IsNormal ∧ ∃ n, slashed t = (ofText t).text ++ List.replicate n '/' ∧
      ∀ k < n, ¬ IsNormal ⟨(ofText t).text ++ List.replicate (k + 1) '/'⟩) ∧
      (∀ t u, SameButSeparators t u → ofText t = ofText u) ∧
      (∀ p : NormalPath, p.IsNormal → ofText p.text = p) ∧
      ∀ p, Built p →
        p.IsNormal ∧ ∀ separator, IsSeparator separator → ofText (p.render separator) = p := by
  refine ⟨?_, ?_, ?_, ?_⟩
  · intro t
    exact ⟨isNormal_ofText t, exists_dropped t⟩
  · intro t u h
    exact ofText_congr (slashed_eq_iff.mpr h)
  · intro p h
    exact h.ofText_text
  · intro p h
    exact ⟨h.isNormal, fun separator hs => h.isNormal.ofText_render hs⟩

theorem normal_form_kept_drive :
    let drive := ofText "C:\\".toList
    let folder := drive.join "é:\\src//".toList
    folder.text = "C:/é:/src".toList ∧
      ∃ r, folder.relativeTo? drive = some r ∧ r.text = "é:/src".toList ∧ r.IsNormal ∧
        ofText (r.render '\\') = r := by
  intro drive folder
  have hr : folder.relativeTo? drive = some ⟨"é:/src".toList⟩ := by decide +kernel
  have hbuilt : Built folder := .join _ (.ofText _)
  obtain ⟨-, -, -, hkept⟩ := normal_form_kept
  obtain ⟨hnormal, hrender⟩ := hkept _ (.relativeTo hbuilt (.ofText _) hr)
  exact ⟨by decide +kernel, _, hr, rfl, hnormal, hrender '\\' (Or.inr rfl)⟩

theorem text_join (h : base.IsNormal) (hne : base.text ≠ []) (hsegment : segment ≠ [])
    (hhead : (slashed segment).head? ≠ some '/') (hroot : ¬ (ofText segment).IsRoot) :
    (base.join segment).text = base.trimmed ++ '/' :: (ofText segment).text := by
  rw [h.join_eq hne, text_ofText_append _ hsegment hhead hroot,
    slashed_of_notMem h.notMem_trimmed]

theorem join_nil (h : base.IsNormal) (hne : base.text ≠ []) :
    base.join [] = ofBody base.trimmed := by
  rw [h.join_eq hne, ofText_of_closed h.notMem_trimmed (Text.getLast?_dropTrailing '/' _)]

theorem relativeTo?_ofBody (base : NormalPath) :
    (ofBody base.trimmed).relativeTo? base = some ⟨[]⟩ := by
  rw [relativeTo?_eq_some]
  unfold ofBody
  split
  · exact Or.inl rfl
  · next hroot => exact Or.inr ⟨fun hempty => hroot (Or.inl hempty), rfl, rfl⟩

/-- Relating undoes appending. For every path but the empty one, and every segment that does not
begin with a separator and whose normal form is no drive root: the path with the segment appended is
within the path, and is the normal form of the segment as seen from it. -/
theorem relativeTo?_join (t segment : Text) (hne : (ofText t).text ≠ [])
    (hslash : segment.head? ≠ some '/') (hbackslash : segment.head? ≠ some '\\')
    (hroot : ∀ drive, isDrive drive = true → (ofText segment).text ≠ drive ++ ['/']) :
    let base := ofText t
    (base.join segment).isWithin base = true ∧
      (base.join segment).relativeTo? base = some (ofText segment) := by
  intro base
  have hbase : base.IsNormal := isNormal_ofText t
  have hrelative : (base.join segment).relativeTo? base = some (ofText segment) := by
    by_cases hsegment : segment = []
    · subst segment
      rw [join_nil hbase hne]
      exact relativeTo?_ofBody base
    · have hhead : (slashed segment).head? ≠ some '/' := by
        rw [Ne, head?_slashed]
        exact not_or.mpr ⟨hslash, hbackslash⟩
      have hnoRoot : ¬ (ofText segment).IsRoot := by
        intro h
        obtain ⟨drive, hdrive, htext⟩ := isDrive_of_isRoot hsegment hhead h
        exact hroot drive hdrive htext
      exact relativeTo?_eq_some.mpr (Or.inl (text_join hbase hne hsegment hhead hnoRoot))
  exact ⟨isWithin_eq_true.mpr ⟨_, hrelative⟩, hrelative⟩

theorem relativeTo?_join_drive :
    let base := ofText "C:".toList
    let segment := "D:\\a//".toList
    base.join segment = ofText "C:/D:/a".toList ∧
      (base.join segment).isWithin base = true ∧
      (base.join segment).relativeTo? base = some (ofText "D:/a".toList) := by
  intro base segment
  have hsegment : ofText segment = ofText "D:/a".toList := by decide +kernel
  have hroot : ∀ drive, isDrive drive = true → (ofText segment).text ≠ drive ++ ['/'] := by
    intro drive _ heq
    have hlast := congrArg List.getLast? heq
    rw [hsegment, List.getLast?_concat] at hlast
    exact absurd hlast (by decide +kernel)
  have hjoin := relativeTo?_join "C:".toList segment (by decide) (by decide) (by decide) hroot
  rw [hsegment] at hjoin
  exact ⟨by decide +kernel, hjoin⟩

end NormalPath

end Interpolation
