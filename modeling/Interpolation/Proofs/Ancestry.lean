import Interpolation.Proofs.Components

/-!
# The order of paths by ancestry

A path that is within a second one, which is within a third one, is within the third. Every path is
within itself, but for the empty one. Two paths that are within each other are the same, or a drive
with its separator and without it.
-/

namespace Interpolation

namespace NormalPath

variable {p q r : NormalPath}

theorem IsNormal.trimmed_of_isWithin (h : p.IsNormal) (hwithin : p.isWithin q = true) :
    p.trimmed = q.trimmed ∨ ∃ rest, p.trimmed = q.trimmed ++ '/' :: rest := by
  rcases h.text_eq with hopen | ⟨hroot, hclosed⟩
  · rw [← hopen]
    exact (isWithin_iff_text.mp hwithin).imp And.right id
  · left
    rcases isWithin_iff_text.mp hwithin with ⟨-, hsame⟩ | ⟨rest, hbehind⟩
    · have hlast := Text.getLast?_dropTrailing '/' q.text
      change q.trimmed.getLast? ≠ some '/' at hlast
      rw [← hsame, hclosed, List.getLast?_concat] at hlast
      exact absurd rfl hlast
    · have hend : p.text.getLast? = some '/' := by rw [hclosed, List.getLast?_concat]
      obtain rfl := h.eq_nil_of_behind hbehind hend
      exact List.append_cancel_right (hclosed.symm.trans hbehind)

theorem IsNormal.isWithin_trans (h : q.IsNormal) (hpq : p.isWithin q = true)
    (hqr : q.isWithin r = true) : p.isWithin r = true := by
  have hp := isWithin_iff_text.mp hpq
  rw [isWithin_iff_text]
  rcases h.trimmed_of_isWithin hqr with hsame | ⟨rest, hbehind⟩
  · rwa [← hsame]
  · right
    rcases hp with ⟨-, heq⟩ | ⟨more, heq⟩
    · exact ⟨rest, heq.trans hbehind⟩
    · exact ⟨rest ++ '/' :: more, by rw [heq, hbehind]; simp⟩

theorem text_ne_nil_of_isWithin (h : p.isWithin q = true) : p.text ≠ [] := by
  rcases isWithin_iff_text.mp h with ⟨hne, hsame⟩ | ⟨rest, hbehind⟩
  · rwa [hsame]
  · simp [hbehind]

theorem IsNormal.relativeTo?_self (h : p.IsNormal) (hne : p.text ≠ []) :
    p.relativeTo? p = some ⟨[]⟩ := by
  rw [relativeTo?_eq_some]
  rcases h.text_eq with hopen | ⟨-, hclosed⟩
  · rw [hopen] at hne
    exact Or.inr ⟨hne, hopen, rfl⟩
  · exact Or.inl hclosed

theorem IsNormal.isWithin_self_iff (h : p.IsNormal) : p.isWithin p = true ↔ p.text ≠ [] :=
  ⟨text_ne_nil_of_isWithin, fun hne => isWithin_eq_true.mpr ⟨_, h.relativeTo?_self hne⟩⟩

theorem IsNormal.trimmed_eq_of_isWithin (hp : p.IsNormal) (hq : q.IsNormal)
    (hpq : p.isWithin q = true) (hqp : q.isWithin p = true) : p.trimmed = q.trimmed := by
  rcases hp.trimmed_of_isWithin hpq with hsame | ⟨rest, hlonger⟩
  · exact hsame
  · rcases hq.trimmed_of_isWithin hqp with hsame | ⟨more, hlonger'⟩
    · exact hsame.symm
    · have hlength := congrArg List.length hlonger
      have hlength' := congrArg List.length hlonger'
      simp only [List.length_append, List.length_cons] at hlength hlength'
      omega

theorem trimmed_of_drive {drive : Text} (hdrive : isDrive drive = true)
    (hp : p.text = drive ∨ p.text = drive ++ ['/']) : p.trimmed = drive := by
  have hlast : drive.getLast? ≠ some '/' := fun h =>
    slash_notMem_of_isDrive hdrive (List.mem_of_getLast? h)
  rcases hp with hopen | hclosed
  · rw [trimmed, hopen, Text.dropTrailing_of_getLast? hlast]
  · rw [trimmed, hclosed, Text.dropTrailing_concat, Text.dropTrailing_of_getLast? hlast]

theorem isWithin_of_drive {drive : Text} (hdrive : isDrive drive = true)
    (hp : p.text = drive ∨ p.text = drive ++ ['/'])
    (hq : q.text = drive ∨ q.text = drive ++ ['/']) : p.isWithin q = true := by
  have hne : drive ≠ [] := by
    rintro rfl
    cases hdrive
  rw [isWithin_iff_text, trimmed_of_drive hdrive hq]
  exact hp.imp (⟨hne, ·⟩) (⟨[], ·⟩)

/-- Only a drive, with its separator and without it, makes two paths that are within each other. -/
theorem IsNormal.isWithin_both_iff (hp : p.IsNormal) (hq : q.IsNormal) :
    p.isWithin q = true ∧ q.isWithin p = true ↔
      p = q ∧ p.text ≠ [] ∨
        ∃ drive, isDrive drive = true ∧
          (p.text = drive ∧ q.text = drive ++ ['/'] ∨
            p.text = drive ++ ['/'] ∧ q.text = drive) := by
  constructor
  · rintro ⟨hpq, hqp⟩
    have hpne := text_ne_nil_of_isWithin hpq
    have hqne := text_ne_nil_of_isWithin hqp
    have hsame := hp.trimmed_eq_of_isWithin hq hpq hqp
    rcases hp.text_eq with hopen | ⟨hpRoot, hclosed⟩
    · rcases hq.text_eq with hopen' | ⟨hqRoot, hclosed'⟩
      · have htext : p.text = q.text := by rw [hopen, hopen', hsame]
        exact Or.inl ⟨congrArg NormalPath.mk htext, hpne⟩
      · rw [hopen, hsame] at hpne
        have hdrive : isDrive q.trimmed = true := hqRoot.resolve_left hpne
        exact Or.inr ⟨q.trimmed, hdrive, Or.inl ⟨hopen.trans hsame, hclosed'⟩⟩
    · rcases hq.text_eq with hopen' | ⟨hqRoot, hclosed'⟩
      · rw [hopen', ← hsame] at hqne
        have hdrive : isDrive p.trimmed = true := hpRoot.resolve_left hqne
        exact Or.inr ⟨p.trimmed, hdrive, Or.inr ⟨hclosed, hopen'.trans hsame.symm⟩⟩
      · have htext : p.text = q.text := by rw [hclosed, hclosed', hsame]
        exact Or.inl ⟨congrArg NormalPath.mk htext, hpne⟩
  · rintro (⟨rfl, hne⟩ | ⟨drive, hdrive, ⟨hpText, hqText⟩ | ⟨hpText, hqText⟩⟩)
    · exact ⟨hp.isWithin_self_iff.mpr hne, hp.isWithin_self_iff.mpr hne⟩
    · exact ⟨isWithin_of_drive hdrive (Or.inl hpText) (Or.inr hqText),
        isWithin_of_drive hdrive (Or.inr hqText) (Or.inl hpText)⟩
    · exact ⟨isWithin_of_drive hdrive (Or.inr hpText) (Or.inl hqText),
        isWithin_of_drive hdrive (Or.inl hqText) (Or.inr hpText)⟩

/-- How far being within is a partial order of the paths that are read. A path is within itself, and
empty as seen from itself, just if it is not empty. A path within a second one is within everything
that the second one is within. Two paths are within each other just if they are the same and not
empty, or a drive with its separator and without it. -/
theorem isWithin_order (t u v : Text) :
    let p := ofText t
    let q := ofText u
    let r := ofText v
    (p.relativeTo? p = some ⟨[]⟩ ↔ p.text ≠ []) ∧
      (p.isWithin p = true ↔ p.text ≠ []) ∧
      (p.isWithin q = true → q.isWithin r = true → p.isWithin r = true) ∧
      (p.isWithin q = true ∧ q.isWithin p = true ↔
        p = q ∧ p.text ≠ [] ∨
          ∃ drive, isDrive drive = true ∧
            (p.text = drive ∧ q.text = drive ++ ['/'] ∨
              p.text = drive ++ ['/'] ∧ q.text = drive)) := by
  intro p q r
  have hp : p.IsNormal := isNormal_ofText t
  have hq : q.IsNormal := isNormal_ofText u
  refine ⟨⟨?_, hp.relativeTo?_self⟩, hp.isWithin_self_iff, hq.isWithin_trans,
    hp.isWithin_both_iff hq⟩
  intro hself
  exact text_ne_nil_of_isWithin (isWithin_eq_true.mpr ⟨_, hself⟩)

theorem isWithin_order_drive :
    let folder := ofText "C:\\src\\".toList
    let root := ofText "C:\\".toList
    let drive := ofText "C:".toList
    folder.isWithin root = true ∧ root.isWithin drive = true ∧ folder.isWithin drive = true ∧
      folder.relativeTo? folder = some ⟨[]⟩ ∧ ¬ root.isWithin folder = true := by
  intro folder root drive
  have hfolder : folder.isWithin root = true := by decide +kernel
  have hroot : root.isWithin drive = true := by decide +kernel
  obtain ⟨hself, -, htrans, hboth⟩ := isWithin_order "C:\\src\\".toList "C:\\".toList "C:".toList
  refine ⟨hfolder, hroot, htrans hfolder hroot, hself.mpr (by decide +kernel), fun hback => ?_⟩
  rcases hboth.mp ⟨hfolder, hback⟩ with ⟨hsame, -⟩ | ⟨letter, hletter, ⟨htext, -⟩ | ⟨htext, -⟩⟩
  · exact absurd hsame (by decide +kernel)
  · rw [← htext] at hletter
    exact absurd hletter (by decide +kernel)
  · have hlast := congrArg List.getLast? htext
    rw [List.getLast?_concat] at hlast
    exact absurd hlast (by decide +kernel)

/-- The empty path is not within itself, and a drive and its root are within each other. -/
theorem isWithin_empty_and_drive :
    (ofText []).relativeTo? (ofText []) = none ∧ (ofText []).isWithin (ofText []) = false ∧
      (ofText "C:".toList).isWithin (ofText "C:/".toList) = true ∧
      (ofText "C:/".toList).isWithin (ofText "C:".toList) = true ∧
      ofText "C:".toList ≠ ofText "C:/".toList := by
  decide +kernel

end NormalPath

end Interpolation
