import Interpolation.Proofs.NormalForm

/-!
# The directory of a path

The directory of a path is cut from its text at the last separator. Where it is a root it gets its
separator back. A text with a colon at its end and no separator counts as a drive here, whatever
stands before the colon, so it gets a separator too. The directory is in normal form but for such a
text and for doubled separators.
-/

namespace Interpolation

namespace NormalPath

variable {p : NormalPath} {b name : Text}

/-- The directory with the text `b` in front of its last separator. -/
def directory (b : Text) : NormalPath :=
  if b.isEmpty then ⟨['/']⟩
  else if b.getLast? = some ':' && !b.contains '/' then ⟨b ++ ['/']⟩
  else ⟨b⟩

theorem parent?_eq (p : NormalPath) :
    p.parent? = (Text.cutLast '/' p.trimmed).map fun cut => directory cut.1 := rfl

theorem parent?_of_append (h : p.trimmed = b ++ '/' :: name) (hname : '/' ∉ name) :
    p.parent? = some (directory b) := by
  rw [parent?_eq, h, Text.cutLast_append b hname]
  rfl

theorem parent?_eq_none_iff : p.parent? = none ↔ '/' ∉ p.trimmed := by
  rw [parent?_eq, Option.map_eq_none_iff, Text.cutLast_eq_none]

theorem directory_of_slash (h : '/' ∈ b) : directory b = ⟨b⟩ := by
  have hne : b ≠ [] := List.ne_nil_of_mem h
  simp [directory, h, hne]

theorem text_directory (b : Text) :
    (directory b).text = b ∨ (directory b).text = b ++ ['/'] := by
  unfold directory
  split
  · next hempty => exact Or.inr (by simp [List.isEmpty_iff.mp hempty])
  · split
    · exact Or.inr rfl
    · exact Or.inl rfl

theorem ofText_directory_behind {head : Text} (hback : '\\' ∉ b ++ '/' :: head)
    (hlast : (b ++ '/' :: head).getLast? ≠ some '/') :
    ofText (b ++ '/' :: (directory head).text) = ⟨b ++ '/' :: head⟩ := by
  rcases text_directory head with hsame | hclosed
  · rw [hsame]
    exact ofText_of_open hback hlast
  · have heq : b ++ '/' :: (head ++ ['/']) = (b ++ '/' :: head) ++ ['/'] := by simp
    rw [hclosed, heq, ofText_of_closed hback hlast, ofBody_of_slash (by simp)]

theorem directory_of_colon (hlast : b.getLast? = some ':') (h : '/' ∉ b) :
    directory b = ⟨b ++ ['/']⟩ := by
  have hne : b ≠ [] := by
    rintro rfl
    cases hlast
  simp [directory, hne, hlast, h]

theorem directory_of_bare (hne : b ≠ []) (h : ¬ (b.getLast? = some ':' ∧ '/' ∉ b)) :
    directory b = ⟨b⟩ := by
  rw [directory]
  simp only [List.isEmpty_iff, hne, if_false]
  exact if_neg (by simpa using h)

/-- A directory keeps its last separator just where a root does, unless its text has a colon at the
end and is no drive. -/
theorem directory_eq_ofBody (h : b.getLast? = some ':' → '/' ∉ b → isDrive b = true) :
    directory b = ofBody b := by
  by_cases hempty : b = []
  · subst b
    rfl
  · by_cases hcolon : b.getLast? = some ':' ∧ '/' ∉ b
    · have hroot : IsRootBody b := Or.inr (h hcolon.1 hcolon.2)
      rw [directory_of_colon hcolon.1 hcolon.2, ofBody, if_pos hroot]
    · have hdrive : isDrive b ≠ true := by
        intro hdrive
        obtain ⟨letter, -, rfl⟩ := isDrive_eq_true.mp hdrive
        exact hcolon ⟨rfl, slash_notMem_of_isDrive hdrive⟩
      have hroot : ¬ IsRootBody b := fun hr => hr.elim hempty hdrive
      rw [directory_of_bare hempty hcolon, ofBody, if_neg hroot]

theorem text_directory_ne_nil (b : Text) : (directory b).text ≠ [] := by
  by_cases hempty : b = []
  · subst b
    exact List.cons_ne_nil '/' []
  · rcases text_directory b with hsame | hclosed
    · rwa [hsame]
    · simp [hclosed]

theorem trimmed_directory (h : b.getLast? ≠ some '/') : (directory b).trimmed = b := by
  rw [trimmed]
  rcases text_directory b with hsame | hclosed
  · rw [hsame, Text.dropTrailing_of_getLast? h]
  · rw [hclosed, Text.dropTrailing_concat, Text.dropTrailing_of_getLast? h]

theorem isNormal_directory_iff (hback : '\\' ∉ b) :
    (directory b).IsNormal ↔
      (b.getLast? = some '/' → IsRoot ⟨b⟩) ∧
        (b.getLast? = some ':' → '/' ∉ b → isDrive b = true) := by
  by_cases hempty : b = []
  · subst b
    have hnormal : (directory []).IsNormal := isNormal_ofText ['/']
    simp [hnormal]
  · by_cases hcolon : b.getLast? = some ':' ∧ '/' ∉ b
    · rw [directory_of_colon hcolon.1 hcolon.2, isNormal_concat_iff hback]
      simp [IsRootBody, hempty, hcolon]
    · rw [directory_of_bare hempty hcolon]
      constructor
      · intro h
        exact ⟨h.root, fun hlast hslash => absurd ⟨hlast, hslash⟩ hcolon⟩
      · rintro ⟨hroot, -⟩
        exact ⟨hback, hroot⟩

theorem exists_of_parent? {q : NormalPath} (h : p.parent? = some q) :
    ∃ b name, p.trimmed = b ++ '/' :: name ∧ '/' ∉ name ∧ q = directory b := by
  rw [parent?_eq, Option.map_eq_some_iff] at h
  obtain ⟨⟨b, name⟩, hcut, rfl⟩ := h
  obtain ⟨htrim, hname⟩ := Text.eq_of_cutLast hcut
  exact ⟨b, name, htrim, hname, rfl⟩

theorem IsNormal.text_of_parent? {q : NormalPath} (h : p.IsNormal) (hq : p.parent? = some q) :
    p.text = p.trimmed := by
  obtain ⟨b, name, htrim, -, -⟩ := exists_of_parent? hq
  rcases h.text_eq with hopen | ⟨hroot, -⟩
  · exact hopen
  · rw [htrim] at hroot
    exact absurd (by simp) (slash_notMem_of_isRootBody hroot)

/-- The directory of a path is in normal form just if what the path has in front of its last
separator ends with a separator only as a root, and is no text with a colon at the end, no separator
and no drive. -/
theorem parent?_normal_iff (t : Text) (q : NormalPath) (h : (ofText t).parent? = some q) :
    ∃ head name, (ofText t).text = head ++ '/' :: name ∧ '/' ∉ name ∧
      ((ofText q.text = q ∧ (q.text.getLast? = some '/' → q.IsRoot)) ↔
        (head.getLast? = some '/' → IsRoot ⟨head⟩) ∧
          (head.getLast? = some ':' → '/' ∉ head → isDrive head = true)) := by
  have hnormal := isNormal_ofText t
  obtain ⟨head, name, htrim, hname, rfl⟩ := exists_of_parent? h
  have htext : (ofText t).text = head ++ '/' :: name := by
    rw [hnormal.text_of_parent? h, htrim]
  have hback : '\\' ∉ head := fun hm => hnormal.notMem (by simp [htext, hm])
  refine ⟨head, name, htext, hname, ?_⟩
  rw [← isNormal_directory_iff hback, ofText_text_eq_iff]
  exact ⟨And.left, fun hdirectory => ⟨hdirectory, hdirectory.root⟩⟩

theorem parent?_normal_drive :
    let p := ofText "C:\\\\x:".toList
    let q := ofText "C:/".toList
    p.parent? = some q ∧ ofText q.text = q ∧ (q.text.getLast? = some '/' → q.IsRoot) := by
  intro p q
  have hq : p.parent? = some q := by decide +kernel
  obtain ⟨head, name, htext, hname, hiff⟩ := parent?_normal_iff _ q hq
  have hcut : Text.cutLast '/' p.text = some ("C:/".toList, "x:".toList) := by decide +kernel
  rw [htext, Text.cutLast_append head hname] at hcut
  obtain ⟨rfl, -⟩ := Prod.mk.inj (Option.some.inj hcut)
  exact ⟨hq, hiff.mpr ⟨fun _ => ⟨"C:".toList, Or.inr rfl, rfl⟩, by decide⟩⟩

/-- Any other doubled separator leaves one at the end of the directory, and so does a colon that
more than a letter stands in front of. -/
theorem parent?_leaves_separator :
    (ofText "/a//b".toList).parent? = some ⟨"/a/".toList⟩ ∧
      ofText "/a/".toList = ⟨"/a".toList⟩ ∧
      (ofText "ab:/c".toList).parent? = some ⟨"ab:/".toList⟩ ∧
      ofText "ab:/".toList = ⟨"ab:".toList⟩ := by
  decide +kernel

end NormalPath

end Interpolation
