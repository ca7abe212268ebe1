import Interpolation.Proofs.Components
import Interpolation.Proofs.Directory

/-!
# The parts of a path

A path without doubled separators is its directory with its last component appended, and the last
component is the stem with the extension behind a dot. Going from directory to directory ends, and
every directory on the way holds the path.
-/

namespace Interpolation

namespace NormalPath

variable {p q : NormalPath} {b name : Text}

/-- A file name is its stem, with the extension behind a dot if there is one. -/
structure NameParts (name stem : Text) (extension : Option Text) : Prop where
  stem_ne_nil : stem ≠ []
  name_eq : name = stem ++ (extension.map ('.' :: ·)).getD []
  dot_notMem : ∀ e, extension = some e → '.' ∉ e

theorem nameParts_splitName (h : name ≠ []) :
    NameParts name (splitName name).1 (splitName name).2 := by
  have hwhole : NameParts name name none := ⟨h, by simp, by simp⟩
  unfold splitName
  split
  · next stem ext hcut =>
    obtain ⟨hname, hdot⟩ := Text.eq_of_cutLast hcut
    split
    · exact hwhole
    · next hstem =>
      refine ⟨by simpa using hstem, by simpa using hname, ?_⟩
      rintro e ⟨rfl⟩
      exact hdot
  · exact hwhole

theorem fileName?_ne_nil (h : p.fileName? = some name) : name ≠ [] := by
  unfold fileName? at h
  rintro rfl
  simp at h

theorem fileName?_of_append (h : p.trimmed = b ++ '/' :: name) (hname : '/' ∉ name)
    (hne : name ≠ []) : p.fileName? = some name := by
  rw [fileName?, h, Text.cutLast_append b hname]
  simp [hne]

theorem nameParts_of_path (p : NormalPath) :
    (p.fileName? = none ∧ p.fileStem? = none ∧ p.extension? = none) ∨
      ∃ name stem, p.fileName? = some name ∧ p.fileStem? = some stem ∧
        NameParts name stem p.extension? := by
  unfold fileStem? extension?
  cases h : p.fileName? with
  | none => exact Or.inl ⟨rfl, rfl, rfl⟩
  | some name =>
    exact Or.inr ⟨name, (splitName name).1, rfl, rfl, nameParts_splitName (fileName?_ne_nil h)⟩

/-- A path without doubled separators, and without one at its end unless that is its only one. -/
structure IsSingle (p : NormalPath) : Prop where
  doubled : ¬ ['/', '/'] <:+: p.text
  closed : p.text.getLast? = some '/' → '/' ∉ p.trimmed

theorem IsNormal.isSingle (h : p.IsNormal) (hdouble : ¬ ['/', '/'] <:+: p.text) : p.IsSingle :=
  ⟨hdouble, fun hlast => slash_notMem_of_isRootBody (h.root hlast).trimmed.1⟩

/-- `q` is the directory of `p`, and `name` is what `p` has behind it. -/
structure Splits (p q : NormalPath) (name : Text) : Prop where
  directory : q = directory q.trimmed
  text : p.text = q.trimmed ++ '/' :: name
  slash_notMem : '/' ∉ name
  ne_nil : name ≠ []

theorem IsSingle.exists_splits (h : p.IsSingle) (hq : p.parent? = some q) :
    ∃ name, Splits p q name := by
  obtain ⟨b, name, htrim, hname, rfl⟩ := exists_of_parent? hq
  have hopen : p.text.getLast? ≠ some '/' := fun hlast => h.closed hlast (by simp [htrim])
  have htext : p.text = b ++ '/' :: name := by
    rw [← htrim, trimmed_of_open hopen]
  have hlast : b.getLast? ≠ some '/' := Text.getLast?_ne_of_not_infix h.doubled htext
  have hne : name ≠ [] := by
    rintro rfl
    exact hopen (by rw [htext, List.getLast?_concat])
  have hbody := trimmed_directory hlast
  exact ⟨name, by rw [hbody], by rw [hbody, htext], hname, hne⟩

namespace Splits

theorem getLast?_ne (h : Splits p q name) : p.text.getLast? ≠ some '/' := by
  rw [h.text, Text.getLast?_behind _ _ h.ne_nil]
  exact fun hlast => h.slash_notMem (List.mem_of_getLast? hlast)

theorem fileName?_eq (h : Splits p q name) : p.fileName? = some name :=
  fileName?_of_append ((trimmed_of_open h.getLast?_ne).trans h.text) h.slash_notMem h.ne_nil

theorem relativeTo?_eq (h : Splits p q name) : p.relativeTo? q = some ⟨name⟩ :=
  relativeTo?_eq_some.mpr (Or.inl h.text)

theorem text_eq (h : Splits p q name) :
    q.text = q.trimmed ∨ q.text = q.trimmed ++ ['/'] := by
  have htext := text_directory q.trimmed
  rwa [← h.directory] at htext

theorem join_eq (h : Splits p q name) : q.join name = ofText p.text := by
  have hne : q.text ≠ [] := by
    rw [h.directory]
    exact text_directory_ne_nil q.trimmed
  rw [join_eq_of_text hne h.text_eq, h.text]

theorem text_isPrefix (h : Splits p q name) : q.text <+: p.text := by
  rw [h.text]
  rcases h.text_eq with hopen | hclosed
  · rw [hopen]
    exact List.prefix_append _ _
  · rw [hclosed]
    exact ⟨name, by simp⟩

theorem length_lt (h : Splits p q name) : q.text.length < p.text.length := by
  have hpos : 0 < name.length := List.length_pos_of_ne_nil h.ne_nil
  rw [h.text, List.length_append, List.length_cons]
  rcases h.text_eq with hopen | hclosed
  · rw [hopen]
    omega
  · rw [hclosed, List.length_append, List.length_singleton]
    omega

theorem isSingle (h : Splits p q name) (hp : p.IsSingle) : q.IsSingle := by
  refine ⟨fun hdouble => hp.doubled (hdouble.trans h.text_isPrefix.isInfix), ?_⟩
  intro hlast hslash
  rw [h.directory, directory_of_slash hslash] at hlast
  exact Text.getLast?_dropTrailing '/' q.text hlast

end Splits

/-- The path after going to the directory `n` times. -/
def ancestor? (p : NormalPath) : Nat → Option NormalPath
  | 0 => some p
  | n + 1 => (p.ancestor? n).bind parent?

theorem ancestor?_succ_eq_some {n : Nat} :
    p.ancestor? (n + 1) = some q ↔ ∃ r, p.ancestor? n = some r ∧ r.parent? = some q :=
  Option.bind_eq_some_iff

theorem IsSingle.of_ancestor? (h : p.IsSingle) {n : Nat} (hq : p.ancestor? n = some q) :
    q.IsSingle ∧ q.text.length + n ≤ p.text.length := by
  induction n generalizing q with
  | zero =>
    obtain rfl : p = q := Option.some.inj hq
    exact ⟨h, Nat.le_refl _⟩
  | succ n ih =>
    obtain ⟨r, hr, hparent⟩ := ancestor?_succ_eq_some.mp hq
    obtain ⟨hsingle, hle⟩ := ih hr
    obtain ⟨name, hsplits⟩ := hsingle.exists_splits hparent
    have hlt := hsplits.length_lt
    exact ⟨hsplits.isSingle hsingle, by omega⟩

theorem IsSingle.ancestor?_eq_none (h : p.IsSingle) : p.ancestor? (p.text.length + 1) = none := by
  rw [Option.eq_none_iff_forall_ne_some]
  intro q hq
  have hle := (h.of_ancestor? hq).2
  omega

theorem IsSingle.text_of_ancestor? (h : p.IsSingle) {n : Nat} (hq : p.ancestor? (n + 1) = some q) :
    ∃ rest, p.text = q.trimmed ++ '/' :: rest := by
  induction n generalizing q with
  | zero =>
    obtain ⟨name, hsplits⟩ := h.exists_splits hq
    exact ⟨name, hsplits.text⟩
  | succ n ih =>
    obtain ⟨r, hr, hparent⟩ := ancestor?_succ_eq_some.mp hq
    obtain ⟨rest, hrest⟩ := ih hr
    have hsingle := (h.of_ancestor? hr).1
    obtain ⟨name, hsplits⟩ := hsingle.exists_splits hparent
    refine ⟨name ++ '/' :: rest, ?_⟩
    rw [hrest, trimmed_of_open hsplits.getLast?_ne, hsplits.text]
    simp

/-- The parts of a path without doubled separators make the path again. Its file name is its stem
with its extension behind a dot. It has a directory just if it has a separator in front of those at
its end; then the directory is shorter, the path is the directory with the file name appended, and
the file name is the path as seen from the directory. Going from directory to directory ends, and
the path is within every directory on the way. -/
theorem parts_reassemble (t : Text) (hdouble : ¬ ['/', '/'] <:+: (ofText t).text) :
    let p := ofText t
    ((p.fileName? = none ∧ p.fileStem? = none ∧ p.extension? = none) ∨
        ∃ name stem, p.fileName? = some name ∧ p.fileStem? = some stem ∧
          NameParts name stem p.extension?) ∧
      (p.parent? = none ↔ '/' ∉ p.trimmed) ∧
      (∀ q, p.parent? = some q →
        ∃ name, p.fileName? = some name ∧ '/' ∉ name ∧ q.join name = p ∧
          p.isWithin q = true ∧ p.relativeTo? q = some ⟨name⟩ ∧
          q.text.length < p.text.length) ∧
      (∃ n, p.ancestor? n = none) ∧
      ∀ n q, p.ancestor? (n + 1) = some q → p.isWithin q = true := by
  intro p
  have hnormal : p.IsNormal := isNormal_ofText t
  have hsingle : p.IsSingle := hnormal.isSingle hdouble
  refine ⟨nameParts_of_path p, parent?_eq_none_iff, ?_, ?_, ?_⟩
  · intro q hq
    obtain ⟨name, hsplits⟩ := hsingle.exists_splits hq
    have hjoin : q.join name = p := hsplits.join_eq.trans hnormal.ofText_text
    have hrelative := hsplits.relativeTo?_eq
    have hwithin : p.isWithin q = true := isWithin_eq_true.mpr ⟨_, hrelative⟩
    exact ⟨name, hsplits.fileName?_eq, hsplits.slash_notMem, hjoin, hwithin, hrelative,
      hsplits.length_lt⟩
  · exact ⟨_, hsingle.ancestor?_eq_none⟩
  · intro n q hq
    obtain ⟨rest, hrest⟩ := hsingle.text_of_ancestor? hq
    exact isWithin_eq_true.mpr ⟨⟨rest⟩, relativeTo?_eq_some.mpr (Or.inl hrest)⟩

theorem parts_reassemble_colon :
    let p := ofText "ab:\\.src\\lib.tar.gz\\".toList
    let directory := ofText "ab:/.src".toList
    (∃ name stem, p.fileName? = some name ∧ p.fileStem? = some stem ∧
      NameParts name stem p.extension?) ∧
      p.parent? = some directory ∧
      directory.join "lib.tar.gz".toList = p ∧
      p.relativeTo? directory = some ⟨"lib.tar.gz".toList⟩ ∧
      p.ancestor? 2 = some ⟨"ab:/".toList⟩ ∧ p.isWithin ⟨"ab:/".toList⟩ = true := by
  intro p directory
  have hfile : p.fileName? = some "lib.tar.gz".toList := by decide +kernel
  have hparent : p.parent? = some directory := by decide +kernel
  have hancestor : p.ancestor? 2 = some ⟨"ab:/".toList⟩ := by decide +kernel
  obtain ⟨hparts, -, hbehind, -, hway⟩ :=
    parts_reassemble "ab:\\.src\\lib.tar.gz\\".toList (by decide +kernel)
  have hname := hparts.resolve_left fun hnone => absurd (hfile.symm.trans hnone.1) (by simp)
  obtain ⟨name, hfile', -, hjoin, -, hrelative, -⟩ := hbehind directory hparent
  obtain rfl : _ = name := Option.some.inj (hfile.symm.trans hfile')
  exact ⟨hname, hparent, hjoin, hrelative, hancestor, hway 1 _ hancestor⟩

end NormalPath

end Interpolation
