import Interpolation.NormalPath
import Mathlib.Data.List.DropRight

/-!
# The normal form of paths

A path is in normal form if it has no `\` and ends with a separator only where it is a root, which is
`/` alone or a drive with its `/`. Reading a text gives a path in normal form, and changes nothing in
a path that is. Which separator the text has makes no difference, and neither do separators at its
end, unless it is a root without them.
-/

namespace Interpolation

namespace Text

variable {c old new : Char} {t u : Text}

theorem dropTrailing_eq_rdropWhile (c : Char) (t : Text) :
    dropTrailing c t = t.rdropWhile (· == c) := rfl

theorem dropTrailing_concat (c : Char) (t : Text) :
    dropTrailing c (t ++ [c]) = dropTrailing c t := by
  exact List.rdropWhile_concat_pos (· == c) t c (beq_self_eq_true c)

theorem dropTrailing_of_getLast? (h : t.getLast? ≠ some c) : dropTrailing c t = t := by
  rw [dropTrailing_eq_rdropWhile, List.rdropWhile_eq_self_iff]
  intro hne heq
  apply h
  rw [List.getLast?_eq_some_getLast hne, beq_iff_eq.mp heq]

theorem getLast?_dropTrailing (c : Char) (t : Text) : (dropTrailing c t).getLast? ≠ some c := by
  intro h
  have hne : dropTrailing c t ≠ [] := by
    intro hnil
    rw [hnil] at h
    cases h
  have hkept := List.rdropWhile_last_not (· == c) t hne
  rw [List.getLast?_eq_some_getLast hne, Option.some_inj] at h
  exact hkept (beq_iff_eq.mpr h)

theorem dropTrailing_ne_nil (hne : t ≠ []) (hhead : t.head? ≠ some c) :
    dropTrailing c t ≠ [] := by
  intro hnil
  obtain ⟨d, t, rfl⟩ := List.exists_cons_of_ne_nil hne
  have hall := List.rdropWhile_eq_nil_iff.mp hnil
  have hd : d = c := beq_iff_eq.mp (hall d List.mem_cons_self)
  exact hhead (by rw [hd]; rfl)

theorem dropTrailing_isPrefix (c : Char) (t : Text) : dropTrailing c t <+: t :=
  List.rdropWhile_prefix (· == c) t

theorem dropTrailing_append (t : Text) (h : dropTrailing c u ≠ []) :
    dropTrailing c (t ++ u) = t ++ dropTrailing c u := by
  induction u using List.reverseRecOn with
  | nil => exact absurd rfl h
  | append_singleton u d ih =>
    by_cases hd : d = c
    · subst d
      rw [dropTrailing_concat] at h
      rw [← List.append_assoc, dropTrailing_concat, dropTrailing_concat, ih h]
    · have hlast : (u ++ [d]).getLast? ≠ some c := by simpa using hd
      have hlast' : (t ++ (u ++ [d])).getLast? ≠ some c := by simpa using hd
      rw [dropTrailing_of_getLast? hlast, dropTrailing_of_getLast? hlast']

theorem length_dropTrailing_lt_iff :
    (dropTrailing c t).length < t.length ↔ t.getLast? = some c := by
  constructor
  · intro hlt
    by_contra hlast
    rw [dropTrailing_of_getLast? hlast] at hlt
    exact Nat.lt_irrefl _ hlt
  · intro hlast
    obtain ⟨b, rfl⟩ := List.getLast?_eq_some_iff.mp hlast
    have hle := (dropTrailing_isPrefix c b).length_le
    rw [dropTrailing_concat, List.length_append, List.length_singleton]
    omega

theorem getLast?_behind (t : Text) (c : Char) (h : u ≠ []) :
    (t ++ c :: u).getLast? = u.getLast? := by
  rw [List.getLast?_append_of_ne_nil t (by simp), List.getLast?_cons_of_ne_nil h]

theorem getLast?_ne_of_not_infix {before after : Text} (hdouble : ¬ [c, c] <:+: t)
    (ht : t = before ++ c :: after) : before.getLast? ≠ some c := by
  intro h
  obtain ⟨u, rfl⟩ := List.getLast?_eq_some_iff.mp h
  exact hdouble ⟨u, after, by simp [ht]⟩

@[simp] theorem replaceChar_append (old new : Char) (t u : Text) :
    replaceChar old new (t ++ u) = replaceChar old new t ++ replaceChar old new u :=
  List.map_append

theorem replaceChar_of_notMem (h : old ∉ t) : replaceChar old new t = t := by
  refine (List.map_congr_left ?_).trans (List.map_id t)
  intro c hc
  have hne : c ≠ old := fun heq => h (heq ▸ hc)
  simp [hne]

theorem notMem_replaceChar (h : old ≠ new) : old ∉ replaceChar old new t := by
  intro hm
  obtain ⟨c, -, hc⟩ := List.mem_map.mp hm
  split at hc
  · exact h hc.symm
  · contradiction

end Text

namespace NormalPath

/-- A text with `/` for every `\`. -/
def slashed (t : Text) : Text :=
  Text.replaceChar '\\' '/' t

variable {t u b : Text} {p : NormalPath}

@[simp] theorem slashed_append (t u : Text) : slashed (t ++ u) = slashed t ++ slashed u :=
  Text.replaceChar_append _ _ t u

@[simp] theorem slashed_slash (t : Text) : slashed ('/' :: t) = '/' :: slashed t := rfl

theorem slashed_of_notMem (h : '\\' ∉ t) : slashed t = t :=
  Text.replaceChar_of_notMem h

theorem notMem_slashed (t : Text) : '\\' ∉ slashed t :=
  Text.notMem_replaceChar (by decide)

@[simp] theorem slashed_eq_nil : slashed t = [] ↔ t = [] :=
  List.map_eq_nil_iff

theorem isDrive_eq_true :
    isDrive t = true ↔ ∃ letter : Char, letter.isAlpha ∧ t = [letter, ':'] := by
  constructor
  · intro h
    unfold isDrive at h
    split at h
    · next letter => exact ⟨letter, h, rfl⟩
    · cases h
  · rintro ⟨letter, h, rfl⟩
    exact h

theorem slash_notMem_of_isDrive (h : isDrive t = true) : '/' ∉ t := by
  obtain ⟨letter, hletter, rfl⟩ := isDrive_eq_true.mp h
  have hne : letter ≠ '/' := by
    rintro rfl
    exact absurd hletter (by decide)
  simp [hne.symm]

/-- The separators that a path is read with. -/
def IsSeparator (c : Char) : Prop :=
  c = '/' ∨ c = '\\'

theorem render_slash (p : NormalPath) : p.render '/' = p.text := by
  refine (List.map_congr_left ?_).trans (List.map_id p.text)
  intro c _
  by_cases hc : c = '/' <;> simp [hc]

theorem slashed_render {separator : Char} (hs : IsSeparator separator) :
    slashed (p.render separator) = slashed p.text := by
  unfold slashed render Text.replaceChar
  rw [List.map_map]
  apply List.map_congr_left
  intro c _
  rcases hs with rfl | rfl
  · by_cases hc : c = '/' <;> simp [hc]
  · by_cases hc : c = '/' <;> simp [hc]

/-- The text of a root without its separator: nothing, or a drive. -/
def IsRootBody (t : Text) : Prop :=
  t = [] ∨ isDrive t = true

instance : Decidable (IsRootBody t) :=
  inferInstanceAs (Decidable (t = [] ∨ isDrive t = true))

theorem slash_notMem_of_isRootBody (h : IsRootBody t) : '/' ∉ t := by
  rcases h with rfl | hdrive
  · exact List.not_mem_nil
  · exact slash_notMem_of_isDrive hdrive

/-- The path of a directory whose text without a separator behind it is `b`. -/
def ofBody (b : Text) : NormalPath :=
  if IsRootBody b then ⟨b ++ ['/']⟩ else ⟨b⟩

theorem ofBody_of_slash (h : '/' ∈ b) : ofBody b = ⟨b⟩ :=
  if_neg fun hroot => slash_notMem_of_isRootBody hroot h

theorem ofText_eq (t : Text) :
    ofText t =
      if (slashed t).getLast? = some '/' then ofBody (Text.dropTrailing '/' (slashed t))
      else ⟨slashed t⟩ := by
  let body := Text.dropTrailing '/' (slashed t)
  change (if (body.length < (slashed t).length && (body.isEmpty || isDrive body)) = true
    then ⟨body ++ ['/']⟩ else ⟨body⟩ : NormalPath) = if _ then ofBody body else ⟨slashed t⟩
  by_cases hlast : (slashed t).getLast? = some '/'
  · have hlt : body.length < (slashed t).length := Text.length_dropTrailing_lt_iff.mpr hlast
    rw [if_pos hlast, ofBody]
    exact if_congr (by simp [hlt, IsRootBody]) rfl rfl
  · have hge : ¬ body.length < (slashed t).length := mt Text.length_dropTrailing_lt_iff.mp hlast
    have hsame : body = slashed t := Text.dropTrailing_of_getLast? hlast
    simp [hlast, hsame]

/-- Only the separators tell two texts of a path apart. -/
theorem ofText_congr (h : slashed t = slashed u) : ofText t = ofText u := by
  rw [ofText_eq, ofText_eq, h]

theorem trimmed_ofBody (h : b.getLast? ≠ some '/') : (ofBody b).trimmed = b := by
  unfold ofBody
  split
  · exact (Text.dropTrailing_concat '/' b).trans (Text.dropTrailing_of_getLast? h)
  · exact Text.dropTrailing_of_getLast? h

theorem trimmed_ofText (t : Text) :
    (ofText t).trimmed = Text.dropTrailing '/' (slashed t) := by
  rw [ofText_eq]
  split
  · exact trimmed_ofBody (Text.getLast?_dropTrailing '/' _)
  · rfl

/-- A root: `/` alone, or a drive with its separator. -/
def IsRoot (p : NormalPath) : Prop :=
  ∃ b, IsRootBody b ∧ p.text = b ++ ['/']

/-- A path is in normal form if it has no `\` and only a root ends with a separator. -/
structure IsNormal (p : NormalPath) : Prop where
  notMem : '\\' ∉ p.text
  root : p.text.getLast? = some '/' → p.IsRoot

theorem isNormal_ofBody (hback : '\\' ∉ b) (hlast : b.getLast? ≠ some '/') :
    (ofBody b).IsNormal := by
  unfold ofBody
  split
  · next hroot => exact ⟨by simp [hback], fun _ => ⟨b, hroot, rfl⟩⟩
  · exact ⟨hback, fun h => absurd h hlast⟩

theorem isNormal_ofText (t : Text) : (ofText t).IsNormal := by
  have hback := notMem_slashed t
  rw [ofText_eq]
  split
  · have hbody : '\\' ∉ Text.dropTrailing '/' (slashed t) := fun hm =>
      hback ((Text.dropTrailing_isPrefix '/' _).subset hm)
    exact isNormal_ofBody hbody (Text.getLast?_dropTrailing '/' _)
  · next hlast => exact ⟨hback, fun h => absurd h hlast⟩

/-- A text with a separator behind it is in normal form just if that makes it a root. -/
theorem isNormal_concat_iff (hback : '\\' ∉ b) :
    IsNormal ⟨b ++ ['/']⟩ ↔ IsRootBody b := by
  constructor
  · intro h
    obtain ⟨body, hroot, heq⟩ := h.root List.getLast?_concat
    rwa [List.append_cancel_right heq]
  · intro hroot
    exact ⟨by simpa using hback, fun _ => ⟨b, hroot, rfl⟩⟩

theorem trimmed_of_open (hlast : p.text.getLast? ≠ some '/') : p.trimmed = p.text :=
  Text.dropTrailing_of_getLast? hlast

theorem IsRoot.trimmed (h : p.IsRoot) : IsRootBody p.trimmed ∧ p.text = p.trimmed ++ ['/'] := by
  obtain ⟨b, hroot, hb⟩ := h
  have hlast : b.getLast? ≠ some '/' := fun hl =>
    slash_notMem_of_isRootBody hroot (List.mem_of_getLast? hl)
  have htrim : p.trimmed = b := by
    rw [NormalPath.trimmed, hb, Text.dropTrailing_concat, Text.dropTrailing_of_getLast? hlast]
  rw [htrim]
  exact ⟨hroot, hb⟩

theorem ofText_of_open (hback : '\\' ∉ b) (hlast : b.getLast? ≠ some '/') : ofText b = ⟨b⟩ := by
  rw [ofText_eq, slashed_of_notMem hback, if_neg hlast]

theorem ofText_of_closed (hback : '\\' ∉ b) (hlast : b.getLast? ≠ some '/') :
    ofText (b ++ ['/']) = ofBody b := by
  have hback' : '\\' ∉ b ++ ['/'] := by simpa using hback
  rw [ofText_eq, slashed_of_notMem hback', if_pos (by simp), Text.dropTrailing_concat,
    Text.dropTrailing_of_getLast? hlast]

theorem join_eq_of_text (hne : p.text ≠ []) (h : p.text = p.trimmed ∨ p.text = p.trimmed ++ ['/'])
    (segment : Text) : p.join segment = ofText (p.trimmed ++ '/' :: segment) := by
  have hsegment : slashed (slashed segment) = slashed segment :=
    slashed_of_notMem (notMem_slashed segment)
  have hempty : p.text.isEmpty = false := by simpa using hne
  unfold join
  simp only [hempty, Bool.false_eq_true, if_false]
  change (if _ then ofText (p.text ++ slashed segment)
    else ofText (p.text ++ '/' :: slashed segment)) = _
  rcases h with hopen | hclosed
  · have hlast : p.text.getLast? ≠ some '/' := by
      rw [hopen]
      exact Text.getLast?_dropTrailing '/' p.text
    rw [if_neg hlast]
    apply ofText_congr
    rw [← hopen]
    simp [hsegment]
  · have hlast : p.text.getLast? = some '/' := by
      rw [hclosed, List.getLast?_concat]
    rw [if_pos hlast]
    apply ofText_congr
    rw [hclosed]
    simp [hsegment]

namespace IsNormal

theorem slashed_text (h : p.IsNormal) : slashed p.text = p.text :=
  slashed_of_notMem h.notMem

theorem ofText_text (h : p.IsNormal) : ofText p.text = p := by
  rw [ofText_eq, h.slashed_text]
  split
  · next hlast =>
    obtain ⟨hroot, htext⟩ := (h.root hlast).trimmed
    change ofBody p.trimmed = p
    rw [ofBody, if_pos hroot, ← htext]
  · rfl

theorem text_eq (h : p.IsNormal) :
    p.text = p.trimmed ∨ IsRootBody p.trimmed ∧ p.text = p.trimmed ++ ['/'] := by
  by_cases hlast : p.text.getLast? = some '/'
  · exact Or.inr (h.root hlast).trimmed
  · exact Or.inl (trimmed_of_open hlast).symm

theorem notMem_trimmed (h : p.IsNormal) : '\\' ∉ p.trimmed := fun hm =>
  h.notMem ((Text.dropTrailing_isPrefix '/' p.text).subset hm)

theorem eq_nil_of_behind (h : p.IsNormal) (hp : p.text = b ++ '/' :: u)
    (hlast : p.text.getLast? = some '/') : u = [] := by
  obtain ⟨body, hroot, hbody⟩ := h.root hlast
  by_contra hu
  have hslash : '/' ∈ p.text.dropLast := by
    rw [hp, List.dropLast_append_of_ne_nil (by simp), List.dropLast_cons_of_ne_nil hu]
    simp
  rw [hbody, List.dropLast_concat] at hslash
  exact slash_notMem_of_isRootBody hroot hslash

/-- Appending a segment puts one separator between it and the path. -/
theorem join_eq (h : p.IsNormal) (hne : p.text ≠ []) (segment : Text) :
    p.join segment = ofText (p.trimmed ++ '/' :: segment) :=
  join_eq_of_text hne (h.text_eq.imp_right And.right) segment

end IsNormal

theorem ofText_text_eq_iff : ofText p.text = p ↔ p.IsNormal :=
  ⟨fun h => h ▸ isNormal_ofText p.text, IsNormal.ofText_text⟩

private theorem map_eq_slash {o : Option Char} :
    (o.map fun c => if c = '\\' then '/' else c) = some '/' ↔ o = some '/' ∨ o = some '\\' := by
  cases o with
  | none => simp
  | some c => by_cases hc : c = '\\' <;> simp [hc]

theorem head?_slashed (t : Text) :
    (slashed t).head? = some '/' ↔ t.head? = some '/' ∨ t.head? = some '\\' := by
  rw [slashed, Text.replaceChar, List.head?_map]
  exact map_eq_slash

theorem getLast?_slashed (t : Text) :
    (slashed t).getLast? = some '/' ↔ t.getLast? = some '/' ∨ t.getLast? = some '\\' := by
  rw [slashed, Text.replaceChar, List.getLast?_map]
  exact map_eq_slash

theorem isDrive_of_isRoot (hne : t ≠ []) (hhead : (slashed t).head? ≠ some '/')
    (h : (ofText t).IsRoot) :
    ∃ drive, isDrive drive = true ∧ (ofText t).text = drive ++ ['/'] := by
  obtain ⟨hempty | hdrive, htext⟩ := h.trimmed
  · rw [trimmed_ofText] at hempty
    exact absurd hempty (Text.dropTrailing_ne_nil (by simpa using hne) hhead)
  · exact ⟨_, hdrive, htext⟩

/-- What is read behind a separator keeps the normal form that it has alone, unless that is a root:
a root would lose its separator. -/
theorem text_ofText_append (b : Text) (hne : u ≠ []) (hhead : (slashed u).head? ≠ some '/')
    (hroot : ¬ (ofText u).IsRoot) :
    (ofText (b ++ '/' :: u)).text = slashed b ++ '/' :: (ofText u).text := by
  have hkept : Text.dropTrailing '/' (slashed u) ≠ [] :=
    Text.dropTrailing_ne_nil (by simpa using hne) hhead
  have hbody : (ofText (b ++ '/' :: u)).trimmed = slashed b ++ '/' :: (ofText u).trimmed := by
    rw [trimmed_ofText, trimmed_ofText, slashed_append, slashed_slash,
      List.append_cons (slashed b) '/', Text.dropTrailing_append _ hkept, ← List.append_cons]
  have hu : (ofText u).text = (ofText u).trimmed := by
    rcases (isNormal_ofText u).text_eq with heq | ⟨hbare, heq⟩
    · exact heq
    · exact absurd ⟨_, hbare, heq⟩ hroot
  rcases (isNormal_ofText (b ++ '/' :: u)).text_eq with heq | ⟨hbare, -⟩
  · rw [heq, hbody, hu]
  · rw [hbody] at hbare
    exact absurd (by simp) (slash_notMem_of_isRootBody hbare)

end NormalPath

end Interpolation
