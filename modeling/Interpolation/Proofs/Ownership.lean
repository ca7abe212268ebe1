import Interpolation.Proofs.Components
import Interpolation.Proofs.Directory
import Interpolation.Substitution

/-!
# The active file and its folder

The tokens of the active file describe one file: the relative file and the directory of the relative
file, appended to the folder that owns the file, give the file and its directory again. This asks for
a file without doubled separators. Behind a doubled separator the relative path of an owned file
begins with a separator.
-/

namespace Interpolation

namespace NormalPath

variable {file owner r : NormalPath} {b : Text}

theorem text_of_relativeTo? (howner : owner.IsNormal) (hother : owner ≠ file)
    (hslash : '/' ∈ file.text) (hr : file.relativeTo? owner = some r) :
    file.text = owner.trimmed ++ '/' :: r.text := by
  rcases relativeTo?_eq_some.mp hr with hbehind | ⟨-, hsame, -⟩
  · exact hbehind
  · rcases howner.text_eq with htext | ⟨hroot, -⟩
    · have heq : owner.text = file.text := htext.trans hsame.symm
      exact absurd (congrArg NormalPath.mk heq) hother
    · rw [hsame] at hslash
      exact absurd hslash (slash_notMem_of_isRootBody hroot)

theorem isDrive_of_colon (howner : owner.IsNormal)
    (hcolon : ¬ ('/' ∉ owner.text ∧ owner.text.getLast? = some ':'))
    (hlast : owner.trimmed.getLast? = some ':') (hbare : '/' ∉ owner.trimmed) :
    isDrive owner.trimmed = true := by
  rcases howner.text_eq with htext | ⟨hempty | hdrive, -⟩
  · rw [htext] at hcolon
    exact absurd ⟨hbare, hlast⟩ hcolon
  · rw [hempty] at hlast
    cases hlast
  · exact hdrive

theorem open_of_owner (howner : owner.IsNormal) (hfile : file.IsNormal) (hne : owner.text ≠ [])
    (hother : owner ≠ file) (hcolon : ¬ ('/' ∉ owner.text ∧ owner.text.getLast? = some ':'))
    (hbehind : file.text = owner.trimmed ++ '/' :: r.text) :
    file.text.getLast? ≠ some '/' := by
  intro hlast
  obtain ⟨b, hroot, hb⟩ := hfile.root hlast
  have hempty : r.text = [] := hfile.eq_nil_of_behind hbehind hlast
  rw [hempty] at hbehind
  have hbody : owner.trimmed = b := List.append_cancel_right (hbehind.symm.trans hb)
  rcases howner.text_eq with htext | ⟨-, htext⟩
  · rw [hbody] at htext
    rcases hroot with rfl | hdrive
    · exact hne htext
    · obtain ⟨letter, -, rfl⟩ := isDrive_eq_true.mp hdrive
      apply hcolon
      rw [htext]
      exact ⟨slash_notMem_of_isDrive hdrive, rfl⟩
  · exact hother (congrArg NormalPath.mk (htext.trans hbehind.symm))

theorem parent?_behind (hback : '\\' ∉ file.text) (hdouble : ¬ ['/', '/'] <:+: file.text)
    (hbehind : file.text = b ++ '/' :: r.text) (hlast : file.text.getLast? ≠ some '/')
    (hcolon : b.getLast? = some ':' → '/' ∉ b → isDrive b = true) :
    file.parent? = some (ofText (b ++ '/' :: (r.parent?.map NormalPath.text).getD [])) := by
  have hopen : r.text.getLast? ≠ some '/' := by
    intro h
    obtain ⟨t, ht⟩ := List.getLast?_eq_some_iff.mp h
    apply hlast
    rw [hbehind, ht, ← List.cons_append, ← List.append_assoc]
    exact List.getLast?_concat
  have htrim : file.trimmed = b ++ '/' :: r.text := by
    rw [trimmed_of_open hlast, hbehind]
  by_cases hr : '/' ∈ r.text
  · obtain ⟨head, name, hcut, hname⟩ := Text.exists_cutLast hr
    let whole := b ++ '/' :: head
    have hwhole : file.text = whole ++ '/' :: name := by
      rw [hbehind, hcut]
      simp [whole]
    have hparent : r.parent? = some (directory head) :=
      parent?_of_append (by rw [trimmed_of_open hopen, hcut]) hname
    have hback' : '\\' ∉ whole := fun hm => hback (by simp [hwhole, hm])
    have hlast' : whole.getLast? ≠ some '/' := Text.getLast?_ne_of_not_infix hdouble hwhole
    rw [parent?_of_append (by rw [trimmed_of_open hlast, hwhole]) hname,
      directory_of_slash (by simp [whole]), hparent]
    exact congrArg some (ofText_directory_behind hback' hlast').symm
  · have hnone : r.parent? = none := parent?_eq_none_iff.mpr (by rwa [trimmed_of_open hopen])
    have hback' : '\\' ∉ b := fun hm => hback (by simp [hbehind, hm])
    have hlast' : b.getLast? ≠ some '/' := Text.getLast?_ne_of_not_infix hdouble hbehind
    rw [parent?_of_append htrim hr, hnone, directory_eq_ofBody hcolon]
    exact congrArg some (ofText_of_closed hback' hlast').symm

end NormalPath

section Tokens

variable {ctx : Context} {p file owner : NormalPath}

theorem folderContaining?_eq_some :
    ctx.folderContaining? p = some owner ↔
      ∃ before folder after, ctx.folders = before ++ folder :: after ∧ folder.path = owner ∧
        p.isWithin owner = true ∧ ∀ other ∈ before, p.isWithin other.path = false := by
  unfold Context.folderContaining?
  rw [Option.map_eq_some_iff]
  constructor
  · rintro ⟨folder, hfind, rfl⟩
    obtain ⟨hwithin, before, after, hfolders, hbefore⟩ := List.find?_eq_some_iff_append.mp hfind
    refine ⟨before, folder, after, hfolders, rfl, hwithin, ?_⟩
    intro other h
    simpa using hbefore other h
  · rintro ⟨before, folder, after, hfolders, rfl, hwithin, hbefore⟩
    refine ⟨folder, List.find?_eq_some_iff_append.mpr ⟨hwithin, before, after, hfolders, ?_⟩, rfl⟩
    intro other h
    simp [hbefore other h]

theorem relativeToOwner_of_owner (h : ctx.folderContaining? p = some owner) :
    p.relativeTo? owner = some (ctx.relativeToOwner p) := by
  obtain ⟨-, folder, -, -, rfl, hwithin, -⟩ := folderContaining?_eq_some.mp h
  obtain ⟨r, hr⟩ := NormalPath.isWithin_eq_true.mp hwithin
  rw [Context.relativeToOwner, h, Option.bind_some, hr, Option.getD_some]

theorem relativeToOwner_of_none (h : ctx.folderContaining? p = none) :
    ctx.relativeToOwner p = p := by
  rw [Context.relativeToOwner, h]
  rfl

theorem join_shown (hs : NormalPath.IsSeparator ctx.separator) (howner : owner.IsNormal)
    (hne : owner.text ≠ []) (o : Option NormalPath) :
    owner.join (ctx.shown o) =
      NormalPath.ofText (owner.trimmed ++ '/' :: (o.map NormalPath.text).getD []) := by
  rw [howner.join_eq hne]
  apply NormalPath.ofText_congr
  rw [NormalPath.slashed_append, NormalPath.slashed_append, NormalPath.slashed_slash,
    NormalPath.slashed_slash]
  cases o with
  | none => rfl
  | some q =>
    change _ ++ '/' :: NormalPath.slashed (q.render ctx.separator) = _
    rw [NormalPath.slashed_render hs]
    rfl

theorem value_relativeFile (hactive : ctx.activeFile = some file) :
    ctx.value .relativeFile none = ctx.shown (some (ctx.relativeToOwner file)) := by
  simp only [Context.value, hactive, Option.map_some]

theorem value_relativeFileDirname (hactive : ctx.activeFile = some file) :
    ctx.value .relativeFileDirname none = ctx.shown (ctx.relativeToOwner file).parent? := by
  simp only [Context.value, hactive, Option.bind_some]

theorem value_fileDirname (hactive : ctx.activeFile = some file) :
    ctx.value .fileDirname none = ctx.shown file.parent? ∧
      ctx.value .cwd none = ctx.shown file.parent? := by
  simp only [Context.value, hactive, Option.bind_some, and_self]

end Tokens

/-- The tokens of the active file describe one file, if it has a separator and no doubled one, and
the folders and the file are in normal form. The owner of the file is the first folder that holds it.
Unless the owner is empty, the file itself, or a text with a colon at its end and no separator, the
relative file appended to the owner is the file, and the directory of the relative file appended to
the owner is the directory of the file, which is what the tokens of the directory show. A file
without an owner is its own relative file. -/
theorem fileTokens_rejoin (ctx : Context) (t : Text)
    (hs : NormalPath.IsSeparator ctx.separator)
    (hfolders : ∀ folder ∈ ctx.folders, ∃ u, folder.path = .ofText u)
    (hactive : ctx.activeFile = some (.ofText t))
    (hslash : '/' ∈ (NormalPath.ofText t).text)
    (hdouble : ¬ ['/', '/'] <:+: (NormalPath.ofText t).text) :
    let file := NormalPath.ofText t
    (∀ owner, ctx.folderContaining? file = some owner ↔
      ∃ before folder after, ctx.folders = before ++ folder :: after ∧ folder.path = owner ∧
        file.isWithin owner = true ∧ ∀ other ∈ before, file.isWithin other.path = false) ∧
      (∀ owner, ctx.folderContaining? file = some owner → owner.text ≠ [] → owner ≠ file →
        ¬ ('/' ∉ owner.text ∧ owner.text.getLast? = some ':') →
          owner.join (ctx.value .relativeFile none) = file ∧
            ∃ directory, file.parent? = some directory ∧
              owner.join (ctx.value .relativeFileDirname none) = directory ∧
              ctx.value .fileDirname none = directory.render ctx.separator ∧
              ctx.value .cwd none = directory.render ctx.separator) ∧
      (ctx.folderContaining? file = none →
        ctx.value .relativeFile none = file.render ctx.separator) := by
  intro file
  refine ⟨fun owner => folderContaining?_eq_some, ?_, ?_⟩
  · intro owner howner hne hother hcolon
    obtain ⟨before, folder, after, hsplit, rfl, -, -⟩ := folderContaining?_eq_some.mp howner
    obtain ⟨u, hu⟩ := hfolders folder (by rw [hsplit]; simp)
    have hnormal : folder.path.IsNormal := hu ▸ NormalPath.isNormal_ofText u
    have hfile : file.IsNormal := NormalPath.isNormal_ofText t
    have hr := relativeToOwner_of_owner howner
    have hbehind := NormalPath.text_of_relativeTo? hnormal hother hslash hr
    have hlast := NormalPath.open_of_owner hnormal hfile hne hother hcolon hbehind
    constructor
    · rw [value_relativeFile hactive, join_shown hs hnormal hne, Option.map_some,
        Option.getD_some, ← hbehind, hfile.ofText_text]
    · have hparent := NormalPath.parent?_behind hfile.notMem hdouble hbehind hlast
        (NormalPath.isDrive_of_colon hnormal hcolon)
      obtain ⟨hdirname, hcwd⟩ := value_fileDirname hactive
      refine ⟨_, hparent, ?_, ?_, ?_⟩
      · rw [value_relativeFileDirname hactive, join_shown hs hnormal hne]
      · rw [hdirname, hparent]
        rfl
      · rw [hcwd, hparent]
        rfl
  · intro hnone
    rw [value_relativeFile hactive, relativeToOwner_of_none hnone]
    rfl

theorem fileTokens_rejoin_colon :
    let file := NormalPath.ofText "C:\\work\\x:\\a.ts".toList
    let owner := NormalPath.ofText "C:\\work\\".toList
    let ctx : Context :=
      { folders := [⟨"wor".toList, .ofText "C:\\wor".toList⟩, ⟨"work".toList, owner⟩]
        activeFile := some file
        separator := '\\' }
    ctx.value .relativeFile none = "x:\\a.ts".toList ∧
      owner.join (ctx.value .relativeFile none) = file ∧
      ctx.value .relativeFileDirname none = "x:\\".toList ∧
      ∃ directory, file.parent? = some directory ∧
        owner.join (ctx.value .relativeFileDirname none) = directory ∧
        ctx.value .fileDirname none = directory.render ctx.separator := by
  intro file owner ctx
  have howner : ctx.folderContaining? file = some owner := by decide +kernel
  have hfolders : ∀ folder ∈ ctx.folders, ∃ u, folder.path = .ofText u := by
    intro folder h
    rcases List.mem_pair.mp h with rfl | rfl
    · exact ⟨"C:\\wor".toList, rfl⟩
    · exact ⟨"C:\\work\\".toList, rfl⟩
  obtain ⟨-, hrejoin, -⟩ := fileTokens_rejoin ctx _ (Or.inr rfl) hfolders rfl (by decide +kernel)
    (by decide +kernel)
  obtain ⟨hfile, directory, hparent, hdirname, hshown, -⟩ :=
    hrejoin owner howner (by decide +kernel) (by decide +kernel) (by decide +kernel)
  exact ⟨by decide +kernel, hfile, by decide +kernel, directory, hparent, hdirname, hshown⟩

/-- The relative file of an owned file begins with a separator just where the file goes on behind its
owner with two separators. -/
theorem relativeFile_leads_iff (ctx : Context) (file owner : NormalPath)
    (hs : ctx.separator = '/') (hactive : ctx.activeFile = some file)
    (howner : ctx.folderContaining? file = some owner) :
    (ctx.value .relativeFile none).head? = some '/' ↔
      owner.trimmed ++ ['/', '/'] <+: file.text := by
  have hr := relativeToOwner_of_owner howner
  have hvalue : ctx.value .relativeFile none = (ctx.relativeToOwner file).text := by
    rw [value_relativeFile hactive]
    change (ctx.relativeToOwner file).render ctx.separator = _
    rw [hs, NormalPath.render_slash]
  rw [hvalue]
  rcases NormalPath.relativeTo?_eq_some.mp hr with hbehind | ⟨-, hsame, hempty⟩
  · rw [hbehind, List.prefix_append_right_inj, List.cons_prefix_cons]
    cases (ctx.relativeToOwner file).text with
    | nil => simp
    | cons c t => simp [eq_comm]
  · have hshort : ¬ owner.trimmed ++ ['/', '/'] <+: owner.trimmed := by
      intro h
      have hle := h.length_le
      simp only [List.length_append, List.length_cons, List.length_nil] at hle
      omega
    simp [hsame, hempty, hshort]

theorem relativeFile_leads_root :
    let file := NormalPath.ofText "/a//b.ts".toList
    let ctx : Context :=
      { folders := [⟨[], .ofText "/".toList⟩], activeFile := some file }
    ctx.folderContaining? file = some (.ofText "/".toList) ∧
      (ctx.value .relativeFile none).head? ≠ some '/' := by
  intro file ctx
  have howner : ctx.folderContaining? file = some (.ofText "/".toList) := by decide +kernel
  have hiff := relativeFile_leads_iff ctx file _ rfl rfl howner
  exact ⟨howner, mt hiff.mp (by decide +kernel)⟩

/-- A doubled separator behind the folder leaves a separator in front of the relative file. -/
theorem relativeFile_doubled :
    let file := NormalPath.ofText "/w//a.ts".toList
    let ctx : Context :=
      { folders := [⟨"w".toList, .ofText "/w".toList⟩], activeFile := some file }
    ctx.folderContaining? file = some (.ofText "/w".toList) ∧
      ctx.value .relativeFile none = "/a.ts".toList := by
  decide +kernel

end Interpolation
