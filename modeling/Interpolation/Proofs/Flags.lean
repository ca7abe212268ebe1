import Interpolation.CommandLine
import Interpolation.Proofs.Ownership

/-!
# Folders and files of flags

A workspace flag and a file flag go different ways: the first is cut at its first `=`, and both are
seen from the working directory and brought into normal form. The file of a flag that begins with the
folder of the other flag is still owned by that folder, and is shown by what follows the folder.
-/

namespace Interpolation

namespace NormalPath

variable {directory path rest : Text}

theorem isAbsolute_cons (c : Char) (t : Text) : isAbsolute (c :: t) = (c == '/') := by
  by_cases hc : c = '/'
  · subst c
    rfl
  · simp [isAbsolute, hc]

theorem isAbsolute_eq_false (h : path.head? ≠ some '/') : isAbsolute path = false := by
  cases path with
  | nil => rfl
  | cons c t =>
    rw [isAbsolute_cons, beq_eq_false_iff_ne]
    rintro rfl
    exact h rfl

theorem absolutize_append (hne : path ≠ []) :
    absolutize directory (path ++ rest) = absolutize directory path ++ rest := by
  obtain ⟨c, t, rfl⟩ := List.exists_cons_of_ne_nil hne
  unfold absolutize
  rw [List.cons_append, isAbsolute_cons, isAbsolute_cons]
  split
  · rfl
  · split <;> simp

theorem getLast?_absolutize (hne : path ≠ []) :
    (absolutize directory path).getLast? = path.getLast? := by
  have hlast : ∀ b : Text, (b ++ path).getLast? = path.getLast? := fun b =>
    List.getLast?_append_of_ne_nil b hne
  unfold absolutize
  split
  · rfl
  · split
    · exact hlast directory
    · rw [List.append_cons]
      exact hlast (directory ++ ['/'])

theorem absolutize_relative (habsolute : isAbsolute directory = true)
    (hdouble : ¬ ['/', '/'] <:+: directory) (hrelative : isAbsolute path = false) :
    absolutize directory path = Text.dropTrailing '/' directory ++ '/' :: path := by
  have hne : directory ≠ [] := by
    rintro rfl
    cases habsolute
  unfold absolutize
  rw [hrelative]
  by_cases hlast : directory.getLast? = some '/'
  · obtain ⟨t, rfl⟩ := List.getLast?_eq_some_iff.mp hlast
    have hopen : t.getLast? ≠ some '/' := Text.getLast?_ne_of_not_infix hdouble rfl
    simp [Text.dropTrailing_concat, Text.dropTrailing_of_getLast? hopen]
  · simp [hlast, hne, Text.dropTrailing_of_getLast? hlast]

section Behind

variable (hrest : rest ≠ []) (hhead : (slashed rest).head? ≠ some '/')
  (hroot : ¬ (ofText rest).IsRoot)

include hrest hhead hroot

theorem text_absolutize_behind (directory : Text) {folder : Text} (hne : folder ≠ [])
    (hopen : (slashed folder).getLast? ≠ some '/') :
    (ofText (absolutize directory (folder ++ '/' :: rest))).text =
      (ofText (absolutize directory folder)).trimmed ++ '/' :: (ofText rest).text := by
  have hlast : (slashed (absolutize directory folder)).getLast? ≠ some '/' := by
    rwa [Ne, getLast?_slashed, getLast?_absolutize hne, ← getLast?_slashed]
  rw [absolutize_append hne, trimmed_ofText, Text.dropTrailing_of_getLast? hlast]
  exact text_ofText_append _ hrest hhead hroot

theorem text_absolutize_relative (habsolute : isAbsolute directory = true)
    (hback : '\\' ∉ directory) (hdouble : ¬ ['/', '/'] <:+: directory) :
    (ofText (absolutize directory rest)).text =
      (ofText directory).trimmed ++ '/' :: (ofText rest).text := by
  have hrelative : isAbsolute rest = false :=
    isAbsolute_eq_false fun h => hhead ((head?_slashed rest).mpr (Or.inl h))
  have hbody : slashed (Text.dropTrailing '/' directory) = Text.dropTrailing '/' directory :=
    slashed_of_notMem fun hm => hback ((Text.dropTrailing_isPrefix '/' directory).subset hm)
  rw [absolutize_relative habsolute hdouble hrelative,
    text_ofText_append _ hrest hhead hroot, hbody, trimmed_ofText, slashed_of_notMem hback]

end Behind

end NormalPath

/-- A workspace flag writes a folder, with a name in front of the first `=` or without one. -/
def WritesFolder (raw folder : Text) : Prop :=
  (∃ name, name ≠ [] ∧ '=' ∉ name ∧ raw = name ++ '=' :: folder) ∨ '=' ∉ folder ∧ raw = folder

theorem exists_ofFlag (directory : Text) {raw folder : Text} (hne : folder ≠ [])
    (h : WritesFolder raw folder) :
    ∃ f, Folder.ofFlag directory raw = .ok f ∧
      f.path = .ofText (NormalPath.absolutize directory folder) := by
  rcases h with ⟨name, hname, hfree, rfl⟩ | ⟨hfree, rfl⟩
  · refine ⟨⟨name, .ofText (NormalPath.absolutize directory folder)⟩, ?_, rfl⟩
    rw [Folder.ofFlag, Text.cutFirst_append hfree]
    simp [hname, hne]
  · refine ⟨.ofPath (.ofText (NormalPath.absolutize directory raw)), ?_, rfl⟩
    rw [Folder.ofFlag, Text.cutFirst_eq_none hfree]
    simp [hne]

/-- A session has one folder, which owns the active file, and shows the file as `relative`. -/
structure Session.Owns (s : Session) (folder file : NormalPath) (relative : Text) : Prop where
  folders : s.folders.map Folder.path = [folder]
  activeFile : s.activeFile = some file
  separator : s.separator = '/'
  owner : s.context.folderContaining? file = some folder
  relativeFile : s.context.value .relativeFile none = relative

theorem Session.owns_of_text {s : Session} {folder : Folder} {file : NormalPath} {relative : Text}
    (hfolders : s.folders = [folder]) (hactive : s.activeFile = some file)
    (hs : s.separator = '/')
    (hbehind : file.text = folder.path.trimmed ++ '/' :: relative) :
    s.Owns folder.path file relative := by
  have hr : file.relativeTo? folder.path = some ⟨relative⟩ :=
    NormalPath.relativeTo?_eq_some.mpr (Or.inl hbehind)
  have howner : s.context.folderContaining? file = some folder.path :=
    folderContaining?_eq_some.mpr ⟨[], folder, [], hfolders, rfl,
      NormalPath.isWithin_eq_true.mpr ⟨_, hr⟩, by simp⟩
  have hrelative := relativeToOwner_of_owner howner
  rw [hr, Option.some_inj] at hrelative
  refine ⟨by rw [hfolders]; rfl, hactive, hs, howner, ?_⟩
  rw [value_relativeFile hactive, ← hrelative]
  change NormalPath.render s.separator ⟨relative⟩ = relative
  rw [hs, NormalPath.render_slash]

namespace CommandLine

theorem exists_buildSession {host : Host} (executable : Option NormalPath) {a : ResolveArguments}
    {folders : List Folder} {settings : Settings}
    (hfolders : foldersOf host.directory a.workspaces = .ok folders)
    (hsettings : (loadSettings host a.config).result = .ok settings) :
    ∃ s, (buildSession host executable a).result = .ok s ∧ s.folders = folders ∧
      s.activeFile = a.file.map (pathOf host) ∧ s.separator = '/' := by
  have hflags : (Traced.ofExcept ((foldersOf host.directory a.workspaces).mapError
      Failure.flag)).result = .ok folders := by
    rw [hfolders]
    rfl
  have hloaded : ((loadSettings host a.config).mapError Failure.load).result = .ok settings := by
    change Except.mapError _ (loadSettings host a.config).result = _
    rw [hsettings]
    rfl
  rw [buildSession, Traced.result_andThen _ hflags, Traced.result_andThen _ hloaded]
  exact ⟨_, rfl, rfl, rfl, rfl⟩

/-- The flags of a folder and of a file in it. For every absolute working directory without `\` and
without doubled separators, and every text that does not begin with a separator and whose normal form
is no drive root: the session of one workspace flag, and of a file flag that goes on behind the
folder with this text, has the folder as owner of the file, and shows the file as the normal form of
the text. So does the session without workspace flag, of a file flag that is this text, with the
working directory as owner. -/
theorem buildSession_owns (host : Host) (executable : Option NormalPath) (a : ResolveArguments)
    (settings : Settings) (rest : Text)
    (habsolute : NormalPath.isAbsolute host.directory = true) (hback : '\\' ∉ host.directory)
    (hdouble : ¬ ['/', '/'] <:+: host.directory)
    (hrest : rest ≠ []) (hslash : rest.head? ≠ some '/') (hbackslash : rest.head? ≠ some '\\')
    (hroot : ∀ drive, NormalPath.isDrive drive = true →
      (NormalPath.ofText rest).text ≠ drive ++ ['/'])
    (hsettings : (loadSettings host a.config).result = .ok settings) :
    (∀ folder raw, folder ≠ [] → folder.getLast? ≠ some '/' → folder.getLast? ≠ some '\\' →
      WritesFolder raw folder → a.workspaces = [raw] → a.file = some (folder ++ '/' :: rest) →
        ∃ s, (buildSession host executable a).result = .ok s ∧
          s.Owns (.ofText (NormalPath.absolutize host.directory folder))
            (pathOf host (folder ++ '/' :: rest)) (NormalPath.ofText rest).text) ∧
      (a.workspaces = [] → a.file = some rest →
        ∃ s, (buildSession host executable a).result = .ok s ∧
          s.Owns (.ofText host.directory) (pathOf host rest) (NormalPath.ofText rest).text) := by
  have hhead : (NormalPath.slashed rest).head? ≠ some '/' := by
    rw [Ne, NormalPath.head?_slashed]
    exact not_or.mpr ⟨hslash, hbackslash⟩
  have hrestRoot : ¬ (NormalPath.ofText rest).IsRoot := by
    intro h
    obtain ⟨drive, hdrive, htext⟩ := NormalPath.isDrive_of_isRoot hrest hhead h
    exact hroot drive hdrive htext
  constructor
  · intro folder raw hne hlast hlastBack hwrites hworkspaces hfile
    obtain ⟨f, hf, hpath⟩ := exists_ofFlag host.directory hne hwrites
    have hfolders : foldersOf host.directory a.workspaces = .ok [f] := by
      rw [hworkspaces]
      change List.mapM (Folder.ofFlag host.directory) [raw] = _
      rw [List.mapM_cons, hf]
      rfl
    obtain ⟨s, hs, hsFolders, hactive, hseparator⟩ :=
      exists_buildSession executable hfolders hsettings
    rw [hfile] at hactive
    refine ⟨s, hs, hpath ▸ Session.owns_of_text hsFolders hactive hseparator ?_⟩
    have hopen : (NormalPath.slashed folder).getLast? ≠ some '/' := by
      rw [Ne, NormalPath.getLast?_slashed]
      exact not_or.mpr ⟨hlast, hlastBack⟩
    rw [hpath]
    exact NormalPath.text_absolutize_behind hrest hhead hrestRoot host.directory hne hopen
  · intro hworkspaces hfile
    have hfolders : foldersOf host.directory a.workspaces =
        .ok [Folder.ofPath (.ofText host.directory)] := by
      rw [hworkspaces]
      rfl
    obtain ⟨s, hs, hsFolders, hactive, hseparator⟩ :=
      exists_buildSession executable hfolders hsettings
    rw [hfile] at hactive
    refine ⟨s, hs, Session.owns_of_text hsFolders hactive hseparator ?_⟩
    exact NormalPath.text_absolutize_relative hrest hhead hrestRoot habsolute hback hdouble

theorem buildSession_owns_service :
    let host : Host := { directory := "/work".toList }
    let rest := "src\\b.rs/".toList
    let named : ResolveArguments :=
      { template := [], workspaces := ["api=svc".toList], file := some ("svc/".toList ++ rest) }
    let bare : ResolveArguments := { template := [], file := some rest }
    (∃ s, (buildSession host none named).result = .ok s ∧
      s.Owns (.ofText "/work/svc".toList) (.ofText "/work/svc/src/b.rs".toList)
        "src/b.rs".toList) ∧
      ∃ s, (buildSession host none bare).result = .ok s ∧
        s.Owns (.ofText "/work".toList) (.ofText "/work/src/b.rs".toList) "src/b.rs".toList := by
  intro host rest named bare
  have hrelative : (NormalPath.ofText rest).text = "src/b.rs".toList := by decide +kernel
  have hroot : ∀ drive, NormalPath.isDrive drive = true →
      (NormalPath.ofText rest).text ≠ drive ++ ['/'] := by
    intro drive _ heq
    have hlast := congrArg List.getLast? heq
    rw [hrelative, List.getLast?_concat] at hlast
    exact absurd hlast (by decide)
  have howns := fun a settings => buildSession_owns host none a settings rest rfl (by decide)
    (by decide) (by decide) (by decide) (by decide) hroot
  constructor
  · obtain ⟨s, hs, hnamed⟩ := (howns named {} rfl).1 "svc".toList "api=svc".toList (by decide)
      (by decide) (by decide) (Or.inl ⟨"api".toList, by decide, by decide, rfl⟩) rfl rfl
    have hfolder : NormalPath.ofText (NormalPath.absolutize host.directory "svc".toList) =
        .ofText "/work/svc".toList := by decide +kernel
    have hfile : pathOf host ("svc".toList ++ '/' :: rest) =
        .ofText "/work/svc/src/b.rs".toList := by decide +kernel
    rw [hfolder, hfile, hrelative] at hnamed
    exact ⟨s, hs, hnamed⟩
  · obtain ⟨s, hs, hbare⟩ := (howns bare {} rfl).2 rfl rfl
    have hfile : pathOf host rest = .ofText "/work/src/b.rs".toList := by decide +kernel
    rw [hfile, hrelative] at hbare
    exact ⟨s, hs, hbare⟩

end CommandLine

end Interpolation
