import Interpolation.Session

/-!
# Sample sessions

Two sessions to try templates on: one with a single folder, and one with two folders, of which the
second holds the active file.
-/

namespace Interpolation.Session

def pathOf (s : String) : NormalPath :=
  NormalPath.ofText s.toList

def singleFolder : Session where
  folders := [⟨"proj".toList, pathOf "/home/u/proj"⟩]
  activeFile := some (pathOf "/home/u/proj/src/a.ts")
  home := some (pathOf "/home/u")
  executable := some (pathOf "/opt/editor/bin/editor")
  environment := Table.ofList [("USER".toList, "u".toList)]
  settings := ({} : Settings).insert "editor.tabSize".toList (.number (.whole 4))

/-- Two folders, with a selection in a file of the second. -/
def twoFolders : Session where
  folders := [⟨"web".toList, pathOf "/work/web"⟩, ⟨"api".toList, pathOf "/work/api"⟩]
  activeFile := some (pathOf "/work/api/handlers/user.rs")
  selection := some ⟨⟨11, 4⟩, ⟨11, 13⟩, "find_user".toList⟩
  home := some (pathOf "/home/dev")

end Interpolation.Session
