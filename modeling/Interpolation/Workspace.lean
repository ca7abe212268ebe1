import Interpolation.FileTree
import Interpolation.Settings.File
import Interpolation.Session

/-!
# Workspaces

A workspace is a root directory with the files below it. What is in it is named by paths relative to
the root.
-/

namespace Interpolation

structure Workspace where
  root : Text
  tree : FileTree

namespace Workspace

def empty (root : Text) : Workspace :=
  ⟨root, ({} : FileTree).addFolder root⟩

def place (w : Workspace) (name : Text) : Text :=
  NormalPath.absolutize w.root name

def path (w : Workspace) (name : Text) : NormalPath :=
  NormalPath.ofText (w.place name)

def addFile (w : Workspace) (name : Text) (content : List UInt8) : Workspace :=
  { w with tree := w.tree.addFile (w.place name) content }

def settings (w : Workspace) (name : Text) : Loading Settings :=
  Settings.load w.tree.read (w.path name)

/-- The session with some folders of the workspace, each named after its last component. -/
def session (w : Workspace) (folders : List Text) : Session :=
  { folders := folders.map fun name => Folder.ofPath (w.path name) }

end Workspace

end Interpolation
