import Interpolation.NormalPath
import Interpolation.Settings

/-!
# The editing session

A session is a picture of the editor at one instant: its folders, the active file, the selection,
the environment, the settings and the host. A resolution sees it through the questions of a context,
whose answers do not change while it runs. What is missing has no answer and is never an error.
-/

namespace Interpolation

structure Folder where
  name : Text
  path : NormalPath
  deriving DecidableEq, Repr

def Folder.ofPath (path : NormalPath) : Folder :=
  ⟨path.fileName?.getD [], path⟩

/-- Numbers stand for places in 32 bits, where they wrap around, and places for numbers. -/
scoped instance placeOfNat : Coe Nat UInt32 := ⟨UInt32.ofNat⟩

scoped instance natOfPlace : Coe UInt32 Nat := ⟨UInt32.toNat⟩

/-- A place in a document, counted from zero in 32 bits. -/
structure Position where
  line : UInt32 := 0
  character : UInt32 := 0
  deriving DecidableEq, Repr

/-- The selected range and its text; an empty selection is the cursor. -/
structure Selection where
  start : Position := {}
  stop : Position := {}
  text : Text := []
  deriving DecidableEq, Repr

namespace Selection

def cursor (place : Position) : Selection :=
  ⟨place, place, []⟩

/-- The line on which the selection begins, counted from one. Behind the last number comes zero. -/
def lineNumber (s : Selection) : UInt32 :=
  s.start.line + 1

end Selection

/-- What a resolution may ask. -/
structure Context where
  folders : List Folder := []
  activeFile : Option NormalPath := none
  selection : Option Selection := none
  environment : Text → Option Text := fun _ => none
  setting : Text → Text := fun _ => []
  home : Option NormalPath := none
  executable : Option NormalPath := none
  separator : Char := '/'

namespace Context

/-- The first folder that holds a path. -/
def folderContaining? (ctx : Context) (p : NormalPath) : Option NormalPath :=
  (ctx.folders.find? fun f => p.isWithin f.path).map Folder.path

def folderNamed? (ctx : Context) (name : Text) : Option Folder :=
  ctx.folders.find? fun f => f.name == name

/-- A path relative to the folder that holds it, or the path itself. -/
def relativeToOwner (ctx : Context) (p : NormalPath) : NormalPath :=
  ((ctx.folderContaining? p).bind p.relativeTo?).getD p

end Context

/-- The picture of the editor that answers for it. -/
structure Session where
  folders : List Folder := []
  activeFile : Option NormalPath := none
  selection : Option Selection := none
  environment : Table Text := []
  settings : Settings := {}
  home : Option NormalPath := none
  executable : Option NormalPath := none
  separator : Char := '/'

namespace Session

def addFolder (s : Session) (folder : Folder) : Session :=
  { s with folders := s.folders ++ [folder] }

def setVariable (s : Session) (name value : Text) : Session :=
  { s with environment := s.environment.insert name value }

/-- The session of a running program: its environment and the home directory named there. -/
def ofEnvironment (entries : List (Text × Text)) (executable : Option NormalPath) : Session :=
  let environment := Table.ofList entries
  { environment
    home := (environment.lookup "HOME".toList).bind fun home =>
      if home.isEmpty then none else some (NormalPath.ofText home)
    executable }

/-- The answers of a session; a setting that is missing is empty. -/
def context (s : Session) : Context :=
  { folders := s.folders
    activeFile := s.activeFile
    selection := s.selection
    environment := fun name => s.environment.lookup name
    setting := fun key => s.settings.textOr key []
    home := s.home
    executable := s.executable
    separator := s.separator }

end Session

end Interpolation
