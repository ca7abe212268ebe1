import Interpolation.Session
import Interpolation.Token

/-!
# A substitution pass

A pass replaces the tokens of every placeholder but `command`, one placeholder after the other in
the order of the catalogue. Text that has been put in is set aside at once: a later placeholder of
the same pass does not look into it, nor across it.
-/

namespace Interpolation

namespace Context

/-- A path as the host writes it, nothing if there is none. -/
def shown (ctx : Context) (p : Option NormalPath) : Text :=
  match p with
  | some p => p.render ctx.separator
  | none => []

/-- The text that a token stands for. A command stands for itself: it is not the pass that replaces
it. -/
def value (ctx : Context) (p : Placeholder) (argument : Option Text) : Text :=
  match p with
  | .userHome => ctx.shown ctx.home
  | .workspaceFolder => ctx.shown (ctx.folders.head?.map Folder.path)
  | .workspaceFolderNamed => ctx.shown ((argument.bind ctx.folderNamed?).map Folder.path)
  | .workspaceFolderBasename => (ctx.folders.head?.map Folder.name).getD []
  | .workspaceFolderBasenameNamed => ((argument.bind ctx.folderNamed?).map Folder.name).getD []
  | .file => ctx.shown ctx.activeFile
  | .fileWorkspaceFolder => ctx.shown (ctx.activeFile.bind ctx.folderContaining?)
  | .relativeFile => ctx.shown (ctx.activeFile.map ctx.relativeToOwner)
  | .relativeFileDirname =>
    ctx.shown (ctx.activeFile.bind fun file => (ctx.relativeToOwner file).parent?)
  | .fileBasename => (ctx.activeFile.bind NormalPath.fileName?).getD []
  | .fileBasenameNoExtension => (ctx.activeFile.bind NormalPath.fileStem?).getD []
  | .fileDirname | .cwd => ctx.shown (ctx.activeFile.bind NormalPath.parent?)
  | .fileExtname => (ctx.activeFile.bind NormalPath.extension?).getD []
  | .lineNumber => Text.ofNat ((ctx.selection.map Selection.lineNumber).getD 0)
  | .selectedText => (ctx.selection.map Selection.text).getD []
  | .execPath => ctx.shown ctx.executable
  | .pathSeparator | .pathSeparatorShort => [ctx.separator]
  | .env => (argument.bind ctx.environment).getD []
  | .config => (argument.map ctx.setting).getD []
  | .command => p.written argument

end Context

/-- A piece of a text in the middle of a pass: still a template, or the value of a placeholder. -/
inductive Segment where
  | template (t : Text)
  | resolved (p : Placeholder) (t : Text)
  deriving DecidableEq, Repr

namespace Segment

def text : Segment → Text
  | template t => t
  | resolved _ t => t

def replace (ctx : Context) (p : Placeholder) : Segment → List Segment
  | template t =>
    let (found, tail) := p.split t
    found.flatMap (fun (before, a) => [template before, resolved p (ctx.value p a)]) ++
      [template tail]
  | s => [s]

/-- Replace the tokens of some placeholders, one after the other. -/
def pass (ctx : Context) (order : List Placeholder) (segments : List Segment) : List Segment :=
  order.foldl (fun segments p => segments.flatMap (replace ctx p)) segments

/-- The text of a list of segments. -/
def join (segments : List Segment) : Text :=
  segments.flatMap text

def source? : Segment → Option Placeholder
  | template _ => none
  | resolved p _ => some p

end Segment

def passSegments (ctx : Context) (t : Text) : List Segment :=
  Segment.pass ctx Placeholder.substitutionOrder [.template t]

/-- Replace every token but those of commands. -/
def substitute (ctx : Context) (t : Text) : Text :=
  Segment.join (passSegments ctx t)

/-- The placeholders whose tokens a pass replaces, once for each token, in the order of the pass. -/
def replaced (ctx : Context) (t : Text) : List Placeholder :=
  let sources := (passSegments ctx t).filterMap Segment.source?
  Placeholder.substitutionOrder.flatMap fun p => sources.filter (· == p)

end Interpolation
