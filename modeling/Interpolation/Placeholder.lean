import Interpolation.Text

/-!
# The placeholders

A token is written `$`, then in braces a name and, for some placeholders, a colon and an argument.
The catalogue lists the placeholders in the order in which a pass tries them. Invoking a command has
effects, so `command` comes last and no pass replaces it.
-/

namespace Interpolation

inductive Category where
  | path
  | name
  | text
  | numeric
  | separator
  | command
  deriving DecidableEq, Repr

/-- The placeholders that are recognized. -/
inductive Placeholder where
  | userHome
  | workspaceFolder
  | workspaceFolderNamed
  | workspaceFolderBasename
  | workspaceFolderBasenameNamed
  | file
  | fileWorkspaceFolder
  | relativeFile
  | relativeFileDirname
  | fileBasename
  | fileBasenameNoExtension
  | fileDirname
  | fileExtname
  | lineNumber
  | selectedText
  | cwd
  | execPath
  | pathSeparator
  | pathSeparatorShort
  | env
  | config
  | command
  deriving DecidableEq, Repr

namespace Placeholder

def catalogue : List Placeholder :=
  [userHome, workspaceFolder, workspaceFolderNamed, workspaceFolderBasename,
    workspaceFolderBasenameNamed, file, fileWorkspaceFolder, relativeFile, relativeFileDirname,
    fileBasename, fileBasenameNoExtension, fileDirname, fileExtname, lineNumber, selectedText, cwd,
    execPath, pathSeparator, pathSeparatorShort, env, config, command]

theorem mem_catalogue (p : Placeholder) : p ∈ catalogue := by
  cases p <;> decide

def isCommand : Placeholder → Bool
  | command => true
  | _ => false

/-- The placeholders that a pass replaces, in its order. -/
def substitutionOrder : List Placeholder :=
  catalogue.filter fun p => !p.isCommand

/-- The name between the brace and the colon or the closing brace. -/
def name : Placeholder → String
  | userHome => "userHome"
  | workspaceFolder | workspaceFolderNamed => "workspaceFolder"
  | workspaceFolderBasename | workspaceFolderBasenameNamed => "workspaceFolderBasename"
  | file => "file"
  | fileWorkspaceFolder => "fileWorkspaceFolder"
  | relativeFile => "relativeFile"
  | relativeFileDirname => "relativeFileDirname"
  | fileBasename => "fileBasename"
  | fileBasenameNoExtension => "fileBasenameNoExtension"
  | fileDirname => "fileDirname"
  | fileExtname => "fileExtname"
  | lineNumber => "lineNumber"
  | selectedText => "selectedText"
  | cwd => "cwd"
  | execPath => "execPath"
  | pathSeparator => "pathSeparator"
  | pathSeparatorShort => "/"
  | env => "env"
  | config => "config"
  | command => "command"

/-- What the argument is called in the display form; a placeholder without a label takes none. -/
def argumentLabel? : Placeholder → Option String
  | workspaceFolderNamed | workspaceFolderBasenameNamed | env | config => some "NAME"
  | command => some "ID"
  | _ => none

/-- Whether a token of the placeholder has an argument. -/
def takesArgument (p : Placeholder) : Bool :=
  p.argumentLabel?.isSome

/-- The part of a token that is the same for every argument: up to the end of the name. -/
def opening (p : Placeholder) : Text :=
  '$' :: '{' :: p.name.toList

/-- The token of a placeholder with an argument or without one. -/
def written (p : Placeholder) : Option Text → Text
  | none => p.opening ++ ['}']
  | some argument => p.opening ++ ':' :: (argument ++ ['}'])

def display (p : Placeholder) : Text :=
  p.written (p.argumentLabel?.map String.toList)

def category : Placeholder → Category
  | userHome | workspaceFolder | workspaceFolderNamed | file | fileWorkspaceFolder | relativeFile
  | relativeFileDirname | fileDirname | cwd | execPath => .path
  | workspaceFolderBasename | workspaceFolderBasenameNamed | fileBasename | fileBasenameNoExtension
  | fileExtname => .name
  | selectedText | env | config => .text
  | lineNumber => .numeric
  | pathSeparator | pathSeparatorShort => .separator
  | command => .command

def description : Placeholder → String
  | userHome => "home directory"
  | workspaceFolder => "path of the first workspace folder"
  | workspaceFolderNamed => "path of the workspace folder named NAME"
  | workspaceFolderBasename => "name of the first workspace folder"
  | workspaceFolderBasenameNamed => "name of the workspace folder named NAME"
  | file => "active file path"
  | fileWorkspaceFolder => "workspace folder containing the active file"
  | relativeFile => "active file relative to its workspace folder"
  | relativeFileDirname => "directory of the relative active file"
  | fileBasename => "active file name"
  | fileBasenameNoExtension => "active file name without extension"
  | fileDirname => "directory of the active file"
  | fileExtname => "extension of the active file"
  | lineNumber => "1-based cursor line, 0 without a cursor"
  | selectedText => "selected text"
  | cwd => "directory of the active file"
  | execPath => "host executable path"
  | pathSeparator | pathSeparatorShort => "platform path separator"
  | env => "environment variable NAME"
  | config => "settings value NAME"
  | command => "result of invoking command ID"

/-- Whether a leftover token asks for another pass; only `file`, `execPath` and `userHome` do not.
-/
def triggersRecursion : Placeholder → Bool
  | file | execPath | userHome => false
  | _ => true

end Placeholder

end Interpolation
