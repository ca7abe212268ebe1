import Interpolation.Command
import Interpolation.Session

/-!
# Values of flags

A workspace flag is `[NAME=]PATH`, a command flag `ID=VALUE`. Both are cut at the first `=`. The
first flag that is wrong is reported; of two commands with one id the later one counts.
-/

namespace Interpolation

/-- Why the value of a flag is refused. -/
inductive FlagError where
  | workspace (raw : Text)
  | emptyWorkspace
  | command (entry : Text)
  deriving DecidableEq, Repr

def FlagError.message : FlagError → Text
  | workspace raw => "Invalid workspace '".toList ++ raw ++ "', expected [NAME=]PATH".toList
  | emptyWorkspace => "Workspace path must not be empty".toList
  | command entry => "Invalid command '".toList ++ entry ++ "', expected ID=VALUE".toList

/-- The folder of a workspace flag. Without a name it is named after the last component. -/
def Folder.ofFlag (cwd raw : Text) : Except FlagError Folder :=
  match Text.cutFirst '=' raw with
  | some (name, path) =>
    if name.isEmpty || path.isEmpty then .error (.workspace raw)
    else .ok ⟨name, NormalPath.ofText (NormalPath.absolutize cwd path)⟩
  | none =>
    if raw.isEmpty then .error .emptyWorkspace
    else .ok (Folder.ofPath (NormalPath.ofText (NormalPath.absolutize cwd raw)))

def commandOfFlag (entry : Text) : Except FlagError (Text × Text) :=
  match Text.cutFirst '=' entry with
  | some (id, value) => if id.isEmpty then .error (.command entry) else .ok (id, value)
  | none => .error (.command entry)

/-- The values of the command flags by id. -/
def commandsOfFlags (entries : List Text) : Except FlagError (Table Value) :=
  (entries.mapM commandOfFlag).map fun commands =>
    Table.ofList (commands.map fun (id, value) => (id, Value.text value))

end Interpolation
