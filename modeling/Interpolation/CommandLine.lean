import Interpolation.CommandLine.Arguments
import Interpolation.CommandLine.Flags
import Interpolation.CommandLine.Listing
import Interpolation.Log
import Interpolation.Settings.File
import Interpolation.Shell.Commands

/-!
# The command line

A resolution from the command line works on the environment of the program, the folders, the file
and the selection of its flags, and a settings file. Its commands are those of the flags and the
lines of a command table. Faults are found in this order: folders, settings, command table, command
flags, and then the resolution itself.
-/

namespace Interpolation.CommandLine

inductive Failure where
  | flag (error : FlagError)
  | load (error : LoadError)
  | resolution (error : ResolveError)
  deriving DecidableEq, Repr

def Failure.message : Failure → Text
  | flag error => error.message
  | load error => error.message
  | resolution error => error.message

/-- What a request comes to: its output or a failure, and what happened. -/
abbrev Report := Traced Failure Text

/-- The place and the text of the selection; the line is counted from one. -/
def selectionOf (line : Option Nat) (text : Option Text) : Option Selection :=
  if line.isNone && text.isNone then none
  else
    let place : Position := ⟨((line.getD 1 - 1 : Nat) : UInt32), 0⟩
    some ⟨place, place, text.getD []⟩

/-- The folders of the workspace flags. Without any, the directory is the only folder. -/
def foldersOf (directory : Text) : List Text → Except FlagError (List Folder)
  | [] => .ok [Folder.ofPath (NormalPath.ofText directory)]
  | flags => flags.mapM (Folder.ofFlag directory)

def pathOf (host : Host) (flag : Text) : NormalPath :=
  NormalPath.ofText (NormalPath.absolutize host.directory flag)

/-- Load the settings file, if one is named. -/
def loadSettings (host : Host) : Option Text → Loading Settings
  | none => .ofExcept (.ok {})
  | some flag =>
    (Traced.tell (.loadingSettings (pathOf host flag))).andThen fun _ =>
      Settings.load host.files (pathOf host flag)

def loadTable (host : Host) : Option Text → Loading CommandTable
  | none => .ofExcept (.ok {})
  | some flag => CommandTable.load host.files (pathOf host flag)

def documentsOf (host : Host) : Request → List Text
  | .resolve a => (a.config.toList ++ a.commands.toList).map fun flag => (pathOf host flag).text
  | _ => []

/-- The session of a resolution: the environment of the program, and what the flags say. -/
def buildSession (host : Host) (executable : Option NormalPath) (a : ResolveArguments) :
    Traced Failure Session :=
  (Traced.ofExcept ((foldersOf host.directory a.workspaces).mapError .flag)).andThen fun folders =>
    ((loadSettings host a.config).mapError .load).andThen fun settings =>
      let environment := host.environment.map fun (name, value) => (name, Utf8.decodeLossy value)
      .ofExcept (.ok { Session.ofEnvironment environment executable with
        folders
        activeFile := a.file.map (pathOf host)
        selection := selectionOf a.line a.selection
        settings })

/-- The commands of a resolution: those of the flags, and then the lines of the command table. -/
def buildCommands (host : Host) (a : ResolveArguments) : Traced Failure (Executor Shell.Volume) :=
  ((loadTable host a.commands).mapError .load).andThen fun table =>
    (Traced.ofExcept ((commandsOfFlags a.fixed).mapError .flag)).andThen fun fixed =>
      .ofExcept (.ok (.preferring fixed (.lines (Shell.run host) table)))

def resolvedOutput (json : Bool) (template resolved : Text) : Text :=
  if json then
    unlines [(Value.table [("resolved".toList, .text resolved),
      ("template".toList, .text template)]).spread 0]
  else unlines [resolved]

def resolveRequest (host : Host) (executable : Option NormalPath) (a : ResolveArguments) : Report :=
  (buildSession host executable a).andThen fun session =>
    (buildCommands host a).andThen fun executor =>
      let r := Interpolation.resolve a.options session.context executor (Shell.volumeOf host.tree)
        a.template
      (Traced.mk (r.result.mapError .resolution) r.events).andThen fun resolved =>
        .ofExcept (.ok (resolvedOutput a.json a.template resolved))

def answer (host : Host) (executable : Option NormalPath) (isColoured : Bool) : Request → Report
  | .resolve arguments => resolveRequest host executable arguments
  | .scan template true => ⟨.ok (tokenData template), []⟩
  | .scan template false => ⟨.ok (tokenListing isColoured template), []⟩
  | .tokens => ⟨.ok (placeholderListing isColoured), []⟩

def usage : String :=
  "usage: vars [-v] resolve TEMPLATE [-r] [-w [NAME=]PATH]... [-f PATH] [--line N]\n" ++
  "         [--selection TEXT] [-c FILE] [--commands FILE] [--command ID=VALUE]...\n" ++
  "         [--max-depth N] [--max-commands N] [--timeout-ms MS] [--json]\n" ++
  "       vars [-v] scan TEMPLATE [--json]\n" ++
  "       vars [-v] tokens\n"

def configVariable : Text :=
  "VARS_CONFIG".toList

def filterVariable : Text :=
  "RUST_LOG".toList

def invocationOn (host : Host) (arguments : List Text) : Except Stop Invocation :=
  Invocation.ofArguments (host.lossyVariable? configVariable) arguments

structure Outcome where
  exitCode : Nat
  output : Text := []
  errors : Text := []
  deriving DecidableEq, Repr

/-- Run the program: the output, and behind the log lines the failure. -/
def run (host : Host) (executable : Option NormalPath) (isColoured : Bool) (arguments : List Text) :
    Except Stop Outcome := do
  let invocation ← invocationOn host arguments
  let report := answer host executable isColoured invocation.request
  let filter := Log.Filter.choose invocation.isVerbose (host.textVariable? filterVariable)
  let log := filter.lines report.events
  match report.result with
  | .ok output => .ok ⟨0, output, unlines log⟩
  | .error e =>
    let line := Style.alarm.paint isColoured "error".toList ++ ':' :: ' ' :: e.message
    .ok ⟨1, [], unlines (log ++ [line])⟩

end Interpolation.CommandLine
