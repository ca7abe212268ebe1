import Interpolation.CommandLine

/-!
# The program

A picture of the files is taken first: of those that the arguments name, and of all that is below
the directory. All else is computed from it.
-/

namespace Interpolation

def readFile (tree : FileTree) (path : Text) : IO FileTree := do
  try
    let bytes ← IO.FS.readBinFile (String.ofList path)
    return tree.addFile path bytes.toList
  catch
    | .inappropriateType _ 21 _ => return tree.addFolder path
    | _ => return tree

def readFolder : Nat → FileTree → Text → IO FileTree
  | 0, tree, _ => return tree
  | depth + 1, tree, path => do
    let entries ← try (System.mkFilePath [String.ofList path]).readDir catch _ => pure #[]
    entries.foldlM (fun tree entry => do
      let path := path ++ '/' :: entry.fileName.toList
      if ← entry.path.isDir then readFolder depth (tree.addFolder path) path
      else readFile tree path) tree

def contentOf (path : String) : IO (List UInt8) := do
  try return (← IO.FS.readBinFile path).toList catch _ => return []

def readVariables : IO (Table (List UInt8)) := do
  return Table.ofList (Host.variablesOfBlock (← contentOf "/proc/self/environ"))

def readFiles (host : Host) (request : CommandLine.Request) : IO Host := do
  let tree ← readFolder 8 host.tree host.directory
  let tree ← (CommandLine.documentsOf host request).foldlM readFile tree
  return { host with tree }

end Interpolation

open Interpolation in
/-- Run the program. -/
def main (arguments : List String) : IO UInt32 := do
  let arguments := arguments.map String.toList
  let host : Host :=
    { directory := (← IO.currentDir).toString.toList
      environment := ← readVariables }
  let executable := NormalPath.ofText (← IO.appPath).toString.toList
  match CommandLine.invocationOn host arguments with
  | .error stop =>
    match stop with
    | .usage => (← IO.getStderr).putStr CommandLine.usage
    | .information => IO.print CommandLine.usage
    return UInt32.ofNat stop.exitCode
  | .ok invocation =>
    let host ← readFiles host invocation.request
    let isColoured := CommandLine.Style.isWanted host (← (← IO.getStdout).isTty)
    match CommandLine.run host (some executable) isColoured arguments with
    | .error stop => return UInt32.ofNat stop.exitCode
    | .ok outcome =>
      (← IO.getStderr).putStr (String.ofList outcome.errors)
      IO.print (String.ofList outcome.output)
      return UInt32.ofNat outcome.exitCode
