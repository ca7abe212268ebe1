import Interpolation.Document
import Interpolation.Format.Toml
import Interpolation.Format.Yaml

/-!
# Command tables

A command table gives the shell line of each command, under the key `commands` of a document. Other
keys have no meaning. In JSON a list may stand for the table: its one item holds the lines.
-/

namespace Interpolation

/-- The shell lines of commands by id. -/
structure CommandTable where
  lines : Table Text := []

namespace CommandTable

def linesKey : Text :=
  "commands".toList

def text? : Value → Option Text
  | .text t => some t
  | _ => none

def ofValue? : Value → Option CommandTable
  | .table entries =>
    (entries.mapM fun entry => (text? entry.2).map fun line => (entry.1, line)).map fun lines =>
      ⟨Table.ofList lines⟩
  | _ => none

def ofOnce? {α : Type} (lines? : α → Option CommandTable) : List α → Option CommandTable
  | [] => some {}
  | [a] => lines? a
  | _ => none

def linesOf {α : Type} (entries : List (Text × α)) : List α :=
  (entries.filter fun (key, _) => key == linesKey).map Prod.snd

def read? : Format → Text → Option CommandTable
  | .toml, t => (Toml.read? t).bind fun entries => ofOnce? ofValue? (linesOf entries)
  | .json, t =>
    match Json.readUnder? linesKey t with
    | some found => ofOnce? ofValue? found
    | none =>
      match Json.read? t with
      | some (.list items) => ofOnce? ofValue? items
      | _ => none
  | .yaml, t =>
    ((Yaml.readDocument? t).bind fun d => d.textsUnder? linesKey).bind
      (ofOnce? fun lines => some ⟨Table.ofList lines⟩)

def load (files : Files) (path : NormalPath) : Loading CommandTable :=
  Document.load read? files path

end CommandTable

end Interpolation
