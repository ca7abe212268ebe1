import Interpolation.Files
import Interpolation.Text.Utf8
import Interpolation.Traced

/-!
# Documents

A document is a text file in one of three formats, told by the extension of its name. The file is
read before its extension is looked at, so a file that is missing is reported as missing whatever
its name.
-/

namespace Interpolation

inductive Format where
  | toml
  | json
  | yaml
  deriving DecidableEq, Repr

namespace Format

def name : Format → String
  | toml => "TOML"
  | json => "JSON"
  | yaml => "YAML"

def extensions : Format → List String
  | toml => ["toml"]
  | json => ["json"]
  | yaml => ["yaml", "yml"]

/-- The format that an extension stands for; the case of ASCII letters has no meaning. -/
def ofExtension? (extension : Text) : Option Format :=
  [toml, json, yaml].find? fun format =>
    format.extensions.any fun e => e.toList == extension.map Char.toLower

end Format

/-- Why a document cannot be loaded. -/
inductive LoadError where
  | unreadable (path : NormalPath) (reason : ReadError)
  | unsupportedFormat (extension : Text)
  | malformed (path : NormalPath) (format : Format)
  | rootNotTable (path : NormalPath) (found : String)
  deriving DecidableEq, Repr

def LoadError.message : LoadError → Text
  | unreadable path reason =>
    "Cannot read ".toList ++ path.text ++ ": ".toList ++ reason.message.toList
  | unsupportedFormat extension =>
    "Unsupported settings format '".toList ++ extension ++
      "' (expected toml, json, yaml or yml)".toList
  | malformed path format =>
    "Invalid ".toList ++ format.name.toList ++ " in ".toList ++ path.text
  | rootNotTable path found =>
    "Invalid settings at ".toList ++ path.text ++
      ": expected a table at the root, found ".toList ++ found.toList

/-- What loading a document comes to, and what happened on the way. -/
abbrev Loading (α : Type) := Traced LoadError α

namespace Document

def readText (files : Files) (path : NormalPath) : Except ReadError Text := do
  let bytes ← files path.text
  match Utf8.decode? bytes with
  | some t => .ok t
  | none => .error .notText

/-- Load a document with a reader for each format. -/
def load {α : Type} (read? : Format → Text → Option α) (files : Files) (path : NormalPath) :
    Loading α :=
  (Traced.ofExcept ((readText files path).mapError (.unreadable path))).andThen fun content =>
    let extension := path.extension?.getD []
    match Format.ofExtension? extension with
    | none => .ofExcept (.error (.unsupportedFormat extension))
    | some format =>
      (Traced.tell (.readingFile path format.name)).andThen fun _ =>
        match read? format content with
        | some a => .ofExcept (.ok a)
        | none => .ofExcept (.error (.malformed path format))

end Document

end Interpolation
