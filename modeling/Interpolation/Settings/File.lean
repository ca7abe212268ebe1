import Interpolation.Document
import Interpolation.Format.Toml
import Interpolation.Format.Yaml
import Interpolation.Settings

/-!
# Settings files

The root of a settings file is a table. A file that says nothing holds no settings.
-/

namespace Interpolation

def Value.kind : Value → String
  | null => "null"
  | boolean _ => "a boolean"
  | number _ => "a number"
  | text _ => "a string"
  | list _ => "an array"
  | table _ => "a table"

def Format.read? : Format → Text → Option Value
  | toml, t => (Toml.read? t).map .table
  | json, t => Json.read? t
  | yaml, t => Yaml.read? t

namespace Settings

def ofValue (path : NormalPath) : Value → Except LoadError Settings
  | .table entries => .ok ⟨entries⟩
  | .null => .ok {}
  | v => .error (.rootNotTable path v.kind)

/-- Load a settings file. -/
def load (files : Files) (path : NormalPath) : Loading Settings :=
  (Document.load Format.read? files path).andThen fun v => .ofExcept (ofValue path v)

end Settings

end Interpolation
