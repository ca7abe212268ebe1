import Interpolation.Value

/-!
# Settings

A setting is found under its whole key first, as editors store it flat, and then by following the
segments of the key through nested tables. A key that is stored flat hides the nested one.
-/

namespace Interpolation

/-- The settings are a table. -/
structure Settings where
  entries : Table Value := []

def Value.descend? : Value → List Text → Option Value
  | v, [] => some v
  | .table entries, key :: keys =>
    match entries.lookup key with
    | some v => v.descend? keys
    | none => none
  | _, _ :: _ => none

namespace Settings

def segments (key : Text) : List Text :=
  key.splitOn '.'

/-- The setting under a key: the entry of that very name, or else the one that its segments lead
to. -/
def get? (s : Settings) (key : Text) : Option Value :=
  match s.entries.lookup key with
  | some v => some v
  | none => (Value.table s.entries).descend? (segments key)

def insert (s : Settings) (key : Text) (value : Value) : Settings :=
  ⟨s.entries.insert key value⟩

def isEmpty (s : Settings) : Bool :=
  s.entries.isEmpty

theorem get?_insert_self (s : Settings) (key : Text) (value : Value) :
    (s.insert key value).get? key = some value := by
  simp [get?, insert, Table.lookup_insert]

/-- What a setting puts into a text: nothing for null. -/
def textOf : Value → Text
  | .null => []
  | v => v.plain

def text? (s : Settings) (key : Text) : Option Text :=
  (s.get? key).map textOf

def textOr (s : Settings) (key default : Text) : Text :=
  (s.text? key).getD default

end Settings

end Interpolation
