import Interpolation.Decimal.Shortest

/-!
# Values

Settings hold, and commands answer with, values of one kind: nothing, truth values, numbers, texts,
lists and tables. A table lists its entries by ascending key. The compact text of a value has no
blanks, the spread text breaks lists and tables into lines.
-/

namespace Interpolation

abbrev Table (α : Type) := List (Text × α)

namespace Table

/-- Put an entry at its place in the order of the keys; an entry with that key is replaced. -/
def insert {α : Type} (key : Text) (value : α) : Table α → Table α
  | [] => [(key, value)]
  | (k, v) :: rest =>
    if key = k then (key, value) :: rest
    else if key < k then (key, value) :: (k, v) :: rest
    else (k, v) :: insert key value rest

theorem lookup_cons {α : Type} (key other : Text) (value : α) (t : Table α) :
    List.lookup other ((key, value) :: t) = if other = key then some value else t.lookup other := by
  by_cases h : other = key
  · simp [h]
  · have hb : (other == key) = false := by simpa using h
    simp [List.lookup_cons, h, hb]

theorem lookup_insert {α : Type} (key other : Text) (value : α) (t : Table α) :
    (insert key value t).lookup other = if other = key then some value else t.lookup other := by
  induction t with
  | nil => simp [insert, lookup_cons]
  | cons e rest ih =>
    obtain ⟨k, v⟩ := e
    simp only [insert]
    split
    · next h => subst h; simp only [lookup_cons]; split <;> rfl
    · next h =>
      split
      · simp only [lookup_cons]
      · by_cases ho : other = k
        · subst ho
          simp [Ne.symm h]
        · simp [lookup_cons, ho, ih]

/-- The table of entries in the order of writing: a later entry replaces an earlier one. -/
def ofList {α : Type} (entries : List (Text × α)) : Table α :=
  entries.foldl (fun t e => insert e.1 e.2 t) []

end Table

/-- A number is a whole number or a double. -/
inductive Number where
  | whole (n : Int)
  | real (x : Float)

/-- A value of the settings or of a command. -/
inductive Value where
  | null
  | boolean (b : Bool)
  | number (n : Number)
  | text (t : Text)
  | list (items : List Value)
  | table (entries : List (Text × Value))
  deriving Inhabited

namespace Number

def layout : Decimal.Layout := ⟨15, -5⟩

def toText : Number → Text
  | .whole n => Text.ofInt n
  | .real x => layout.ofFloat x

def real? (x : Float) : Value :=
  if x.isFinite then .number (.real x) else .null

end Number

namespace Value

def hexDigit (n : Nat) : Char :=
  Nat.digitChar (n % 16)

/-- A character inside quotes: quotes, backslashes and control characters are escaped. -/
def quoteChar (c : Char) : Text :=
  if c = '"' then ['\\', '"']
  else if c = '\\' then ['\\', '\\']
  else if c = '\n' then ['\\', 'n']
  else if c = '\r' then ['\\', 'r']
  else if c = '\t' then ['\\', 't']
  else if c.toNat = 8 then ['\\', 'b']
  else if c.toNat = 12 then ['\\', 'f']
  else if c.toNat < 32 then ['\\', 'u', '0', '0', hexDigit (c.toNat / 16), hexDigit c.toNat]
  else [c]

def quote (t : Text) : Text :=
  '"' :: (t.flatMap quoteChar ++ ['"'])

/-- The text of the plain values; lists and tables are laid out by their printers. -/
def atom : Value → Text
  | .null => "null".toList
  | .boolean true => "true".toList
  | .boolean false => "false".toList
  | .number n => n.toText
  | .text t => quote t
  | .list _ => []
  | .table _ => []

mutual

def compact : Value → Text
  | .list items => '[' :: (compactItems items ++ [']'])
  | .table entries => '{' :: (compactEntries entries ++ ['}'])
  | v => v.atom

def compactItems : List Value → Text
  | [] => []
  | [v] => v.compact
  | v :: rest => v.compact ++ ',' :: compactItems rest

def compactEntries : List (Text × Value) → Text
  | [] => []
  | [(k, v)] => quote k ++ ':' :: v.compact
  | (k, v) :: rest => quote k ++ ':' :: (v.compact ++ ',' :: compactEntries rest)

end

def newLine (depth : Nat) : Text :=
  '\n' :: List.replicate (2 * depth) ' '

mutual

/-- The text of a value over several lines. -/
def spread (depth : Nat) : Value → Text
  | .list [] => ['[', ']']
  | .list items => '[' :: (spreadItems (depth + 1) items ++ newLine depth ++ [']'])
  | .table [] => ['{', '}']
  | .table entries => '{' :: (spreadEntries (depth + 1) entries ++ newLine depth ++ ['}'])
  | v => v.atom

def spreadItems (depth : Nat) : List Value → Text
  | [] => []
  | [v] => newLine depth ++ v.spread depth
  | v :: rest => newLine depth ++ v.spread depth ++ ',' :: spreadItems depth rest

def spreadEntries (depth : Nat) : List (Text × Value) → Text
  | [] => []
  | [(k, v)] => newLine depth ++ quote k ++ ':' :: ' ' :: v.spread depth
  | (k, v) :: rest =>
    newLine depth ++ quote k ++ ':' :: ' ' :: (v.spread depth ++ ',' :: spreadEntries depth rest)

end

/-- A text value stands for its characters, any other value for its compact text. -/
def plain : Value → Text
  | .text t => t
  | v => v.compact

end Value

end Interpolation
