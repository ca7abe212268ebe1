import Interpolation.Text

/-!
# Readers of text

A reader takes a value from the front of a text, or fails. Where one reader fails, another may be
tried from the same place.
-/

namespace Interpolation

/-- Readers take a value from the front of a text, or fail. -/
abbrev Reader := StateT Text Option

namespace Reader

/-- The next character, which stays where it is. -/
def peek? : Reader (Option Char) :=
  fun t => some (t.head?, t)

def ahead : Reader Text :=
  fun t => some (t, t)

/-- Take the next character if it is of a kind. -/
def satisfy (kind : Char → Bool) : Reader Char
  | c :: rest => if kind c then some (c, rest) else none
  | [] => none

def char (c : Char) : Reader Unit := do
  let _ ← satisfy (· == c)

def chars : Text → Reader Unit
  | [] => pure ()
  | c :: t => do char c; chars t

def word (s : String) : Reader Unit :=
  chars s.toList

def ensure (b : Bool) : Reader Unit :=
  if b then pure () else failure

/-- The characters of a kind at the front. -/
def takeWhile (kind : Char → Bool) : Reader Text :=
  fun t => some (t.takeWhile kind, t.dropWhile kind)

def skipWhile (kind : Char → Bool) : Reader Unit := do
  let _ ← takeWhile kind

def repeated {α : Type} (r : Reader α) : Nat → Reader (List α)
  | 0 => pure []
  | times + 1 => fun t =>
    match r t with
    | none => some ([], t)
    | some (a, t) => (repeated r times t).map fun (rest, t) => (a :: rest, t)

/-- Read again and again until reading fails. A reader that takes something each time is not cut
short by the bound. -/
def many {α : Type} (r : Reader α) : Reader (List α) :=
  fun t => repeated r (t.length + 1) t

def many1 {α : Type} (r : Reader α) : Reader (List α) := do
  let first ← r
  let rest ← many r
  pure (first :: rest)

def separated {α : Type} (separator : Reader Unit) (r : Reader α) : Reader (List α) := do
  let first ← r
  let rest ← many (do separator; r)
  pure (first :: rest)

def digits1 : Reader (List Nat) := do
  let run ← many1 (satisfy Char.isDigit)
  pure (run.map fun c => c.toNat - '0'.toNat)

def whole? {α : Type} (r : Reader α) (t : Text) : Option α :=
  (r t).bind fun (a, rest) => if rest.isEmpty then some a else none

end Reader

end Interpolation
