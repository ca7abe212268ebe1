import Interpolation.Shell.Octets

/-!
# Arithmetic of the shell

Expressions count in whole numbers of 64 bits, which wrap around. They know the operators of C
except those that count up and down and the comma. Variables hold their numbers as text.
-/

namespace Interpolation.Shell.Arithmetic

inductive Operator where
  | multiply
  | divide
  | remainder
  | add
  | subtract
  | shiftLeft
  | shiftRight
  | less
  | atMost
  | greater
  | atLeast
  | equal
  | different
  | bitAnd
  | bitXor
  | bitOr
  deriving DecidableEq, Repr

namespace Operator

def rank : Operator → Nat
  | multiply | divide | remainder => 0
  | add | subtract => 1
  | shiftLeft | shiftRight => 2
  | less | atMost | greater | atLeast => 3
  | equal | different => 4
  | bitAnd => 5
  | bitXor => 6
  | bitOr => 7

def signs : List (String × Operator) :=
  [("<<", shiftLeft), (">>", shiftRight), ("<=", atMost), (">=", atLeast), ("==", equal),
    ("!=", different), ("*", multiply), ("/", divide), ("%", remainder), ("+", add),
    ("-", subtract), ("<", less), (">", greater), ("&", bitAnd), ("^", bitXor), ("|", bitOr)]

def assigns : Operator → Bool
  | less | atMost | greater | atLeast | equal | different => false
  | _ => true

def ofBool (b : Bool) : Int64 :=
  if b then 1 else 0

def value? (a b : Int64) : Operator → Option Int64
  | multiply => some (a * b)
  | divide => if b = 0 then none else some (a / b)
  | remainder => if b = 0 then none else some (a % b)
  | add => some (a + b)
  | subtract => some (a - b)
  | shiftLeft => some (a <<< b)
  | shiftRight => some (a >>> b)
  | less => some (ofBool (a < b))
  | atMost => some (ofBool (a ≤ b))
  | greater => some (ofBool (b < a))
  | atLeast => some (ofBool (b ≤ a))
  | equal => some (ofBool (a == b))
  | different => some (ofBool (a != b))
  | bitAnd => some (a &&& b)
  | bitXor => some (a ^^^ b)
  | bitOr => some (a ||| b)

end Operator

inductive Lexeme where
  | finish
  | unknown
  | number (n : Int64)
  | variable (name : Octets)
  | operator (o : Operator)
  | assignment (o : Option Operator)
  | both
  | either
  | question
  | colon
  | opening
  | closing
  | negation
  | complement
  deriving DecidableEq

def lexeme (o : Octets) : Lexeme × Octets :=
  let o := o.dropWhile Octets.isBlank
  match o with
  | [] => (.finish, [])
  | '&' :: '&' :: rest => (.both, rest)
  | '|' :: '|' :: rest => (.either, rest)
  | c :: rest =>
    if c.isDigit then
      let (_, n, rest) := Octets.takeUnsigned o
      (.number (Int64.ofInt (Octets.clamp n)), rest)
    else if Octets.beginsName c then
      (.variable (o.takeWhile Octets.isNameChar), o.dropWhile Octets.isNameChar)
    else
      let found := Operator.signs.findSome? fun (sign, operator) =>
        (sign.toList.isPrefixOf? o).map fun rest => (operator, rest)
      match found with
      | some (operator, '=' :: rest) =>
        if operator.assigns then (.assignment (some operator), rest)
        else (.operator operator, '=' :: rest)
      | some (operator, rest) => (.operator operator, rest)
      | none =>
        match c with
        | '=' => (.assignment none, rest)
        | '?' => (.question, rest)
        | ':' => (.colon, rest)
        | '(' => (.opening, rest)
        | ')' => (.closing, rest)
        | '!' => (.negation, rest)
        | '~' => (.complement, rest)
        | _ => (.unknown, rest)

structure State where
  whole : Octets
  lexeme : Lexeme
  rest : Octets
  value : Octets → Option Octets
  changes : List (Octets × Octets) := []
  isIdle : Bool := false

abbrev Work := ExceptT Octets (StateM State)

def fail {α : Type} (complaint : String) : Work α := do
  throw (("arithmetic expression: " ++ complaint ++ ": \"").toList ++ (← get).whole ++ ['"'])

def advance : Work Unit :=
  modify fun s =>
    let (lexeme, rest) := lexeme s.rest
    { s with lexeme, rest }

def number? (t : Octets) : Option Int64 :=
  let (found, n, rest) := Octets.takeInteger t
  let isWhole := rest.all Octets.isSpace
  if !found then if isWhole then some 0 else none
  else if isWhole && Octets.least ≤ n && n ≤ Octets.greatest then some (Int64.ofInt n)
  else none

def lookup (name : Octets) : Work Int64 := do
  let s ← get
  if s.isIdle then return 0
  let text := ((s.changes.lookup name).or (s.value name)).getD []
  match number? text with
  | some n => return n
  | none => throw ("Illegal number: ".toList ++ text)

def apply (o : Operator) (a b : Int64) : Work Int64 := do
  if (← get).isIdle then return b
  match o.value? a b with
  | some n => return n
  | none => fail "division by zero"

inductive Rank where
  | assignment
  | conditional
  | disjunction
  | conjunction
  | binary
  | primary

def idlyIf {α : Type} (isIdle : Bool) (work : Work α) : Work α := do
  let before := (← get).isIdle
  modify fun s => { s with isIdle := before || isIdle }
  let a ← work
  modify fun s => { s with isIdle := before }
  return a

def operators (primary : Work Int64) : Nat → Nat → Int64 → Work Int64
  | 0, _, a => pure a
  | n + 1, rank, a => do
    match (← get).lexeme with
    | .operator o =>
      if o.rank < rank then
        advance
        let b ← operators primary n o.rank (← primary)
        operators primary n rank (← apply o a b)
      else return a
    | _ => return a

def evaluate : Nat → Rank → Work Int64
  | 0, _ => fail "expecting primary"
  | depth + 1, .assignment => do
    let s ← get
    match s.lexeme, lexeme s.rest with
    | .variable name, (.assignment o, _) =>
      advance
      advance
      let right ← evaluate depth .assignment
      if (← get).isIdle then return right
      let n ← match o with
        | none => pure right
        | some o => do apply o (← lookup name) right
      modify fun s => { s with changes := (name, Text.ofInt n.toInt) :: s.changes }
      return n
    | _, _ => evaluate depth .conditional
  | depth + 1, .conditional => do
    let a ← evaluate depth .disjunction
    if (← get).lexeme != .question then return a
    advance
    let b ← idlyIf (a == 0) (evaluate depth .assignment)
    if (← get).lexeme != .colon then fail "expecting ':'"
    advance
    let c ← idlyIf (a != 0) (evaluate depth .conditional)
    return if a != 0 then b else c
  | depth + 1, .disjunction => do
    let a ← evaluate depth .conjunction
    if (← get).lexeme != .either then return a
    advance
    let b ← idlyIf (a != 0) (evaluate depth .disjunction)
    return Operator.ofBool (a != 0 || b != 0)
  | depth + 1, .conjunction => do
    let a ← evaluate depth .binary
    if (← get).lexeme != .both then return a
    advance
    let b ← idlyIf (a == 0) (evaluate depth .conjunction)
    return Operator.ofBool (a != 0 && b != 0)
  | depth + 1, .binary => do
    let primary := evaluate depth .primary
    operators primary ((← get).whole.length + 1) 8 (← primary)
  | depth + 1, .primary => do
    match (← get).lexeme with
    | .opening =>
      advance
      let n ← evaluate depth .assignment
      if (← get).lexeme != .closing then fail "expecting ')'"
      advance
      return n
    | .number n =>
      advance
      return n
    | .variable name =>
      advance
      lookup name
    | .operator .add =>
      advance
      evaluate depth .primary
    | .operator .subtract =>
      advance
      return -(← evaluate depth .primary)
    | .negation =>
      advance
      return Operator.ofBool ((← evaluate depth .primary) == 0)
    | .complement =>
      advance
      return ~~~(← evaluate depth .primary)
    | _ => fail "expecting primary"

/-- The value of an expression and the variables that it sets, the first one first; or a complaint,
also with the variables that were set before it. -/
def run (value : Octets → Option Octets) (whole : Octets) :
    Except Octets Int64 × List (Octets × Octets) :=
  let work : Work Int64 := do
    advance
    let n ← evaluate (8 * whole.length + 8) .assignment
    if (← get).lexeme != .finish then fail "expecting EOF"
    return n
  let (result, s) := work.run { whole, lexeme := .finish, rest := whole, value }
  (result, s.changes.reverse)

end Interpolation.Shell.Arithmetic
