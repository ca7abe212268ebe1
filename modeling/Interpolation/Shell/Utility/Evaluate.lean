import Interpolation.Shell.Regex.Reading
import Interpolation.Shell.Utility.Options

/-!
# Evaluating expressions

The arguments are an expression of numbers and texts. The operators bind in levels: those of the
last level bind the closest.
-/

namespace Interpolation.Shell.Utility

structure Expression where
  rest : List Octets
  before : Octets := []

abbrev Evaluate := StateT Expression (Except Octets)

namespace Evaluate

def malformed {α : Type} (complaint : String) (argument : Octets) : Evaluate α :=
  throw ("syntax error: ".toList ++ complaint.toList ++ quote argument)

def next : Evaluate Octets := do
  let e ← get
  match e.rest with
  | w :: rest =>
    set { rest, before := w : Expression }
    return w
  | [] => malformed "missing argument after " e.before

def operator? (operators : List String) : Evaluate (Option String) := do
  let e ← get
  match e.rest with
  | w :: rest =>
    match operators.find? fun o => o.toList == w with
    | some o =>
      set { rest, before := w : Expression }
      return some o
    | none => return none
  | [] => return none

def integer? : Octets → Option Int
  | '-' :: digits => (Octets.natural? digits).map fun n => -(n : Int)
  | digits => (Octets.natural? digits).map Int.ofNat

def isNothing (v : Octets) : Bool :=
  v.isEmpty || integer? v == some 0

def truth (b : Bool) : Octets :=
  if b then ['1'] else ['0']

def arithmetic (evaluates : Bool) (operator : String) (a b : Octets) : Evaluate Octets := do
  if !evaluates then return ['0']
  match integer? a, integer? b with
  | some x, some y =>
    if (operator == "/" || operator == "%") && y = 0 then throw "division by zero".toList
    return Text.ofInt (match operator with
      | "+" => x + y
      | "-" => x - y
      | "*" => x * y
      | "/" => x.tdiv y
      | _ => x.tmod y)
  | _, _ => throw "non-integer argument".toList

def comparison (operator : String) (a b : Octets) : Octets :=
  let order := match integer? a, integer? b with
    | some x, some y => compare x y
    | _, _ => if a == b then .eq else if Octets.before a b then .lt else .gt
  truth (match operator with
    | "<" => order == .lt
    | "<=" => order != .gt
    | "=" | "==" => order == .eq
    | "!=" => order != .eq
    | ">=" => order != .lt
    | _ => order == .gt)

def matched (evaluates : Bool) (t pattern : Octets) : Evaluate Octets := do
  if !evaluates then return ['0']
  match Regex.read {} pattern with
  | .error complaint => throw complaint.toList
  | .ok r =>
    match Regex.longestAt false r (.between [] t) with
    | some m =>
      return if r.groupCount != 0 then (m.place.groups.lookup 1).getD []
        else Text.ofNat m.text.length
    | none => return if r.groupCount != 0 then [] else ['0']

def part (t place length : Octets) : Octets :=
  match integer? place, integer? length with
  | some p, some n => if 0 < p && 0 < n then (t.drop (p.toNat - 1)).take n.toNat else []
  | _, _ => []

def levels : List (List String) :=
  [["|"], ["&"], ["<", "<=", "=", "==", "!=", ">=", ">"], ["+", "-"], ["*", "/", "%"], [":"]]

def apply (evaluates : Bool) (operator : String) (a b : Octets) : Evaluate Octets := do
  match operator with
  | "|" => return if !isNothing a then a else if isNothing b then ['0'] else b
  | "&" => return if isNothing a || isNothing b then ['0'] else a
  | ":" => matched evaluates a b
  | "+" | "-" | "*" | "/" | "%" => arithmetic evaluates operator a b
  | _ => return comparison operator a b

def goesOn (operator : String) (a : Octets) : Bool :=
  match operator with
  | "|" => isNothing a
  | "&" => !isNothing a
  | _ => true

mutual

def operand : Nat → Bool → Evaluate Octets
  | 0, _ => malformed "missing argument after " []
  | n + 1, evaluates => do
    let w ← next
    match String.ofList w with
    | "+" => next
    | "length" => return Text.ofNat (← operand n evaluates).length
    | "match" => do
      let t ← operand n evaluates
      matched evaluates t (← operand n evaluates)
    | "index" => do
      let t ← operand n evaluates
      let set ← operand n evaluates
      return Text.ofNat (((t.findIdx? set.contains).map (· + 1)).getD 0)
    | "substr" => do
      let t ← operand n evaluates
      let place ← operand n evaluates
      return part t place (← operand n evaluates)
    | "(" => do
      let v ← level n evaluates levels
      let e ← get
      match e.rest with
      | [')'] :: rest => do
        set { rest, before := [')'] : Expression }
        return v
      | other :: _ => malformed "expecting ')' instead of " other
      | [] => malformed "expecting ')' after " e.before
    | ")" => throw "syntax error: unexpected ')'".toList
    | _ => return w

def level : Nat → Bool → List (List String) → Evaluate Octets
  | 0, _, _ => malformed "missing argument after " []
  | n + 1, evaluates, [] => operand n evaluates
  | n + 1, evaluates, operators :: closer => do
    let first ← level n evaluates closer
    chain n evaluates operators closer first

def chain : Nat → Bool → List String → List (List String) → Octets → Evaluate Octets
  | 0, _, _, _, value => return value
  | n + 1, evaluates, operators, closer, value => do
    match ← operator? operators with
    | none => return value
    | some o => do
      let next ← level n (evaluates && goesOn o value) closer
      chain n evaluates operators closer (← apply evaluates o value next)

end

def whole (arguments : List Octets) : Except Octets Octets := do
  let (v, e) ← (level (20 * arguments.length + 20) true levels).run { rest := arguments }
  match e.rest with
  | [] => return v
  | w :: _ => .error ("syntax error: unexpected argument ".toList ++ quote w)

end Evaluate

/-- Print the value of an expression. -/
def expr : Utility := fun _ arguments => do
  let arguments := if arguments.head? == some ['-', '-'] then arguments.tail else arguments
  if arguments.isEmpty then misuse { name := "expr", wrong := 2 } "missing operand".toList
  else
    match Evaluate.whole arguments with
    | .error complaint =>
      complain "expr" complaint
      return 2
    | .ok v =>
      Exec.printLine v
      return status (!Evaluate.isNothing v)

end Interpolation.Shell.Utility
