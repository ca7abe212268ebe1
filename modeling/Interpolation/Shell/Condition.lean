import Interpolation.Shell.Access

/-!
# Conditions

A condition asks about files, compares texts and numbers, and joins other conditions. Its words are
read from left to right; a word that looks like an operator is one only where it can be.
-/

namespace Interpolation.Shell.Condition

inductive Sign where
  | finish
  | operand
  | unary
  | binary
  | negation
  | both
  | either
  | opening
  | closing
  deriving DecidableEq, Repr

def binaries : List String :=
  ["=", "!=", "<", ">", "-eq", "-ne", "-gt", "-ge", "-lt", "-le", "-nt", "-ot", "-ef"]

def unaries : List String :=
  ["-r", "-w", "-x", "-e", "-f", "-d", "-c", "-b", "-p", "-u", "-g", "-k", "-s", "-t", "-z", "-n",
    "-h", "-O", "-G", "-L", "-S"]

def operator? (w : Octets) : Option Sign :=
  if binaries.any (·.toList == w) then some .binary
  else if unaries.any (·.toList == w) then some .unary
  else
    match w with
    | ['!'] => some .negation
    | ['-', 'a'] => some .both
    | ['-', 'o'] => some .either
    | ['('] => some .opening
    | [')'] => some .closing
    | _ => none

def sign : List Octets → Sign
  | [] => .finish
  | w :: rest =>
    let isOperand : Bool := match rest with
      | [] => true
      | [_] => false
      | next :: _ => operator? next == some .binary
    match operator? w with
    | some .unary => if isOperand then .operand else .unary
    | some .opening => if rest.isEmpty then .operand else .opening
    | some s => s
    | none => .operand

def fail {α : Type} (word : Octets) (complaint : String) : Exec α :=
  Exec.fail (if word.isEmpty then complaint.toList else word ++ ": ".toList ++ complaint.toList)

def number (w : Octets) : Exec Int := do
  match Octets.integer? w with
  | some n =>
    if Octets.least ≤ n && n ≤ Octets.greatest then return n
    else Exec.fail ("Illegal number: ".toList ++ w)
  | none => Exec.fail ("Illegal number: ".toList ++ w)

def ofNode (operator : Char) (node : Node) (size : Nat) : Bool :=
  match operator, node.body with
  | 'f', .file _ => true
  | 'd', .folder .. => true
  | 'c', .device _ => true
  | 'p', .queue _ => true
  | 'h', .link _ | 'L', .link _ => true
  | 's', .link _ => true
  | 's', _ => size != 0
  | 'x', .folder .. => true
  | 'x', _ => node.mode &&& 0o111 != 0
  | 'u', _ => node.mode &&& 0o4000 != 0
  | 'g', _ => node.mode &&& 0o2000 != 0
  | 'k', _ => node.mode &&& 0o1000 != 0
  | c, _ => "erwOG".toList.contains c

def unary (operator operand : Octets) : Exec Bool := do
  match operator with
  | ['-', 'z'] => return operand.isEmpty
  | ['-', 'n'] => return !operand.isEmpty
  | ['-', 't'] =>
    let _ ← number operand
    return false
  | ['-', c] =>
    match ← Exec.look (c != 'h' && c != 'L') operand with
    | .error _ => return false
    | .ok seen =>
      let size ← match seen with
        | .node n => pure ((← Exec.observe World.volume).size n)
        | .stream _ => pure 0
      return ofNode c (← Exec.nodeOf seen) size
  | _ => return false

def changed? (path : Octets) : Exec (Option Int) := do
  match ← Exec.node? true path with
  | .ok node => return some node.modified
  | .error _ => return none

def binary (left operator right : Octets) : Exec Bool := do
  let compare (f : Int → Int → Bool) : Exec Bool := do
    return f (← number left) (← number right)
  match String.ofList operator with
  | "=" => return left == right
  | "!=" => return left != right
  | "<" => return Octets.before left right
  | ">" => return Octets.before right left
  | "-eq" => compare fun a b => a == b
  | "-ne" => compare fun a b => a != b
  | "-gt" => compare fun a b => b < a
  | "-ge" => compare fun a b => b ≤ a
  | "-lt" => compare fun a b => a < b
  | "-le" => compare fun a b => a ≤ b
  | "-nt" =>
    match ← changed? left, ← changed? right with
    | some a, some b => return b < a
    | a, none => return a.isSome
    | none, _ => return false
  | "-ot" =>
    match ← changed? left, ← changed? right with
    | some a, some b => return a < b
    | none, b => return b.isSome
    | some _, none => return false
  | "-ef" =>
    match ← Exec.find? true left, ← Exec.find? true right with
    | .ok a, .ok b => return a == b
    | _, _ => return false
  | _ => return false

inductive Rank where
  | either
  | both
  | negation
  | primary

def evaluate : Nat → Rank → Sign → List Octets → Exec (Bool × List Octets)
  | 0, _, _, words => return (false, words)
  | n + 1, .either, s, words => do
    let (a, words) ← evaluate n .both s words
    if sign words.tail != .either then return (a, words)
    let (b, words) ← evaluate n .either (sign words.tail.tail) words.tail.tail
    return (a || b, words)
  | n + 1, .both, s, words => do
    let (a, words) ← evaluate n .negation s words
    if sign words.tail != .both then return (a, words)
    let (b, words) ← evaluate n .both (sign words.tail.tail) words.tail.tail
    return (a && b, words)
  | n + 1, .negation, s, words => do
    if s != .negation then evaluate n .primary s words
    else
      let next := sign words.tail
      let (a, words) ← evaluate n .negation next (if next == .finish then words else words.tail)
      return (!a, words)
  | n + 1, .primary, s, words => do
    let word := words.head?.getD []
    match s with
    | .finish => return (false, words)
    | .opening =>
      let next := sign words.tail
      if next == .closing then return (false, words.tail)
      let (a, words) ← evaluate n .either next words.tail
      if sign words.tail != .closing then fail [] "closing paren expected"
      return (a, words.tail)
    | .unary =>
      match words.tail with
      | [] => fail word "argument expected"
      | operand :: rest => return (← unary word operand, operand :: rest)
    | _ =>
      if sign words.tail == .binary then
        let operator := words.tail.head?.getD []
        match words.tail.tail with
        | [] => fail operator "argument expected"
        | right :: rest => return (← binary word operator right, right :: rest)
      else return (!word.isEmpty, words)

/-- Work out a condition. With few words, a leading negation and parentheses around all come
first. -/
def holds (words : List Octets) : Exec Bool := do
  let whole (words : List Octets) (s : Sign) : Exec Bool := do
    let (answer, words) ← evaluate (4 * words.length + 8) .either s words
    match words with
    | word :: _ :: _ => fail word "unexpected operator"
    | _ => return answer
  let enclosed (words : List Octets) : Option (List Octets) :=
    if words.head? == some ['('] && words.getLast? == some [')'] then some words.tail.dropLast
    else none
  let plain (words : List Octets) : Exec Bool := do
    if words.isEmpty then return false
    match words.length, words with
    | 3, [_, operator, _] =>
      if operator? operator == some .binary then whole words .operand
      else
        let inner := (enclosed words).getD words
        whole inner (sign inner)
    | 4, _ =>
      let inner := (enclosed words).getD words
      whole inner (sign inner)
    | _, _ => whole words (sign words)
  match words with
  | ['!'] :: [a, b] =>
    if operator? a == some .binary then plain words else return !(← plain [a, b])
  | ['!'] :: [a, b, c] => return !(← plain [a, b, c])
  | _ => plain words

end Interpolation.Shell.Condition
