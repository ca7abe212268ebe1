import Interpolation.Shell.Octets

/-!
# Permissions

The permissions of a file are bits: who may read, write and run it, and three more. A change of them
is written as an octal number or as clauses, each for some users.
-/

namespace Interpolation.Shell.Permission

def every : Nat :=
  0o7777

def without (mode bits : Nat) : Nat :=
  mode &&& (every ^^^ (bits &&& every))

def letters (mode : Nat) (shift : Nat) (special : Nat) (marks : Char × Char) : Octets :=
  let has (bit : Nat) : Bool := (mode >>> shift) &&& bit != 0
  let x := if mode &&& special != 0 then if has 1 then marks.1 else marks.2
    else if has 1 then 'x' else '-'
  [if has 4 then 'r' else '-', if has 2 then 'w' else '-', x]

def text (mode : Nat) : Octets :=
  letters mode 6 0o4000 ('s', 'S') ++ letters mode 3 0o2000 ('s', 'S') ++
    letters mode 0 0o1000 ('t', 'T')

inductive Value where
  | bits (n : Nat)
  | existing (n : Nat)
  | runnable (n : Nat)
  deriving DecidableEq, Repr

/-- One change: an operator, the bits of the users that it is for, if they are named, and a value.
-/
structure Change where
  operator : Char
  affected : Option Nat
  value : Value
  mentioned : Nat
  deriving DecidableEq, Repr

def users? (c : Char) : Option Nat :=
  match c with
  | 'u' => some 0o4700
  | 'g' => some 0o2070
  | 'o' => some 0o1007
  | 'a' => some every
  | _ => none

def bits? (c : Char) : Option Nat :=
  match c with
  | 'r' => some 0o444
  | 'w' => some 0o222
  | 'x' => some 0o111
  | 's' => some 0o6000
  | 't' => some 0o1000
  | _ => none

def octal? (o : Octets) : Option Nat :=
  let (count, n, rest) := Octets.takeDigits 8 o
  if count != 0 && rest.isEmpty && n ≤ every then some n else none

def value (o : Octets) : Value × Octets :=
  match o with
  | 'u' :: rest => (.existing 0o700, rest)
  | 'g' :: rest => (.existing 0o070, rest)
  | 'o' :: rest => (.existing 0o007, rest)
  | o =>
    let run := o.takeWhile fun c => (bits? c).isSome || c == 'X'
    let n := run.foldl (fun n c => n ||| (bits? c).getD 0) 0
    (if run.contains 'X' then .runnable n else .bits n, o.drop run.length)

def actions? (affected : Option Nat) : Nat → Octets → Option (List Change)
  | _, [] => some []
  | 0, _ => none
  | fuel + 1, c :: rest =>
    if !"+-=".toList.contains c then none
    else
      let (count, n, others) := Octets.takeDigits 8 rest
      if count != 0 then
        if affected.isNone && others.isEmpty && n ≤ every then
          some [⟨c, some every, .bits n, every⟩]
        else none
      else
        let (v, rest) := value rest
        let mentioned := match c, v with
          | '=', _ => affected.getD every
          | _, .bits n | _, .runnable n => n &&& affected.getD every
          | _, .existing _ => 0
        (actions? affected fuel rest).map (⟨c, affected, v, mentioned⟩ :: ·)

def changes? (o : Octets) : Option (List Change) :=
  match octal? o with
  | some n => some [⟨'=', some every, .bits n, if 4 < o.length then every else n ||| 0o1777⟩]
  | none =>
    ((o.splitOn ',').mapM fun (clause : Octets) =>
      let who := clause.takeWhile fun c => (users? c).isSome
      let affected := if who.isEmpty then none
        else some (who.foldl (fun n c => n ||| (users? c).getD 0) 0)
      let rest := clause.drop who.length
      if rest.isEmpty then none else actions? affected rest.length rest).map List.flatten

def Change.apply (c : Change) (isFolder : Bool) (mask mode : Nat) : Nat :=
  let kept := if isFolder then without 0o6000 c.mentioned else 0
  let all := match c.value with
    | .bits n => n
    | .existing n =>
      let some? (bit : Nat) : Nat :=
        if (mode &&& n) &&& (bit * 0o111) != 0 then bit * 0o111 else 0
      some? 4 ||| some? 2 ||| some? 1
    | .runnable n => if isFolder || mode &&& 0o111 != 0 then n ||| 0o111 else n
  let now := without (all &&& (c.affected.getD (without every mask))) kept
  match c.operator with
  | '+' => mode ||| now
  | '-' => without mode now
  | _ =>
    let preserved := (match c.affected with
      | some bits => without every bits
      | none => 0) ||| kept
    (mode &&& preserved) ||| now

def apply (changes : List Change) (isFolder : Bool) (mask mode : Nat) : Nat :=
  changes.foldl (fun mode c => c.apply isFolder mask mode) mode

end Interpolation.Shell.Permission
