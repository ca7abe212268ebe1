import Interpolation.Shell.Octets

/-!
# Patterns

A pattern matches whole texts. `*` stands for any text, `?` for any character, and brackets for one
character of a set; a backslash takes the meaning of the character behind it.
-/

namespace Interpolation.Shell

/-- A member of a set of characters. -/
inductive Member where
  | range (least greatest : Char)
  | kind (name : String)
  deriving DecidableEq, Repr

/-- A piece of a pattern. -/
inductive Piece where
  | anyText
  | anyChar
  | char (c : Char)
  | set (isInverted : Bool) (members : List Member)
  deriving DecidableEq, Repr

/-- A pattern is the list of its pieces. -/
abbrev Pattern := List Piece

namespace Pattern

def ofKind (c : Char) : String → Bool
  | "alnum" => c.isAlphanum
  | "alpha" => c.isAlpha
  | "blank" => c == ' ' || c == '\t'
  | "cntrl" => c.toNat < 32 || c.toNat = 127
  | "digit" => c.isDigit
  | "graph" => 32 < c.toNat && c.toNat < 127
  | "lower" => c.isLower
  | "print" => 32 ≤ c.toNat && c.toNat < 127
  | "punct" => 32 < c.toNat && c.toNat < 127 && !c.isAlphanum
  | "space" => Octets.isSpace c
  | "upper" => c.isUpper
  | "xdigit" => (Octets.digit? 16 c).isSome
  | _ => false

def kinds : List String :=
  ["alnum", "alpha", "blank", "cntrl", "digit", "graph", "lower", "print", "punct", "space",
    "upper", "xdigit"]

def Member.holds (c : Char) : Member → Bool
  | .range least greatest => least.toNat ≤ c.toNat && c.toNat ≤ greatest.toNat
  | .kind name => ofKind c name

def kind? (o : Octets) : Option (Member × Octets) :=
  kinds.findSome? fun name =>
    (("[:" ++ name ++ ":]").toList.isPrefixOf? o).map fun rest => (.kind name, rest)

def takeChar : Octets → Option (Char × Octets)
  | '\\' :: c :: rest => some (c, rest)
  | c :: rest => some (c, rest)
  | [] => none

def member? (o : Octets) : Option (Member × Octets) :=
  match kind? o with
  | some found => some found
  | none =>
    match takeChar o with
    | none => none
    | some (c, '-' :: rest) =>
      if rest.head? == some ']' then some (.range c c, '-' :: rest)
      else (takeChar rest).map fun (d, rest) => (.range c d, rest)
    | some (c, rest) => some (.range c c, rest)

def members? : Nat → Octets → Option (List Member × Octets)
  | 0, _ => none
  | n + 1, o => do
    let (member, rest) ← member? o
    match rest with
    | ']' :: rest => some ([member], rest)
    | _ =>
      let (members, rest) ← members? n rest
      some (member :: members, rest)

def set? (o : Octets) : Option (Piece × Octets) :=
  let (isInverted, inner) := match o with
    | '!' :: inner => (true, inner)
    | inner => (false, inner)
  (members? (inner.length + 1) inner).map fun (members, rest) => (.set isInverted members, rest)

def piecesUpTo : Nat → Octets → Pattern
  | 0, _ => []
  | _ + 1, [] => []
  | n + 1, '*' :: rest => .anyText :: piecesUpTo n rest
  | n + 1, '?' :: rest => .anyChar :: piecesUpTo n rest
  | n + 1, '[' :: rest =>
    match set? rest with
    | some (piece, rest) => piece :: piecesUpTo n rest
    | none => .char '[' :: piecesUpTo n rest
  | n + 1, '\\' :: c :: rest => .char c :: piecesUpTo n rest
  | n + 1, c :: rest => .char c :: piecesUpTo n rest

def ofOctets (o : Octets) : Pattern :=
  piecesUpTo o.length o

def suffixes : Octets → List Octets
  | [] => [[]]
  | c :: rest => (c :: rest) :: suffixes rest

def prefixes : Octets → List Octets
  | [] => [[]]
  | c :: rest => [] :: (prefixes rest).map (c :: ·)

/-- Whether a pattern matches the whole of a text. -/
def isMatch : Pattern → Octets → Bool
  | [], t => t.isEmpty
  | .anyText :: rest, t => (suffixes t).any fun t => isMatch rest t
  | .anyChar :: rest, _ :: t => isMatch rest t
  | .char c :: rest, d :: t => c == d && isMatch rest t
  | .set isInverted members :: rest, c :: t =>
    members.any (Member.holds c) != isInverted && isMatch rest t
  | _ :: _, [] => false

def trimFront (p : Pattern) (longest : Bool) (t : Octets) : Octets :=
  let candidates := suffixes t
  let fits (rest : Octets) : Bool := isMatch p (t.take (t.length - rest.length))
  ((if longest then candidates.reverse else candidates).find? fits).getD t

def trimEnd (p : Pattern) (longest : Bool) (t : Octets) : Octets :=
  let candidates := prefixes t
  let fits (front : Octets) : Bool := isMatch p (t.drop front.length)
  ((if longest then candidates else candidates.reverse).find? fits).getD t

end Pattern

end Interpolation.Shell
