import Interpolation.Log.Pattern.Mode

/-!
# Escapes and sets of characters

An item of a pattern that stands for one character: a character itself, one behind a backslash, or a
set of characters in brackets. Sets hold characters, ranges, named sets and other sets, and two sets
can be joined by an operation.
-/

namespace Interpolation.Log.Pattern

/-- What stands behind a backslash, or alone. -/
inductive Item where
  | character (c : Char) (isByte : Bool)
  | named (isNegated : Bool)
  | property
  | edge
  | wordEdge
  deriving DecidableEq, Repr

def hexDigit? (c : Char) : Option Nat :=
  if c.isDigit then some (c.toNat - '0'.toNat)
  else if 'a' ≤ c && c ≤ 'f' then some (c.toNat - 'a'.toNat + 10)
  else if 'A' ≤ c && c ≤ 'F' then some (c.toNat - 'A'.toNat + 10)
  else none

def hexadecimal? (m : Mode) (n : Nat) : Nat → Text → Option (Nat × Text)
  | 0, t => some (n, t)
  | digits + 1, t =>
    match m.skip t with
    | c :: t => (hexDigit? c).bind fun d => hexadecimal? m (16 * n + d) digits t
    | [] => none

def numbered? (m : Mode) (digits : Nat) (t : Text) : Option (Item × Text) :=
  match hexadecimal? m 0 digits t with
  | some (n, t) => if n.isValidChar then some (.character (Char.ofNat n) (digits == 2), t) else none
  | none => none

def escape? (m : Mode) : Text → Option (Item × Text)
  | [] => none
  | c :: t =>
    if c = 'x' then numbered? m 2 t
    else if c = 'u' then numbered? m 4 t
    else if c = 'U' then numbered? m 8 t
    else if c = 'p' || c = 'P' then
      match m.skip t with
      | p :: t => if "clmnpszCLMNPSZ".toList.contains p then some (.property, t) else none
      | [] => none
    else if "dsw".toList.contains c then some (.named false, t)
    else if "DSW".toList.contains c then some (.named true, t)
    else if "aftnrv".toList.contains c then some (.character c false, t)
    else if c = 'A' || c = 'z' then some (.edge, t)
    else if "bB<>".toList.contains c then some (.wordEdge, t)
    else if c.toNat < 0x80 && !c.isAlphanum then some (.character c false, t)
    else none

/-- Whether an item may stand in a mode. Among bytes only those of ASCII stand for characters, and
only among bytes the edges of words are known. -/
def Item.isAllowed (m : Mode) : Item → Bool
  | .character c isByte => m.isUnicode || !isByte || c.toNat < 0x80
  | .named isNegated => m.isUnicode || !isNegated
  | .property => m.isUnicode
  | .edge => true
  | .wordEdge => !m.isUnicode

def Item.isMember (m : Mode) : Item → Bool
  | .character c _ => m.isUnicode || c.toNat < 0x80
  | .edge | .wordEdge => false
  | item => item.isAllowed m

/-- How many parts a whole has, and how deep the deepest of them is nested. -/
structure Parts where
  count : Nat := 0
  deepest : Nat := 0
  deriving DecidableEq, Repr

namespace Parts

def add (p : Parts) (depth : Nat) : Parts :=
  ⟨p.count + 1, max p.deepest depth⟩

/-- A part alone is as deep as itself; several are one level deeper. -/
def depth (p : Parts) : Nat :=
  if p.count ≤ 1 then p.deepest else p.deepest + 1

def depthAfter (p : Parts) : Option Nat → Nat
  | none => p.depth
  | some left => max left p.depth + 1

end Parts

def setNames : List String :=
  ["alnum", "alpha", "ascii", "blank", "cntrl", "digit", "graph", "lower", "print", "punct",
    "space", "upper", "word", "xdigit"]

def namedSet? : Text → Option (Bool × Text)
  | ':' :: t =>
    let (isNegated, t) := match t with
      | '^' :: t => (true, t)
      | t => (false, t)
    let name := t.takeWhile (· != ':')
    match t.drop name.length with
    | ':' :: ']' :: rest =>
      if setNames.any fun n => n.toList == name then some (isNegated, rest) else none
    | _ => none
  | _ => none

def hyphens (m : Mode) (p : Parts) : Nat → Text → Parts × Text
  | 0, t => (p, t)
  | fuel + 1, t =>
    match t with
    | '-' :: t => hyphens m (p.add 0) fuel (m.skip t)
    | t => (p, t)

/-- Begin a set behind its bracket: a caret negates it, which no set of bytes allows; then hyphens,
or else a closing bracket, stand for themselves. -/
def beginSet? (m : Mode) (t : Text) : Option (Parts × Text) :=
  let (isNegated, t) := match m.skip t with
    | '^' :: t => (true, m.skip t)
    | t => (false, t)
  if isNegated && !m.isUnicode then none
  else
    match hyphens m {} t.length t with
    | (⟨0, _⟩, ']' :: t) => some (({} : Parts).add 0, t)
    | begun => some begun

def member? (m : Mode) : Text → Option (Item × Text)
  | [] => none
  | '\\' :: t => escape? m t
  | c :: t => some (.character c false, t)

def isRange : Item → Item → Bool
  | .character first _, .character last _ => first.toNat ≤ last.toNat
  | _, _ => false

def range? (m : Mode) (t : Text) : Option Text := do
  let (first, rest) ← member? m t
  if !first.isMember m then none
  match m.skip rest with
  | [] => none
  | '-' :: rest =>
    if m.next? rest == some ']' || m.next? rest == some '-' then some ('-' :: rest)
    else do
      let (last, rest) ← member? m (m.skip rest)
      if last.isMember m && isRange first last then some rest else none
  | rest => some rest

/-- Read a set up to its closing bracket, behind the left side of an operation and the items that
have been read. Reports its depth. -/
def set? (m : Mode) : Nat → Option Nat → Parts → Text → Option (Nat × Text)
  | 0, _, _, _ => none
  | fuel + 1, left, parts, t =>
    match m.skip t with
    | '[' :: t =>
      match namedSet? t with
      | some (isNegated, t) =>
        if isNegated && !m.isUnicode then none else set? m fuel left (parts.add 0) t
      | none =>
        match beginSet? m t with
        | none => none
        | some (inner, t) =>
          match set? m fuel none inner t with
          | none => none
          | some (depth, t) => set? m fuel left (parts.add (depth + 1)) t
    | ']' :: t => some (parts.depthAfter left, t)
    | '&' :: '&' :: t | '-' :: '-' :: t | '~' :: '~' :: t =>
      set? m fuel (some (parts.depthAfter left)) {} t
    | t =>
      match range? m t with
      | none => none
      | some t => set? m fuel left (parts.add 0) t

def wholeSet? (m : Mode) (t : Text) : Option (Nat × Text) :=
  (beginSet? m t).bind fun (parts, t) =>
    (set? m (t.length + 1) none parts t).map fun (depth, t) => (depth + 1, t)

end Interpolation.Log.Pattern
