import Interpolation.Log.Pattern.Set
import Interpolation.Text.Numeral

/-!
# Patterns for the values of fields

A directive may ask for the value of a field by a truth value, a number or a pattern, a regular
expression. No event of a log is shown because of a value, so all that matters of a pattern is
whether it is well formed: whether a machine can be built that looks for it.
-/

namespace Interpolation.Log.Pattern

/-! ## Numbers -/

/-- Whether a text writes a number without its sign: digits with a point and an exponent, infinity,
or what is no number. -/
def isMagnitude (t : Text) : Bool :=
  let whole := t.takeWhile Char.isDigit
  let rest := t.drop whole.length
  let (decimals, rest) := match rest with
    | '.' :: rest => (rest.takeWhile Char.isDigit, rest.dropWhile Char.isDigit)
    | rest => ([], rest)
  let isExponent := match rest with
    | [] => true
    | e :: '+' :: digits | e :: '-' :: digits | e :: digits =>
      (e == 'e' || e == 'E') && (Text.digits? digits).isSome
  !(whole.isEmpty && decimals.isEmpty) && isExponent ||
    ["inf", "infinity", "nan"].any fun name => name.toList == t.map Char.toLower

/-- Whether a text writes a number behind a plus sign. Without one it is a pattern as well. -/
def isPositive : Text → Bool
  | '+' :: t => isMagnitude t
  | _ => false

/-! ## Groups -/

structure Branch where
  parts : Parts := {}
  last : Option Nat := none
  deriving DecidableEq, Repr

def Branch.push (b : Branch) (depth : Nat) : Branch :=
  ⟨b.parts.add depth, some depth⟩

/-- A group that is open: its mode, the alternatives before the last one, and the last one. -/
structure Group where
  mode : Mode := {}
  before : Parts := {}
  branch : Branch := {}
  deriving DecidableEq, Repr

def Group.depth (g : Group) : Nat :=
  (g.before.add g.branch.parts.depth).depth

def Group.push (g : Group) (depth : Nat) : Group :=
  { g with branch := g.branch.push depth }

/-- Where the reading of a pattern stands: the innermost group, those around it, and the names that
groups have. -/
structure Position where
  group : Group := {}
  outer : List Group := []
  names : List Text := []
  deriving DecidableEq, Repr

def Position.push (p : Position) (depth : Nat) : Position :=
  { p with group := p.group.push depth }

def Position.enter (p : Position) (mode : Mode) (names : List Text) : Position :=
  { group := { mode }, outer := p.group :: p.outer, names }

def deepest : Nat :=
  250

def isNameCharacter (c : Char) : Bool :=
  c == '_' || c == '.' || c == '[' || c == ']' || Letter.isAlphanumeric c

/-- Whether a text is the name of a group. A name begins with a letter. -/
def isName (t : Text) : Bool :=
  (match t with
    | c :: _ => c == '_' || isLetter c
    | [] => false) && t.all isNameCharacter

def Position.open? (p : Position) (t : Text) : Option (Position × Text) :=
  let mode := p.group.mode
  let named (t : Text) : Option (Position × Text) :=
    let name := t.takeWhile (· != '>')
    match t.drop name.length with
    | '>' :: t =>
      if isName name && !p.names.contains name then some (p.enter mode (name :: p.names), t)
      else none
    | _ => none
  match mode.skip t with
  | '?' :: '=' :: _ | '?' :: '!' :: _ | '?' :: '<' :: '=' :: _ | '?' :: '<' :: '!' :: _ => none
  | '?' :: 'P' :: '<' :: t | '?' :: '<' :: t => named t
  | '?' :: t =>
    match mode.switches? true [] t with
    | some (mode, _, ':', t) => some (p.enter mode p.names, t)
    | some (mode, _ :: _, _, t) =>
      some ({ p with group := { p.group with
        mode, branch := ⟨p.group.branch.parts.add 0, none⟩ } }, t)
    | _ => none
  | t => some (p.enter mode p.names, t)

def Position.close? (p : Position) : Option Position :=
  match p.outer with
  | group :: outer =>
    some { p with group := group.push (p.group.depth + 1), outer }
  | [] => none

def Position.repeat? (p : Position) : Option Position :=
  p.group.branch.last.map fun depth =>
    let parts := p.group.branch.parts
    let branch : Branch := ⟨⟨parts.count, max parts.deepest (depth + 1)⟩, some (depth + 1)⟩
    { p with group := { p.group with branch } }

def Position.alternate (p : Position) : Position :=
  let g := p.group
  { p with group := { mode := g.mode, before := g.before.add g.branch.parts.depth } }

def Position.step? (p : Position) (c : Char) (t : Text) : Option (Position × Text) :=
  let mode := p.group.mode
  if c = '(' then p.open? t
  else if c = ')' then p.close?.map (·, t)
  else if c = '|' then some (p.alternate, t)
  else if c = '[' then (wholeSet? mode t).map fun (depth, t) => (p.push depth, t)
  else if c = '*' || c = '+' || c = '?' then
    p.repeat?.map (·, match t with
      | '?' :: t => t
      | t => t)
  else if c = '\x7b' then none
  else if c = '\\' then
    (escape? mode t).bind fun (item, t) =>
      if item.isAllowed mode then some (p.push 0, t) else none
  else if c = '.' && !mode.isUnicode then none
  else some (p.push 0, t)

def Position.isCompleted : Nat → Position → Text → Bool
  | 0, _, _ => false
  | fuel + 1, p, t =>
    match p.group.mode.skip t with
    | [] => p.outer.isEmpty && p.group.depth ≤ deepest
    | c :: t =>
      match p.step? c t with
      | some (p, t) => p.isCompleted fuel t
      | none => false

def isWellFormed (t : Text) : Bool :=
  isPositive t || ({} : Position).isCompleted (t.length + 1) t

end Interpolation.Log.Pattern
