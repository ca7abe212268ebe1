import Interpolation.Shell.Regex

/-!
# Reading regular expressions

In the basic form the signs for groups, alternatives and bounds have a backslash before them, in the
extended form they have none. A third form is that of an editor, where only groups and alternatives
have one and there are no bounds.
-/

namespace Interpolation.Shell.Regex

/-- How regular expressions are written. -/
inductive Form where
  | basic
  | extended
  | editor
  deriving DecidableEq

structure Manner where
  form : Form := .basic
  isStrict : Bool := false
  isByLine : Bool := false

/-- A part that is being read: the alternatives before, and the sequence with its last piece apart
if that may be repeated. -/
structure Part where
  alternatives : Option Regex := none
  front : Regex := nothing
  last : Option Regex := none

def Part.sequence (p : Part) : Regex :=
  match p.last with
  | some r => both p.front r
  | none => p.front

def Part.whole (p : Part) : Regex :=
  match p.alternatives with
  | some first => either first p.sequence
  | none => p.sequence

def Part.push (p : Part) (r : Regex) : Part :=
  { p with front := p.sequence, last := some r }

def Part.pushSign (p : Part) (r : Regex) : Part :=
  { p with front := both p.sequence r, last := none }

/-- What has been read: the innermost part, the parts around it with the numbers of their groups,
how many groups have begun, and which have ended. -/
structure Reading where
  inner : Part := {}
  outer : List (Nat × Part) := []
  count : Nat := 0
  ended : List Nat := []
  isFirst : Bool := true
  isRepeated : Bool := false

def Reading.push (s : Reading) (r : Regex) : Reading :=
  { s with inner := s.inner.push r, isFirst := false, isRepeated := false }

def Reading.pushSign (s : Reading) (r : Regex) : Reading :=
  { s with inner := s.inner.pushSign r, isFirst := false, isRepeated := false }

def Reading.divide (s : Reading) : Reading :=
  { s with inner := { alternatives := some s.inner.whole }, isFirst := true, isRepeated := false }

def Reading.enter (s : Reading) : Reading :=
  { s with
    inner := {}
    outer := (s.count + 1, s.inner) :: s.outer
    count := s.count + 1
    isFirst := true
    isRepeated := false }

def Reading.leave? (s : Reading) : Option Reading :=
  match s.outer with
  | (number, before) :: outer =>
    some
      { s with
        inner := before.push (group number s.inner.whole)
        outer
        ended := number :: s.ended
        isFirst := false
        isRepeated := false }
  | [] => none

def Reading.repeat (s : Reading) (r : Regex) (least : Nat) (most : Option Nat) : Reading :=
  let r := if most = some 0 then nothing else repeated r least most false
  { s with inner := { s.inner with last := some r }, isRepeated := true }

/-! ### Sets -/

def openBracket : String :=
  "Unmatched [, [^, [:, [., or [="

def named? (o : Octets) : Except String (Option (Char × Octets)) :=
  match o with
  | '[' :: sign :: rest =>
    if sign == '.' || sign == '=' then
      match Text.cutFirst sign rest with
      | some ([c], ']' :: rest) => .ok (some (c, rest))
      | some (_, ']' :: _) => .error "Invalid collation character"
      | _ => .error openBracket
    else .ok none
  | _ => .ok none

def setChar (o : Octets) : Except String (Char × Octets) := do
  match ← named? o, o with
  | some found, _ => return found
  | none, c :: rest => return (c, rest)
  | none, [] => .error openBracket

def members (hasKinds : Bool) : Nat → Octets → Except String (List Member × Octets)
  | 0, _ => .error openBracket
  | n + 1, o => do
    let (member, rest) ←
      match if hasKinds then Pattern.kind? o else none with
      | some found => .ok found
      | none =>
        match o with
        | '[' :: ':' :: _ => if hasKinds then .error (wrongKind o) else range o
        | _ => range o
    match rest with
    | ']' :: rest => return ([member], rest)
    | _ =>
      let (members, rest) ← members hasKinds n rest
      return (member :: members, rest)
where
  wrongKind (o : Octets) : String :=
    match Text.cutFirst ':' (o.drop 2) with
    | some (_, ']' :: _) => "Invalid character class name"
    | _ => openBracket
  range (o : Octets) : Except String (Member × Octets) := do
    let (c, rest) ← setChar o
    match rest with
    | '-' :: d :: behind =>
      if d == ']' then return (.range c c, rest)
      else
        let (d, behind) ← setChar (d :: behind)
        if d.toNat < c.toNat then .error "Invalid range end" else return (.range c d, behind)
    | _ => return (.range c c, rest)

def setAt (m : Manner) (o : Octets) : Except String (Regex × Octets) := do
  let (isInverted, inner) := match o with
    | '^' :: inner => (true, inner)
    | inner => (false, inner)
  if inner.isEmpty then .error "Invalid regular expression"
  let (members, rest) ← members (m.form != .editor) (inner.length + 1) inner
  let members := if isInverted && m.isByLine then .range '\n' '\n' :: members else members
  return (.set isInverted members, rest)

/-! ### Bounds -/

inductive Bounds where
  | between (least : Nat) (most : Option Nat) (rest : Octets)
  | unclosed
  | wrong
  | reversed
  | tooBig

def boundAt (isExtended : Bool) : Octets → Option (Octets × Bool × Octets)
  | [] => none
  | ',' :: rest => some ([], true, rest)
  | '}' :: rest =>
    if isExtended then some ([], false, rest)
    else (boundAt isExtended rest).map fun (o, more) => ('}' :: o, more)
  | '\\' :: '}' :: rest =>
    if isExtended then (boundAt isExtended rest).map fun (o, more) => ('\\' :: o, more)
    else some ([], false, rest)
  | c :: rest => (boundAt isExtended rest).map fun (o, more) => (c :: o, more)

def boundsAt (isExtended : Bool) (o : Octets) : Bounds :=
  match boundAt isExtended o with
  | none => .unclosed
  | some (least, hasComma, rest) =>
    let second := if hasComma then boundAt isExtended rest else some (least, false, rest)
    match second with
    | none => .unclosed
    | some (most, hasMore, rest) =>
      let isNumber (o : Octets) : Bool := o.all Char.isDigit
      if !isNumber least || !isNumber most || hasMore || (least.isEmpty && !hasComma) then .wrong
      else
        let lower := (Octets.natural? least).getD 0
        let upper := Octets.natural? most
        if upper.any (· < lower) then .reversed
        else if 32767 < max lower (upper.getD 0) then .tooBig
        else .between lower upper rest

/-! ### Reading -/

def letter? (c : Char) : Option (Regex ⊕ Regex) :=
  let word : List Member := [.kind "alnum", .range '_' '_']
  match c with
  | 'w' => some (.inl (set false word))
  | 'W' => some (.inl (set true word))
  | 's' => some (.inl (set false [.kind "space"]))
  | 'S' => some (.inl (set true [.kind "space"]))
  | 'b' => some (.inr (atWord true true))
  | 'B' => some (.inr insideWord)
  | '<' => some (.inr (atWord true false))
  | '>' => some (.inr (atWord false true))
  | '\'' => some (.inr atEnd)
  | c => if c.toNat = 96 then some (.inr atStart) else none

def repeatSign (m : Manner) (s : Reading) (c : Char) (least : Nat) (most : Option Nat)
    (rest : Octets) : Except String (Reading × Octets) :=
  let isAgain := m.isStrict && m.form == .basic && s.isRepeated && (c == '*' || c == '\x7b')
  match s.inner.last with
  | some r =>
    if isAgain then .error "Invalid preceding regular expression"
    else .ok (s.repeat r least most, rest)
  | none =>
    match m.form, m.isStrict with
    | .extended, true => .error "Invalid preceding regular expression"
    | .extended, false => .ok ({ s with isFirst := false }, rest)
    | _, _ => .ok (s.push (char c), rest)

def repeatBounds (m : Manner) (s : Reading) (rest : Octets) : Except String (Reading × Octets) :=
  let isExtended := m.form == .extended
  let isPlain := isExtended && !m.isStrict
  let plain : Except String (Reading × Octets) := .ok (s.push (char '\x7b'), rest)
  if s.inner.last.isNone && m.isStrict then .error "Invalid preceding regular expression"
  else if s.inner.last.isNone && !isExtended then plain
  else
    match boundsAt isExtended rest with
    | .between least most rest => repeatSign m s '\x7b' least most rest
    | .unclosed => if isPlain then plain else .error "Unmatched \\\x7b"
    | .wrong => if isPlain then plain else .error "Invalid content of \\\x7b\\\x7d"
    | .reversed => .error "Invalid content of \\\x7b\\\x7d"
    | .tooBig => .error "Regular expression too big"

def readSign (m : Manner) (s : Reading) : Octets → Except String (Reading × Octets)
  | [] => .ok (s, [])
  | ['\\'] => .error "Trailing backslash"
  | '\\' :: c :: rest =>
    let isEscaped := m.form != .extended
    let leave : Except String (Reading × Octets) :=
      match s.leave? with
      | some s => .ok (s, rest)
      | none => .error "Unmatched ) or \\)"
    if isEscaped && c == '(' then .ok (s.enter, rest)
    else if isEscaped && c == ')' then leave
    else if isEscaped && c == '|' then .ok (s.divide, rest)
    else if m.form == .basic && c == '\x7b' then repeatBounds m s rest
    else if m.form == .basic && c == '+' then repeatSign m s c 1 none rest
    else if m.form == .basic && c == '?' then repeatSign m s c 0 (some 1) rest
    else if c.isDigit && c != '0' then
      let n := c.toNat - '0'.toNat
      if s.ended.contains n then .ok (s.push (again n), rest) else .error "Invalid back reference"
    else
      match letter? c with
      | some (.inl r) => .ok (s.push r, rest)
      | some (.inr r) => .ok (if m.isStrict then s.pushSign r else s.push r, rest)
      | none => .ok (s.push (char c), rest)
  | c :: rest =>
    let start := if m.isByLine then atLineStart else atStart
    let stop := if m.isByLine then atLineEnd else atEnd
    let isLast := match rest with
      | [] => true
      | '\\' :: next :: _ => m.form != .extended && (next == ')' || next == '|')
      | _ => false
    let isExtended := m.form == .extended
    match c with
    | '.' => .ok (s.push (set true (if m.isByLine then [.range '\n' '\n'] else [])), rest)
    | '[' => do
      let (r, rest) ← setAt m rest
      return (s.push r, rest)
    | '*' => repeatSign m s c 0 none rest
    | '+' => if m.form == .basic then .ok (s.push (char c), rest) else repeatSign m s c 1 none rest
    | '?' =>
      if m.form == .basic then .ok (s.push (char c), rest) else repeatSign m s c 0 (some 1) rest
    | '^' => .ok (if isExtended || s.isFirst then s.pushSign start else s.push (char c), rest)
    | '$' => .ok (if isExtended || isLast then s.pushSign stop else s.push (char c), rest)
    | '(' => .ok (if isExtended then s.enter else s.push (char c), rest)
    | ')' =>
      if !isExtended then .ok (s.push (char c), rest)
      else
        match s.leave?, m.isStrict with
        | some s, _ => .ok (s, rest)
        | none, true => .error "Unmatched ) or \\)"
        | none, false => .ok (s.push (char c), rest)
    | '|' => .ok (if isExtended then s.divide else s.push (char c), rest)
    | '\x7b' => if isExtended then repeatBounds m s rest else .ok (s.push (char c), rest)
    | c => .ok (s.push (char c), rest)

def readSigns (m : Manner) : Nat → Reading → Octets → Except String Reading
  | 0, s, _ => .ok s
  | _, s, [] => .ok s
  | n + 1, s, o => do
    let (s, rest) ← readSign m s o
    readSigns m n s rest

/-- Read a regular expression, or say what is wrong with it. -/
def read (m : Manner) (o : Octets) : Except String Regex := do
  let s ← readSigns m o.length {} o
  if s.outer.isEmpty then return s.inner.whole else .error "Unmatched ( or \\("

end Interpolation.Shell.Regex
