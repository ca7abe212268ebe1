import Interpolation.Shell.Regex.Reading

/-!
# Regular expressions in the manner of Perl

A backslash before a letter has a meaning and before another sign takes it away. What is tried first
counts, so that a match need not be the longest.
-/

namespace Interpolation.Shell.Regex

structure PerlOuter where
  close : Regex → Regex
  around : Part
  folds : Bool
  skips : Bool

structure PerlReading where
  inner : Part := {}
  outer : List PerlOuter := []
  count : Nat := 0
  names : List (Octets × Nat) := []
  folds : Bool := false
  skips : Bool := false

def PerlReading.push (s : PerlReading) (r : Regex) : PerlReading :=
  { s with inner := s.inner.push (if s.folds then folded r else r) }

def PerlReading.pushSign (s : PerlReading) (r : Regex) : PerlReading :=
  { s with inner := s.inner.pushSign r }

def PerlReading.enter (s : PerlReading) (close : Regex → Regex) : PerlReading :=
  { s with inner := {}, outer := ⟨close, s.inner, s.folds, s.skips⟩ :: s.outer }

def PerlReading.enterNumbered (s : PerlReading) : PerlReading :=
  { s.enter (group (s.count + 1)) with count := s.count + 1 }

def span (first last : Nat) : Member :=
  .range (Char.ofNat first) (Char.ofNat last)

def perlKind? (c : Char) : Option (List Member) :=
  match c with
  | 'd' => some [span 48 57]
  | 'D' => some [span 0 47, span 58 255]
  | 'w' => some [span 48 57, span 65 90, span 95 95, span 97 122]
  | 'W' => some [span 0 47, span 58 64, span 91 94, span 96 96, span 123 255]
  | 's' => some [span 9 13, span 32 32]
  | 'S' => some [span 0 8, span 14 31, span 33 255]
  | 'h' => some [span 9 9, span 32 32, span 160 160]
  | 'H' => some [span 0 8, span 10 31, span 33 159, span 161 255]
  | 'v' => some [span 10 13, span 133 133]
  | 'V' => some [span 0 9, span 14 132, span 134 255]
  | 'N' => some [span 0 9, span 11 255]
  | _ => none

def perlChar? (c : Char) (rest : Octets) : Option (Char × Octets) :=
  match c with
  | 't' => some ('\t', rest)
  | 'n' => some ('\n', rest)
  | 'r' => some ('\r', rest)
  | 'f' => some (Char.ofNat 12, rest)
  | 'e' => some (Char.ofNat 27, rest)
  | 'a' => some (Char.ofNat 7, rest)
  | 'x' =>
    match rest with
    | '\x7b' :: digits =>
      let (_, n, rest) := Octets.takeDigits 16 digits
      some (Char.ofNat n, rest.drop 1)
    | _ =>
      let (length, n, _) := Octets.takeDigits 16 (rest.take 2)
      some (Char.ofNat n, rest.drop length)
  | '0' =>
    let (length, n, _) := Octets.takeDigits 8 (rest.take 2)
    some (Char.ofNat n, rest.drop length)
  | c => if c.isAlphanum then none else some (c, rest)

def perlMembers : Nat → Bool → Octets → Except String (List Member × Octets)
  | 0, _, _ | _, _, [] => .error "missing terminating ] for character class"
  | n + 1, isFirst, o =>
    match Pattern.kind? o, o with
    | some (member, rest), _ => more n [member] rest
    | none, ']' :: rest => if isFirst then ranged n ']' rest else .ok ([], rest)
    | none, '\\' :: c :: rest =>
      match perlKind? c, c with
      | some members, _ => more n members rest
      | none, 'b' => ranged n (Char.ofNat 8) rest
      | none, c =>
        match perlChar? c rest with
        | some (c, rest) => ranged n c rest
        | none => .error "unrecognized character follows \\"
    | none, c :: rest => ranged n c rest
    | none, [] => .error "missing terminating ] for character class"
where
  more (n : Nat) (found : List Member) (rest : Octets) :
      Except String (List Member × Octets) := do
    let (members, rest) ← perlMembers n false rest
    return (found ++ members, rest)
  ranged (n : Nat) (c : Char) (rest : Octets) : Except String (List Member × Octets) :=
    match rest with
    | '-' :: ']' :: _ => more n [.range c c] rest
    | '-' :: d :: behind =>
      let last := match d, behind with
        | '\\', d :: behind => perlChar? d behind
        | d, behind => some (d, behind)
      match last with
      | none => more n [.range c c, .range '-' '-'] (d :: behind)
      | some (d, behind) =>
        if d.toNat < c.toNat then .error "range out of order in character class"
        else more n [.range c d] behind
    | _ => more n [.range c c] rest

def PerlReading.repeat (s : PerlReading) (least : Nat) (most : Option Nat) (rest : Octets) :
    Except String (PerlReading × Octets) :=
  match s.inner.last with
  | none => .error "quantifier does not follow a repeatable item"
  | some r =>
    let fixed (r : Regex) : PerlReading :=
      { s with inner := { s.inner with front := both s.inner.front r, last := none } }
    match rest with
    | '?' :: rest => .ok (fixed (repeated r least most true), rest)
    | '+' :: rest => .ok (fixed (committed (repeated r least most false)), rest)
    | rest => .ok (fixed (repeated r least most false), rest)

def perlBounds? (o : Octets) : Option (Nat × Option Nat × Octets) :=
  let (count, least, rest) := Octets.takeDigits 10 o
  if count = 0 then none
  else
    match rest with
    | '}' :: rest => some (least, some least, rest)
    | ',' :: '}' :: rest => some (least, none, rest)
    | ',' :: rest =>
      let (count, most, rest) := Octets.takeDigits 10 rest
      match rest with
      | '}' :: rest => if count = 0 then none else some (least, some most, rest)
      | _ => none
    | _ => none

def readPerlGroup (s : PerlReading) (o : Octets) : Except String (PerlReading × Octets) :=
  let named (last : Char) (rest : Octets) : Except String (PerlReading × Octets) :=
    match Text.cutFirst last rest with
    | some (name, rest) =>
      let s := s.enterNumbered
      .ok ({ s with names := (name, s.count) :: s.names }, rest)
    | none => .error "syntax error in subpattern name (missing terminator?)"
  match o with
  | ':' :: rest => .ok (s.enter id, rest)
  | '=' :: rest => .ok (s.enter (look true false), rest)
  | '!' :: rest => .ok (s.enter (look true true), rest)
  | '<' :: '=' :: rest => .ok (s.enter (look false false), rest)
  | '<' :: '!' :: rest => .ok (s.enter (look false true), rest)
  | '>' :: rest => .ok (s.enter committed, rest)
  | '|' :: rest => .ok (s.enter id, rest)
  | '#' :: rest => .ok (s, (rest.dropWhile (· != ')')).drop 1)
  | 'P' :: '<' :: rest | '<' :: rest => named '>' rest
  | '\'' :: rest => named '\'' rest
  | 'P' :: '=' :: rest =>
    match Text.cutFirst ')' rest with
    | some (name, rest) =>
      match s.names.lookup name with
      | some n => .ok (s.push (again n), rest)
      | none => .error "reference to non-existent subpattern"
    | none => .error "missing closing parenthesis"
  | rest =>
    let flags := rest.takeWhile fun c => c != ')' && c != ':'
    let (on, off) := match Text.cutFirst '-' flags with
      | some (on, off) => (on, off)
      | none => (flags, [])
    if flags.all fun c => "imsxnJU-".toList.contains c then
      let change (s : PerlReading) : PerlReading :=
        { s with
          folds := (s.folds || on.contains 'i') && !off.contains 'i'
          skips := (s.skips || on.contains 'x') && !off.contains 'x' }
      match rest.drop flags.length with
      | ')' :: rest => .ok (change s, rest)
      | ':' :: rest => .ok (change (s.enter id), rest)
      | _ => .error "missing closing parenthesis"
    else .error "unrecognized character after (? or (?-"

def readReference (s : PerlReading) (o : Octets) : Except String (PerlReading × Octets) :=
  let (inner, rest) : Octets × Octets := match o with
    | '\x7b' :: rest => (Text.cutFirst '}' rest).getD (rest, [])
    | '<' :: rest => (Text.cutFirst '>' rest).getD (rest, [])
    | '\'' :: rest => (Text.cutFirst '\'' rest).getD (rest, [])
    | rest =>
      let (length, _, behind) := Octets.takeDigits 10 rest
      (rest.take length, behind)
  let number : Option Nat := match inner with
    | '-' :: digits => (Octets.natural? digits).map fun n => s.count + 1 - n
    | name => (Octets.natural? name).or (s.names.lookup name)
  match number with
  | some n => .ok (s.push (again n), rest)
  | none => .error "reference to non-existent subpattern"

def readPerlSign (s : PerlReading) : Octets → Except String (PerlReading × Octets)
  | [] => .ok (s, [])
  | ['\\'] => .error "\\ at end of pattern"
  | '\\' :: c :: rest =>
    match c with
    | 'b' => .ok (s.pushSign (atWord true true), rest)
    | 'B' => .ok (s.pushSign insideWord, rest)
    | 'A' | 'G' => .ok (s.pushSign atStart, rest)
    | 'z' | 'Z' => .ok (s.pushSign atEnd, rest)
    | 'K' => .ok (s.pushSign mark, rest)
    | 'R' =>
      .ok (s.push (committed (either (ofText ['\r', '\n']) (set false [span 10 13, span 133 133]))),
        rest)
    | 'E' => .ok (s, rest)
    | 'g' | 'k' => readReference s rest
    | c =>
      match perlKind? c with
      | some members => .ok (s.push (set false members), rest)
      | none =>
        if c.isDigit && c != '0' then
          let (length, n, _) := Octets.takeDigits 10 (c :: rest)
          .ok (s.push (again n), rest.drop (length - 1))
        else
          match perlChar? c rest with
          | some (c, rest) => .ok (s.push (char c), rest)
          | none => .error "unrecognized character follows \\"
  | c :: rest =>
    if s.skips && Octets.isSpace c then .ok (s, rest)
    else
      match c with
      | '#' =>
        .ok (if s.skips then (s, (rest.dropWhile (· != '\n')).drop 1) else (s.push (char c), rest))
      | '.' => .ok (s.push (set true [.range '\n' '\n']), rest)
      | '^' => .ok (s.pushSign atStart, rest)
      | '$' => .ok (s.pushSign atEnd, rest)
      | '[' => do
        let (isInverted, inner) := match rest with
          | '^' :: inner => (true, inner)
          | inner => (false, inner)
        let (members, rest) ← perlMembers (inner.length + 1) true inner
        return (s.push (set isInverted members), rest)
      | '(' =>
        match rest with
        | '?' :: rest => readPerlGroup s rest
        | rest => .ok (s.enterNumbered, rest)
      | ')' =>
        match s.outer with
        | o :: outer =>
          let closed := o.close s.inner.whole
          .ok ({ s with inner := o.around.push closed, outer, folds := o.folds, skips := o.skips },
            rest)
        | [] => .error "unmatched closing parenthesis"
      | '|' => .ok ({ s with inner := { alternatives := some s.inner.whole } }, rest)
      | '*' => s.repeat 0 none rest
      | '+' => s.repeat 1 none rest
      | '?' => s.repeat 0 (some 1) rest
      | '\x7b' =>
        match perlBounds? rest with
        | some (least, most, rest) =>
          if most.any (· < least) then .error "numbers out of order in \x7b\x7d quantifier"
          else s.repeat least most rest
        | none => .ok (s.push (char c), rest)
      | c => .ok (s.push (char c), rest)

def unquoted : Bool → Octets → Octets
  | _, [] => []
  | false, '\\' :: 'Q' :: rest => unquoted true rest
  | false, '\\' :: c :: rest => '\\' :: c :: unquoted false rest
  | false, c :: rest => c :: unquoted false rest
  | true, '\\' :: 'E' :: rest => unquoted false rest
  | true, c :: rest =>
    if c.isAlphanum then c :: unquoted true rest else '\\' :: c :: unquoted true rest

def readPerlSigns : Nat → PerlReading → Octets → Except String PerlReading
  | 0, s, _ => .ok s
  | _, s, [] => .ok s
  | n + 1, s, o => do
    let (s, rest) ← readPerlSign s o
    readPerlSigns n s rest

/-- Read a regular expression in the manner of Perl, or say what is wrong with it. -/
def readPerl (o : Octets) : Except String Regex := do
  let o := unquoted false o
  let s ← readPerlSigns o.length {} o
  if s.outer.isEmpty then return s.inner.whole else .error "missing closing parenthesis"

end Interpolation.Shell.Regex
