import Interpolation.Shell.Regex.Reading

/-!
# Scripts that edit lines

A script is a list of steps, each for the lines that it selects. It is given in pieces, which are
texts of options or files; what is wrong with a piece is told with its place there.
-/

namespace Interpolation.Shell.Utility

/-! ### Steps -/

inductive Address where
  | line (n : Nat)
  | every (first step : Nat)
  | last
  | regex (r : Option Regex) (ignoresCase : Bool)

/-- The end of a range of lines. -/
inductive RangeEnd where
  | at (a : Address)
  | after (count : Nat)
  | multiple (n : Nat)

/-- A piece of what a match is replaced with. -/
inductive Replacement where
  | text (o : Octets)
  | group (n : Nat)
  | letters (c : Char)

structure Substitution where
  regex : Option Regex := none
  replacement : List Replacement
  ignoresCase : Bool := false
  isByLine : Bool := false
  number : Option Nat := none
  replacesAll : Bool := false
  prints : Bool := false
  runs : Bool := false
  file : Option Octets := none

inductive Action where
  | substitute (s : Substitution)
  | exchange (table : List (Char × Char))
  | simple (c : Char)
  | text (kind : Char) (text : Octets)
  | quit (prints : Bool) (status : Nat)
  | list (width : Option Nat)
  | jump (condition : Char) (label : Octets)
  | label (name : Octets)
  | file (kind : Char) (name : Octets)
  | run (command : Octets)
  | opening
  | closing

/-- A step of a script. -/
structure EditStep where
  first : Option Address := none
  last : Option RangeEnd := none
  isInverted : Bool := false
  action : Action

inductive ScriptSource where
  | option (number : Nat)
  | file (name : Octets)

/-- A piece of a script. -/
structure ScriptPiece where
  source : ScriptSource
  text : Octets
  isExtended : Bool

/-- What has been read of a script: the steps in reverse, the sources and lines of the braces that
are open, whether the text of the last step goes on, and whether lines are not printed by
themselves. -/
structure Script where
  steps : List EditStep := []
  braces : List (ScriptSource × Nat) := []
  isPending : Bool := false
  isQuiet : Bool := false

structure ScriptPlace where
  left : Octets
  taken : Nat := 0
  line : Nat := 1

abbrev ReadScript := StateT ScriptPlace (Except (ScriptPlace × String))

namespace ReadScript

def fail {α : Type} (complaint : String) : ReadScript α := do
  throw (← get, complaint)

def peek : ReadScript (Option Char) := do
  return (← get).left.head?

def next : ReadScript (Option Char) := do
  let s ← get
  match s.left with
  | c :: left =>
    set { s with left, taken := s.taken + 1, line := if c == '\n' then s.line + 1 else s.line }
    return some c
  | [] => return none

def takeWhile (kind : Char → Bool) : ReadScript Octets := do
  let found := (← get).left.takeWhile kind
  for _ in found do let _ ← next
  return found

def skipBlanks : ReadScript Unit := do
  let _ ← takeWhile fun c => c == ' ' || c == '\t'

def nextBehindBlanks : ReadScript (Option Char) := do
  skipBlanks
  next

def number : ReadScript Nat := do
  return (Octets.natural? (← takeWhile Char.isDigit)).getD 0

/-! ### Texts between delimiters -/

def setText : ReadScript Octets := do
  let hat ← takeSign '^'
  let first ← takeSign ']'
  return hat ++ first ++ (← go ((← get).left.length + 1) none)
where
  takeSign (sign : Char) : ReadScript Octets := do
    if (← peek) == some sign then
      let _ ← next
      return [sign]
    else return []
  go : Nat → Option Char → ReadScript Octets
    | 0, _ => return []
    | n + 1, name => do
      match ← peek, name with
      | none, _ | some '\n', _ => return []
      | some ']', none =>
        let _ ← next
        return [']']
      | some '[', none =>
        let _ ← next
        match ← peek with
        | some sign =>
          if sign == '.' || sign == ':' || sign == '=' then
            let _ ← next
            return '[' :: sign :: (← go n (some sign))
          else return '[' :: (← go n none)
        | none => return ['[']
      | some c, some sign =>
        let _ ← next
        if c == sign && (← peek) == some ']' then
          let _ ← next
          return c :: ']' :: (← go n none)
        else return c :: (← go n name)
      | some c, none =>
        let _ ← next
        return c :: (← go n none)

def untilDelimiter (delimiter : Char) (isRegex : Bool) : Nat → ReadScript (Option Octets)
  | 0 => return none
  | n + 1 => do
    let more (front : Octets) : ReadScript (Option Octets) := do
      return (← untilDelimiter delimiter isRegex n).map (front ++ ·)
    match ← peek with
    | none | some '\n' => return none
    | some c =>
      let _ ← next
      if c == delimiter then return some []
      else if c == '\\' then
        match ← next with
        | none => return none
        | some d =>
          if d == 'n' && isRegex then more ['\n']
          else if d == '\n' || (d == delimiter && (isRegex || d != '&')) then more [d]
          else more [c, d]
      else if c == '[' && isRegex then more ('[' :: (← setText))
      else more [c]

def delimited (delimiter : Char) (isRegex : Bool) (complaint : String) : ReadScript Octets := do
  match ← untilDelimiter delimiter isRegex ((← get).left.length + 1) with
  | some o => return o
  | none => fail complaint

/-! ### Escapes -/

def numbered? (base most : Nat) (o : Octets) : Option (Char × Octets) :=
  let (length, n, _) := Octets.takeDigits base (o.take most)
  if length = 0 then none else some (Char.ofNat (n % 256), o.drop length)

def escaped? : Octets → Option (Char × Octets)
  | 'a' :: rest => some (Char.ofNat 7, rest)
  | 'f' :: rest => some (Char.ofNat 12, rest)
  | 'r' :: rest => some ('\r', rest)
  | 't' :: rest => some ('\t', rest)
  | 'v' :: rest => some (Char.ofNat 11, rest)
  | ['c'] => some ('\\', [])
  | 'c' :: '\\' :: '\\' :: rest => some (Char.ofNat 28, rest)
  | 'c' :: c :: rest => some (Char.ofNat (c.toUpper.toNat ^^^ 64), rest)
  | 'd' :: rest => numbered? 10 3 rest
  | 'o' :: rest => numbered? 8 3 rest
  | 'x' :: rest => numbered? 16 2 rest
  | _ => none

def unescape (write : Char → Octets) : Nat → Octets → Octets
  | 0, o => o
  | _, [] => []
  | n + 1, '\\' :: rest =>
    match escaped? rest, rest with
    | some (c, rest), _ => write c ++ unescape write n rest
    | none, c :: rest => '\\' :: c :: unescape write n rest
    | none, [] => ['\\']
  | n + 1, c :: rest => c :: unescape write n rest

def lineFeeds : Bool → Octets → Octets
  | _, [] => []
  | true, '\\' :: 'n' :: rest => '\n' :: lineFeeds true rest
  | true, ']' :: rest => ']' :: lineFeeds false rest
  | true, c :: rest => c :: lineFeeds true rest
  | false, '\\' :: c :: rest => '\\' :: c :: lineFeeds false rest
  | false, '[' :: '^' :: ']' :: rest => '[' :: '^' :: ']' :: lineFeeds true rest
  | false, '[' :: ']' :: rest => '[' :: ']' :: lineFeeds true rest
  | false, '[' :: rest => '[' :: lineFeeds true rest
  | false, c :: rest => c :: lineFeeds false rest

def plainText (o : Octets) : Octets :=
  go (unescape (fun c => ['\\', c]) o.length o)
where
  go : Octets → Octets
    | '\\' :: 'n' :: rest => '\n' :: go rest
    | '\\' :: c :: rest => c :: go rest
    | c :: rest => c :: go rest
    | [] => []

def replacement (o : Octets) : List Replacement :=
  let isSign (c : Char) : Bool := c == '&' || c == '\\' || c == '\n'
  go (unescape (fun c => if isSign c then ['\\', c] else [c]) o.length o)
where
  go : Octets → List Replacement
    | [] => []
    | ['\\'] => [.text ['\\']]
    | '\\' :: c :: rest =>
      (if c.isDigit then .group (c.toNat - '0'.toNat)
        else if "ULEul".toList.contains c then .letters c
        else if c == 'n' then .text ['\n']
        else .text [c]) :: go rest
    | '&' :: rest => .group 0 :: go rest
    | c :: rest => .text [c] :: go rest

def regex (isExtended hasFlags isByLine : Bool) (o : Octets) : ReadScript (Option Regex) := do
  if o.isEmpty then
    if hasFlags then fail "cannot specify modifiers on empty regexp" else return none
  let o := unescape (fun c => [c]) o.length (lineFeeds false o)
  let form : Regex.Form := if isExtended then .extended else .basic
  match Regex.read { form, isStrict := true, isByLine } o with
  | .ok r => return some r
  | .error complaint => fail complaint

/-! ### Addresses -/

inductive Point where
  | address (a : Address)
  | distance (e : RangeEnd)

def regexFlags : Nat → Bool × Bool → ReadScript (Bool × Bool)
  | 0, flags => return flags
  | n + 1, (ignoresCase, isByLine) => do
    skipBlanks
    match ← peek with
    | some 'I' =>
      let _ ← next
      regexFlags n (true, isByLine)
    | some 'M' =>
      let _ ← next
      regexFlags n (ignoresCase, true)
    | _ => return (ignoresCase, isByLine)

def point? (isExtended : Bool) (first : Option Char) : ReadScript (Option Point) := do
  match first with
  | none => return none
  | some c =>
    if c == '/' || c == '\\' then
      let delimiter ← if c == '\\' then next else pure (some c)
      let text ← match delimiter with
        | some delimiter => delimited delimiter true "unterminated address regex"
        | none => fail "unterminated address regex"
      let (ignoresCase, isByLine) ← regexFlags (← get).left.length (false, false)
      let r ← regex isExtended (ignoresCase || isByLine) isByLine text
      return some (.address (.regex r ignoresCase))
    else if c.isDigit then
      let n := (Octets.natural? (c :: (← takeWhile Char.isDigit))).getD 0
      skipBlanks
      if (← peek) == some '~' then
        let _ ← next
        skipBlanks
        let step ← number
        return some (.address (if step = 0 then .line n else .every n step))
      else return some (.address (.line n))
    else if c == '+' then
      skipBlanks
      return some (.distance (.after (← number)))
    else if c == '~' then
      skipBlanks
      return some (.distance (.multiple (← number)))
    else if c == '$' then return some (.address .last)
    else return none

/-! ### Actions -/

def finish : ReadScript Unit := do
  skipBlanks
  match ← peek with
  | some '}' | some '#' | none => return
  | some c =>
    let _ ← next
    if c != '\n' && c != ';' then fail "extra characters after command"

def fileName : ReadScript Octets := do
  skipBlanks
  let name ← takeWhile (· != '\n')
  if name.isEmpty then fail "missing filename in r/R/w/W commands"
  return name

def labelName : ReadScript Octets := do
  skipBlanks
  takeWhile fun c => !Octets.isSpace c && c != ';' && c != '}'

def textLine : Nat → ReadScript (Octets × Bool)
  | 0 => return ([], false)
  | n + 1 => do
    match ← next with
    | none | some '\n' => return (['\n'], false)
    | some '\\' =>
      match ← next with
      | none => return (['\n'], true)
      | some c =>
        let (text, isPending) ← textLine n
        return ('\\' :: c :: text, isPending)
    | some c =>
      let (text, isPending) ← textLine n
      return (c :: text, isPending)

def addedText : ReadScript (Octets × Bool) := do
  skipBlanks
  match ← peek with
  | none => fail "expected \\ after `a', `c' or `i'"
  | some '\\' =>
    let _ ← next
    let behind := (← get).left.dropWhile fun c => c == ' ' || c == '\t'
    if behind.head? == some '\n' then
      skipBlanks
      let _ ← next
    else if behind.isEmpty then return ([], true)
  | _ => pure ()
  textLine ((← get).left.length + 1)

def flags : Nat → Substitution → ReadScript Substitution
  | 0, s => return s
  | n + 1, s => do
    match ← peek with
    | none | some '}' | some '#' => return s
    | some c =>
      let _ ← next
      match c with
      | '\n' | ';' => return s
      | ' ' | '\t' | '\r' => flags n s
      | 'i' | 'I' => flags n { s with ignoresCase := true }
      | 'm' | 'M' => flags n { s with isByLine := true }
      | 'e' => flags n { s with runs := true }
      | 'p' =>
        if s.prints then fail "multiple `p' options to `s' command"
        else flags n { s with prints := true }
      | 'g' =>
        if s.replacesAll then fail "multiple `g' options to `s' command"
        else flags n { s with replacesAll := true }
      | 'w' =>
        let name ← fileName
        return { s with file := some name }
      | c =>
        if !c.isDigit then fail "unknown option to `s'"
        else if s.number.isSome then fail "multiple number options to `s' command"
        else
          let number := (Octets.natural? (c :: (← takeWhile Char.isDigit))).getD 0
          if number = 0 then fail "number option to `s' command may not be zero"
          else flags n { s with number := some number }

def substitution (isExtended : Bool) : ReadScript Action := do
  let complaint := "unterminated `s' command"
  match ← next with
  | none => fail complaint
  | some delimiter =>
    let pattern ← delimited delimiter true complaint
    let by_ ← delimited delimiter false complaint
    let s ← flags ((← get).left.length + 1) { replacement := replacement by_ }
    let r ← regex isExtended (s.ignoresCase || s.isByLine) s.isByLine pattern
    let highest := (s.replacement.map fun
      | .group n => n
      | _ => 0).foldl max 0
    if r.any fun r => r.groupCount < highest then
      fail ("invalid reference \\" ++ toString highest ++ " on `s' command's RHS")
    return .substitute { s with regex := r }

def exchange : ReadScript Action := do
  let complaint := "unterminated `y' command"
  match ← next with
  | none => fail complaint
  | some delimiter =>
    let first := plainText (← delimited delimiter false complaint)
    let second := plainText (← delimited delimiter false complaint)
    if first.length != second.length then
      fail "strings for `y' command are different lengths"
    finish
    return .exchange (first.zip second)

def action (isExtended hasFirst hasLast : Bool) (c : Char) : ReadScript Action := do
  match c with
  | 's' => substitution isExtended
  | 'y' => exchange
  | ':' =>
    if hasFirst then fail ": doesn't want any addresses"
    let name ← labelName
    if name.isEmpty then fail "\":\" lacks a label"
    return .label name
  | 'b' | 't' | 'T' => return .jump c (← labelName)
  | 'q' | 'Q' =>
    if hasLast then fail "command only uses one address"
    skipBlanks
    let status ← number
    finish
    return .quit (c == 'q') status
  | 'l' =>
    skipBlanks
    let digits ← takeWhile Char.isDigit
    finish
    return .list (Octets.natural? digits)
  | 'r' | 'R' | 'w' | 'W' => return .file c (← fileName)
  | '\x7b' => return .opening
  | '\x7d' => return .closing
  | c =>
    if "dDpP=nNgGhHxzF".toList.contains c then
      finish
      return .simple c
    else fail ("unknown command: `" ++ String.ofList [c] ++ "'")

/-! ### Steps -/

def addresses (isExtended : Bool) (c : Char) :
    ReadScript (Option Address × Option RangeEnd × Option Char) := do
  match ← point? isExtended (some c) with
  | none => return (none, none, some c)
  | some (.distance _) => fail "invalid usage of +N or ~N as first address"
  | some (.address a) =>
    let isZero := match a with
      | .line 0 => true
      | _ => false
    let behind ← nextBehindBlanks
    if behind == some ',' then
      match ← point? isExtended (← nextBehindBlanks) with
      | none => fail "unexpected `,'"
      | some p =>
        let last : RangeEnd := match p with
          | .address a => .at a
          | .distance e => e
        let behind ← nextBehindBlanks
        let isRegex := match last with
          | .at (.regex ..) => true
          | _ => false
        if isZero && !isRegex then fail "invalid usage of line address 0"
        return (some a, some last, behind)
    else if isZero then fail "invalid usage of line address 0"
    else return (some a, none, behind)

def step (piece : ScriptPiece) (s : Script) : ReadScript (Option Script) := do
  let _ ← takeWhile fun c => c == ';' || Octets.isSpace c
  match ← next with
  | none => return none
  | some c =>
    let (first, last, behind) ← addresses piece.isExtended c
    let isInverted := behind == some '!'
    let behind ← if isInverted then nextBehindBlanks else pure behind
    if isInverted && behind == some '!' then fail "multiple `!'s"
    let add (action : Action) (s : Script) : Script :=
      { s with steps := { first, last, isInverted, action } :: s.steps }
    match behind with
    | none => fail "missing command"
    | some '#' =>
      if first.isSome then fail "comments don't accept any addresses"
      let place ← get
      let comment ← takeWhile (· != '\n')
      let isFront := place.taken = 1 && s.steps.isEmpty && match piece.source with
        | .option n => n = 1
        | .file _ => true
      return some (if isFront && comment.head? == some 'n' then { s with isQuiet := true } else s)
    | some 'v' =>
      let version ← labelName
      let wanted := (version.splitOn '.').map fun o => (Octets.natural? o).getD 0
      let (major, minor) := (wanted.headD 0, (wanted.drop 1).headD 0)
      if 4 < major || (major = 4 && 9 < minor) then fail "expected newer version of sed"
      return some s
    | some '\x7b' =>
      return some (add .opening { s with braces := (piece.source, (← get).line) :: s.braces })
    | some '\x7d' =>
      match s.braces with
      | [] => fail "unexpected `\x7d'"
      | _ :: braces =>
        if first.isSome then fail "\x7d doesn't want any addresses"
        finish
        return some (add .closing { s with braces })
    | some c =>
      if c == 'a' || c == 'i' || c == 'c' then
        let (text, isPending) ← addedText
        return some { add (.text c text) s with isPending }
      else if c == 'e' then
        skipBlanks
        match ← peek with
        | none | some '\n' => return some (add (.run []) s)
        | _ =>
          let (text, _) ← addedText
          return some (add (.run text) s)
      else return some (add (← action piece.isExtended first.isSome last.isSome c) s)

def steps (piece : ScriptPiece) : Nat → Script → ReadScript Script
  | 0, s => return s
  | n + 1, s => do
    match ← step piece s with
    | some s => steps piece n s
    | none => return s

def piece (p : ScriptPiece) (s : Script) : ReadScript Script := do
  let s ←
    if !s.isPending then pure s
    else do
      let (more, isPending) ← textLine ((← get).left.length + 1)
      let steps := match s.steps with
        | last :: rest =>
          (match last.action with
            | .text kind text => { last with action := .text kind (text ++ more) }
            | _ => last) :: rest
        | [] => []
      pure { s with steps, isPending }
  steps p ((← get).left.length + 1) s

end ReadScript

/-! ### Scripts -/

def ScriptSource.complaint (s : ScriptSource) (taken line : Nat) (complaint : String) : Octets :=
  let lead := match s with
    | .option n =>
      "-e expression #".toList ++ Text.ofNat n ++ ", char ".toList ++ Text.ofNat taken
    | .file name => "file ".toList ++ name ++ " line ".toList ++ Text.ofNat line
  lead ++ ": ".toList ++ complaint.toList

def EditStep.withPlainText (s : EditStep) : EditStep :=
  match s.action with
  | .text kind text => { s with action := .text kind (ReadScript.plainText text) }
  | .run text => { s with action := .run (ReadScript.plainText text) }
  | _ => s

def readScript (pieces : List ScriptPiece) : Except Octets Script := do
  let s ← pieces.foldlM (fun s p =>
    match (ReadScript.piece p s).run { left := p.text } with
    | .ok (s, _) => .ok s
    | .error (place, complaint) =>
      .error (p.source.complaint place.taken place.line complaint)) {}
  match s.braces with
  | (source, line) :: _ => .error (source.complaint 0 line "unmatched `\x7b'")
  | [] => return { s with steps := s.steps.reverse.map EditStep.withPlainText }

end Interpolation.Shell.Utility
