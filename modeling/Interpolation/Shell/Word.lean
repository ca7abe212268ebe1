import Interpolation.Shell.Token

/-!
# Reading words

A word is read character by character. Quotes and braces may be nested, and what a character means
depends on the innermost of them. Commands inside a word are read by the reader of commands, which
is given.
-/

namespace Interpolation.Shell

/-- What is read: the commands of a body, those of a case, those of a substitution up to its
parenthesis or to the end, or a single command. -/
inductive Goal where
  | body
  | cases
  | substitution
  | backquoted
  | single
  deriving DecidableEq, Repr

abbrev CommandReader := Goal → Parse Command

inductive Quoting where
  | bare
  | double
  | single
  | arithmetic
  deriving DecidableEq, Repr

structure Level where
  quoting : Quoting := .bare
  isDouble : Bool := false
  hasInner : Bool := false
  isOwn : Bool := false
  braces : Nat := 0
  quotedBraces : Nat := 0
  parentheses : Nat := 0

inductive Construct where
  | parameter (name : Octets) (use : Use)
  | arithmetic

structure Reading where
  level : Level := {}
  below : List Level := []
  parts : List Part := []
  outer : List (Construct × List Part) := []
  hasQuotes : Bool := false

namespace Reading

def add (r : Reading) (part : Part) : Reading :=
  { r with parts := part :: r.parts }

def put (r : Reading) (c : Char) : Reading :=
  match r.level.quoting with
  | .single | .double => r.add (.quoted c)
  | .bare | .arithmetic => r.add (.plain c)

def push (r : Reading) (level : Level) : Reading :=
  { r with level, below := r.level :: r.below }

def pop (r : Reading) : Reading :=
  match r.below with
  | level :: below => { r with level, below }
  | [] => r

def «open» (r : Reading) (construct : Construct) : Reading :=
  { r with parts := [], outer := (construct, r.parts) :: r.outer }

def close (r : Reading) : Reading :=
  match r.outer with
  | (.arithmetic, parts) :: outer =>
    { r with parts := .arithmetic r.parts.reverse :: parts, outer }
  | (.parameter name .value, parts) :: outer =>
    { r with parts := r.parts ++ .parameter name .value [] :: parts, outer }
  | (.parameter name use, parts) :: outer =>
    { r with parts := .parameter name use r.parts.reverse :: parts, outer }
  | [] => r

def addMark (r : Reading) (isDocument : Bool) : Reading :=
  if isDocument then r else r.add .mark

def toggle (r : Reading) (isDocument : Bool) : Reading :=
  { r with level.hasInner := r.level.hasInner != (r.level.braces != 0) }.addMark isDocument

def endQuotes (r : Reading) (c : Char) (isDocument : Bool) : Reading :=
  if isDocument && r.level.braces == 0 then r.put c
  else
    let r := { r with hasQuotes := true }
    let r :=
      if r.level.quotedBraces == 0 then
        { r with level.quoting := .bare, level.isDouble := false }
      else r
    if c == '"' then r.toggle isDocument else r.addMark isDocument

def closeBrace (r : Reading) : Reading :=
  if r.level.hasInner || r.level.braces == 0 then r.put '}'
  else
    let r := { r with level.braces := r.level.braces - 1 }
    let r :=
      if r.level.braces == 0 && r.level.isOwn then r.pop
      else { r with level.quotedBraces := r.level.quotedBraces - 1 }
    r.close

def escape (r : Reading) (c : Char) (isDocument : Bool) : Reading :=
  let inBraces := r.level.braces != 0
  let isPlain := r.level.isDouble && c != '\\' && c != Char.ofNat 96 && c != '$' &&
    (c != '"' || (isDocument && !inBraces)) && (c != '}' || !inBraces)
  let r := if isPlain then r.add (.quoted '\\') else r
  { r.add (.quoted c) with hasQuotes := true }

def openBraces (r : Reading) (name : Octets) (use : Use) : Reading :=
  let quoting := match use, r.level.quoting with
    | .trim .., _ => .bare
    | _, .arithmetic => .double
    | _, quoting => quoting
  let r :=
    if quoting != r.level.quoting || r.level.hasInner then
      r.push { quoting, isOwn := true, isDouble := quoting != .bare }
    else r
  let quoted := if r.level.isDouble then 1 else 0
  { r with
    level.braces := r.level.braces + 1
    level.quotedBraces := r.level.quotedBraces + quoted }.open (.parameter name use)

end Reading

namespace Parse

def isSpecial (c : Char) : Bool :=
  c.isDigit || "!#$*-?@".toList.contains c

def takeWhile (kind : Char → Bool) : Parse Octets :=
  loop (fun taken => do
    match ← peekJoined with
    | some c =>
      if kind c then
        drop
        return .inl (taken ++ [c])
      else return .inr taken
    | none => return .inr taken) []

def putBack (c : Char) : Parse Unit :=
  modify fun s => { s with rest := c :: s.rest }

def use : Parse (Use × Bool) := do
  let ofSign (orEmpty : Bool) : Parse (Use × Bool) := do
    match ← takeJoined with
    | some '}' => return (.value, !orEmpty)
    | some '-' => return (.otherwise orEmpty, false)
    | some '+' => return (.instead orEmpty, false)
    | some '?' => return (.demand orEmpty, false)
    | some '=' => return (.assign orEmpty, false)
    | _ => return (.malformed, false)
  match ← peekJoined with
  | some ':' =>
    drop
    ofSign true
  | some '%' =>
    drop
    return (.trim true (← accept '%'), false)
  | some '#' =>
    drop
    return (.trim false (← accept '#'), false)
  | _ => ofSign false

def parameterName (inBraces : Bool) : Parse Octets := do
  match ← peekJoined with
  | some c =>
    if Octets.beginsName c then takeWhile Octets.isNameChar
    else if c.isDigit then
      if inBraces then takeWhile Char.isDigit
      else
        drop
        return [c]
    else return []
  | none => return []

def braced : Parse (Octets × Use × Bool) := do
  let named (name : Octets) : Parse (Octets × Use × Bool) := do
    return (name, ← use)
  let name ← parameterName true
  if !name.isEmpty then named name
  else
    match ← peekJoined with
    | some '#' =>
      drop
      let ofLength (name : Octets) : Parse (Octets × Use × Bool) := do
        return (name, if (← peekJoined) == some '}' then .length else .malformed, false)
      let name ← parameterName true
      if !name.isEmpty then ofLength name
      else
        match ← peekJoined with
        | some c =>
          drop
          if c != '}' && (← peekJoined) == some '}' then
            if isSpecial c then ofLength [c] else return ([], .malformed, false)
          else
            putBack c
            named ['#']
        | none => named ['#']
    | some c =>
      if isSpecial c then
        drop
        named [c]
      else
        if c != '}' then drop
        return ([], .malformed, false)
    | none => return ([], .malformed, false)

def backquoted (isDouble : Bool) : Parse Octets :=
  loop (fun taken => do
    match ← takeJoined with
    | none => fail "EOF in backquote substitution".toList
    | some '\\' =>
      match ← take with
      | none => fail "EOF in backquote substitution".toList
      | some c =>
        let isEscaped := c == '\\' || c == Char.ofNat 96 || c == '$' || (isDouble && c == '"')
        return .inl (if isEscaped then c :: taken else c :: '\\' :: taken)
    | some c =>
      if c == Char.ofNat 96 then return .inr taken.reverse
      if c == '\n' then countLine
      return .inl (c :: taken)) []

def endsDocument (mark : Octets) (rest : Octets) : Bool :=
  match mark.isPrefixOf? rest with
  | some [] => true
  | some ('\n' :: _) => true
  | _ => false

def leaveDocument (document : Awaited) : Parse Bool := do
  let _ ← peek
  if document.dropsTabs then
    modify fun s => { s with rest := s.rest.dropWhile (· == '\t') }
    let _ ← peek
  if endsDocument document.mark (← get).rest then
    modify fun s => { s with rest := s.rest.drop (document.mark.length + 1), line := s.line + 1 }
    return true
  else return false

def backquotedCommand (commands : CommandReader) (isDouble : Bool) : Parse Part := do
  drop
  let text ← backquoted isDouble
  let outer ← get
  set { outer with rest := text, line := 1, inserted := [], awaited := [] }
  let body ← commands .backquoted
  modify fun s =>
    { s with
      rest := outer.rest, line := outer.line, inserted := outer.inserted, awaited := outer.awaited
      look := outer.look, isHeld := false }
  return .command body

def substitution (commands : CommandReader) (r : Reading) : Parse Reading := do
  drop
  if (← get).look.marks then return r.put '$'
  match ← peekJoined with
  | some '(' =>
    drop
    if ← accept '(' then
      return (r.push { quoting := .arithmetic, isDouble := true }).open .arithmetic
    else
      let outer ← get
      set { outer with awaited := [] }
      let body ← commands .substitution
      modify fun s => { s with awaited := outer.awaited, look := outer.look }
      return r.add (.command body)
  | some '{' =>
    drop
    let (name, use, isClosed) ← braced
    return if isClosed then r.add (.parameter name use []) else r.openBraces name use
  | some c =>
    if Octets.beginsName c || c.isDigit then
      return r.add (.parameter (← parameterName false) .value [])
    else if isSpecial c then
      drop
      return r.add (.parameter [c] .value [])
    else return r.put '$'
  | none => return r.put '$'

def closeArithmetic (r : Reading) : Parse Reading := do
  drop
  if r.level.parentheses != 0 then
    return { r with level.parentheses := r.level.parentheses - 1 }.put ')'
  else if ← accept ')' then return r.pop.close
  else return r.put ')'

def wordStep (commands : CommandReader) (document : Option Awaited) (r : Reading) :
    Parse (Reading ⊕ Reading) := do
  let quoting := r.level.quoting
  let isDocument := document.isSome
  let next (r : Reading) : Parse (Reading ⊕ Reading) := do
    drop
    return .inl r
  match ← if quoting == .single then peek else peekJoined with
  | none => return .inr r
  | some '\n' =>
    if quoting == .bare && r.level.braces == 0 then return .inr r
    drop
    countLine
    match document with
    | some d => if ← leaveDocument d then return .inr (r.put '\n')
    | none => pure ()
    return .inl (r.put '\n')
  | some c =>
    if quoting == .single then
      if c == '\'' then next (r.endQuotes c isDocument) else next (r.put c)
    else if c == '\\' then
      drop
      match ← take with
      | none => return .inl (r.add (.quoted '\\'))
      | some c => return .inl (r.escape c isDocument)
    else if c == '$' then return .inl (← substitution commands r)
    else if c == '}' then next r.closeBrace
    else if c == Char.ofNat 96 then
      if (← get).look.marks then next (r.put c)
      else return .inl (r.add (← backquotedCommand commands r.level.isDouble))
    else
      match quoting, c with
      | .bare, '\'' => next ({ r with level.quoting := .single }.addMark isDocument)
      | .bare, '"' =>
        next ({ r with level.quoting := .double, level.isDouble := true }.toggle isDocument)
      | .double, '"' => next (r.endQuotes c isDocument)
      | .arithmetic, '(' => next ({ r with level.parentheses := r.level.parentheses + 1 }.put c)
      | .arithmetic, ')' => return .inl (← closeArithmetic r)
      | .bare, c =>
        if r.level.braces == 0 && "<>();&| \t".toList.contains c then return .inr r
        else next (r.put c)
      | _, c => next (r.put c)

def reading (commands : CommandReader) (document : Option Awaited) : Parse Reading := do
  let level : Level := match document with
    | none => {}
    | some d =>
      if d.expands then { quoting := .double, isDouble := true } else { quoting := .single }
  let r ← loop (wordStep commands document) { level }
  if r.level.quoting == .arithmetic then fail "Missing '))'".toList
  if r.level.quoting != .bare && document.isNone then fail "Unterminated quoted string".toList
  if r.level.braces != 0 then fail "Missing '\x7d'".toList
  return r

def readDocuments (commands : CommandReader) : Parse Unit := do
  let awaited := (← get).awaited
  modify fun s => { s with awaited := [] }
  for document in awaited do
    let parts ←
      if ← leaveDocument document then pure []
      else do
        let r ← reading commands (some document)
        pure r.parts.reverse
    modify fun s => { s with documents := (document.number, parts) :: s.documents }

def redirectionSign (number : Option Nat) : Parse Token := do
  let isOutput := (← takeJoined) == some '>'
  let stream := number.getD (if isOutput then 1 else 0)
  let sign : Sign ←
    match isOutput, ← peekJoined with
    | true, some '>' => do drop; pure (.file stream .append)
    | true, some '|' => do drop; pure (.file stream .overwrite)
    | true, some '&' => do drop; pure (.copy stream)
    | true, _ => pure (.file stream .write)
    | false, some '<' => do drop; pure (.document stream (← accept '-'))
    | false, some '&' => do drop; pure (.copy stream)
    | false, some '>' => do drop; pure (.file stream .readWrite)
    | false, _ => pure (.file stream .read)
  modify fun s => { s with sign }
  return .redirection

def wordToken (commands : CommandReader) : Parse Token := do
  let r ← reading commands none
  let parts := r.parts.reverse
  let next ← peekJoined
  let isSign := !r.hasQuotes && (next == some '>' || next == some '<')
  match isSign, parts with
  | true, [] => redirectionSign none
  | true, [.plain c] =>
    if c.isDigit then redirectionSign (some (c.toNat - '0'.toNat))
    else
      modify fun s => { s with word := parts, hasQuotes := r.hasQuotes }
      return .word
  | _, _ =>
    modify fun s => { s with word := parts, hasQuotes := r.hasQuotes }
    return .word

end Parse

end Interpolation.Shell
