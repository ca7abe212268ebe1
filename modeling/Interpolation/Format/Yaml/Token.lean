import Interpolation.Format.Yaml.Scalar

/-!
# Tokens of YAML documents

A document is cut into tokens from left to right. That a scalar is a key only shows at the colon
behind it, so a token that may turn out to begin a key is remembered, together with its place in the
list of tokens: the mark of the key, and maybe the beginning of a table, are put in there later. A
key stands on one line and has at most 1024 bytes. Outside brackets a collection begins where a dash
or a key stands further to the right than the collection around it, and it ends where something
stands to the left of it.
-/

namespace Interpolation.Yaml

/-- What can be told of the text in a document, of its layout and of its nodes. -/
inductive Token where
  | versionDirective (major minor : Nat)
  | tagDirective (handle head : Text)
  | documentStart
  | documentEnd
  | streamEnd
  | listStart
  | tableStart
  | blockEnd
  | flowListStart
  | flowListEnd
  | flowTableStart
  | flowTableEnd
  | item
  | comma
  | key
  | value
  | alias (name : Text)
  | anchor (name : Text)
  | tag (handle suffix : Text)
  | scalar (isPlain : Bool) (text : Text)
  deriving DecidableEq, Repr

structure Candidate where
  number : Nat
  place : Place
  isRequired : Bool

structure Scan where
  remains : Remains
  tokens : List Token := []
  columns : List Nat := []
  candidates : List (Option Candidate) := [none]
  keyAllowed : Bool := true

abbrev Scanning := StateT Scan Option

namespace Scanning

def ensure (b : Bool) : Scanning Unit :=
  if b then pure () else failure

def inFlow : Scanning Bool := do
  return (← get).candidates.length != 1

def emit (t : Token) : Scanning Unit :=
  modify fun s => { s with tokens := t :: s.tokens }

def insert (number : Nat) (t : Token) : Scanning Unit :=
  modify fun s =>
    let behind := s.tokens.length - number
    { s with tokens := s.tokens.take behind ++ t :: s.tokens.drop behind }

def allowKey (allowed : Bool) : Scanning Unit :=
  modify fun s => { s with keyAllowed := allowed }

def drop (n : Nat) : Scanning Unit :=
  modify fun s => { s with remains := s.remains.drop n }

def goOn (r : Remains) : Scanning Unit :=
  modify fun s => { s with remains := r }

/-! ## Collections outside brackets -/

def openAt (column : Nat) (number : Option Nat) (t : Token) : Scanning Unit := do
  let s ← get
  if !(← inFlow) && s.columns.all (· < column) then
    set { s with columns := column :: s.columns }
    match number with
    | some n => insert n t
    | none => emit t

def closeTo (column : Nat) : Scanning Unit := do
  unless ← inFlow do
    modify fun s =>
      let closed := s.columns.takeWhile (column < ·)
      { s with
        columns := s.columns.drop closed.length
        tokens := List.replicate closed.length .blockEnd ++ s.tokens }

def closeAll : Scanning Unit := do
  unless ← inFlow do
    modify fun s =>
      { s with
        columns := []
        tokens := List.replicate s.columns.length .blockEnd ++ s.tokens }

/-! ## Keys -/

/-- Forget the candidate; one that is required has to be a key. -/
def forgetCandidate : Scanning Unit := do
  let s ← get
  match s.candidates with
  | candidate :: outer =>
    ensure (candidate.all fun c => !c.isRequired)
    set { s with candidates := none :: outer }
  | [] => pure ()

def rememberCandidate : Scanning Unit := do
  if (← get).keyAllowed then
    forgetCandidate
    let s ← get
    let place := s.remains.place
    let isRequired := !(← inFlow) && s.columns.head? == some place.column
    set { s with
      candidates := some ⟨s.tokens.length, place, isRequired⟩ :: s.candidates.drop 1 }

def forgetDistant : Scanning Unit := do
  let s ← get
  let here := s.remains.place
  let isDistant (c : Candidate) : Bool :=
    c.place.line < here.line || c.place.bytes + 1024 < here.bytes
  ensure (s.candidates.all fun c => c.all fun c => !(isDistant c && c.isRequired))
  set { s with candidates := s.candidates.map (Option.filter fun c => !isDistant c) }

/-! ## Single tokens -/

def sign (t : Token) : Scanning Unit := do
  drop 1
  emit t

def boundary (t : Token) : Scanning Unit := do
  closeAll
  forgetCandidate
  allowKey false
  drop 3
  emit t

def opening (t : Token) : Scanning Unit := do
  rememberCandidate
  modify fun s => { s with candidates := none :: s.candidates }
  allowKey true
  sign t

def closing (t : Token) : Scanning Unit := do
  forgetCandidate
  if ← inFlow then
    modify fun s => { s with candidates := s.candidates.drop 1 }
  allowKey false
  sign t

def comma : Scanning Unit := do
  forgetCandidate
  allowKey true
  sign .comma

def openHere (t : Token) : Scanning Unit := do
  unless ← inFlow do
    let s ← get
    ensure s.keyAllowed
    openAt s.remains.place.column none t

def item : Scanning Unit := do
  openHere .listStart
  forgetCandidate
  allowKey true
  sign .item

def explicitKey : Scanning Unit := do
  openHere .tableStart
  forgetCandidate
  allowKey !(← inFlow)
  sign .key

/-- The colon of a value. It makes a key of the candidate. -/
def value : Scanning Unit := do
  let s ← get
  match s.candidates with
  | some c :: outer =>
    set { s with candidates := none :: outer }
    insert c.number .key
    openAt c.place.column (some c.number) .tableStart
    allowKey false
  | _ =>
    openHere .tableStart
    allowKey !(← inFlow)
  sign .value

def name (t : Text → Token) : Scanning Unit := do
  rememberCandidate
  allowKey false
  let (word, r) := ((← get).remains.drop 1).span isWordChar
  ensure (!word.isEmpty && (isSpaced r.text || (r.text.head?.map fun c =>
    "?:,]\x7d%@".toList.contains c || c.toNat == 0x60).getD false))
  goOn r
  emit (t word)

def lineScalar : Scanning Unit := do
  rememberCandidate
  allowKey false
  let s ← get
  match s.remains.text.head? with
  | some c =>
    if c = '"' || c = '\'' then
      let (text, r) ← quotedScalar c s.remains
      goOn r
      emit (.scalar false text)
    else
      let (text, isBroken, r) ←
        plainScalar (← inFlow) ((s.columns.head?.map (· + 1)).getD 0) s.remains
      goOn r
      if isBroken then allowKey true
      emit (.scalar true text)
  | none => failure

def lines : Scanning Unit := do
  forgetCandidate
  allowKey true
  let s ← get
  let (text, r) ← blockScalar s.columns.head? s.remains
  goOn r
  emit (.scalar false text)

/-! ## Tags and directives -/

/-- The characters of a tag; in pointed brackets there are more. -/
def isTagChar (isPointed : Bool) (c : Char) : Bool :=
  isWordChar c || ";/?:@&=+$.%!~*'()".toList.contains c || (isPointed && ",[]".toList.contains c)

def escapedByte? : Text → Option Nat
  | '%' :: a :: b :: _ => do
    let high ← Json.hexValue? a
    let low ← Json.hexValue? b
    some (16 * high + low)
  | _ => none

def sequenceLength? (byte : Nat) : Option Nat :=
  if byte < 0x80 then some 1
  else if byte < 0xC0 then none
  else if byte < 0xE0 then some 2
  else if byte < 0xF0 then some 3
  else if byte < 0xF8 then some 4
  else none

/-- Replace the bytes that are written with percent signs; each is kept as the character of its
number. `expected` bytes of a character are still to come. -/
def unescapeTag (expected : Nat) : Text → Option Text
  | [] => if expected = 0 then some [] else none
  | '%' :: t => do
    let byte ← escapedByte? ('%' :: t)
    let expected ←
      if expected = 0 then (sequenceLength? byte).map (· - 1)
      else if 0x80 ≤ byte && byte < 0xC0 then some (expected - 1)
      else none
    match t with
    | _ :: _ :: rest => (unescapeTag expected rest).map (Char.ofNat byte :: ·)
    | _ => none
  | c :: t => if expected = 0 then (unescapeTag 0 t).map (c :: ·) else none

def tagText (isPointed : Bool) : Scanning Text := do
  let (text, r) := (← get).remains.span (isTagChar isPointed)
  goOn r
  unescapeTag 0 text

/-- Read a handle: an exclamation mark, and maybe a word with another one. -/
def tagHandle : Scanning Text := do
  let r := (← get).remains
  ensure (r.text.head? == some '!')
  let (word, r) := (r.drop 1).span isWordChar
  if r.text.head? = some '!' then
    goOn (r.drop 1)
    pure ('!' :: (word ++ ['!']))
  else
    goOn r
    pure ('!' :: word)

def tag : Scanning Unit := do
  rememberCandidate
  allowKey false
  if ((← get).remains.text.drop 1).head? = some '<' then
    drop 2
    let text ← tagText true
    ensure (!text.isEmpty && (← get).remains.text.head? == some '>')
    drop 1
    emit (.tag [] text)
  else
    let handle ← tagHandle
    if 1 < handle.length && handle.getLast? == some '!' then
      let text ← tagText false
      ensure (!text.isEmpty)
      emit (.tag handle text)
    else
      let text := handle.drop 1 ++ (← tagText false)
      emit (if text.isEmpty then .tag [] ['!'] else .tag ['!'] text)
  let rest := (← get).remains.text
  ensure (isSpaced rest || ((← inFlow) && rest.head? == some ','))

def versionNumber : Scanning Nat := do
  let (digits, r) := (← get).remains.span Char.isDigit
  ensure (digits.length ≤ 9)
  goOn r
  match Text.digits? digits with
  | some n => pure n
  | none => failure

def directive : Scanning Unit := do
  closeAll
  forgetCandidate
  allowKey false
  drop 1
  let (word, r) := (← get).remains.span isWordChar
  ensure (isSpaced r.text)
  goOn (r.skip isBlank)
  if word = "YAML".toList then
    let major ← versionNumber
    ensure ((← get).remains.text.head? == some '.')
    drop 1
    let minor ← versionNumber
    emit (.versionDirective major minor)
  else if word = "TAG".toList then
    let handle ← tagHandle
    let r := (← get).remains
    ensure ((handle.length = 1 || handle.getLast? == some '!') &&
      (r.text.head?.map isBlank).getD false)
    goOn (r.skip isBlank)
    let head ← tagText true
    ensure (!head.isEmpty && isSpaced (← get).remains.text)
    emit (.tagDirective handle head)
  else failure
  match (← get).remains.skipLine? with
  | some r => goOn r
  | none => failure

/-! ## All tokens -/

/-- Skip what stands between two tokens: blanks, comments and line ends. A tab is no blank where a
key may begin, unless it is in brackets. Outside brackets a key may begin on every new line. A mark
of the byte order may begin a line, where it fills a column. -/
def gap : Nat → Scanning Unit
  | 0 => failure
  | count + 1 => do
    let s ← get
    let inFlow ← inFlow
    let r := s.remains
    let isOrderMarked := r.place.column == 0 && (r.text.head?.map isOrderMark).getD false
    let r := if isOrderMarked then r.drop 1 else r
    let r := r.skip fun c => c == ' ' || (c == '\t' && (inFlow || !s.keyAllowed))
    let r := r.skipComment
    match r.text with
    | [] => goOn r
    | c :: _ =>
      if isBreak c then
        goOn (r.drop 1)
        unless inFlow do allowKey true
        gap count
      else goOn r

def beginsPlain (inFlow : Bool) : Text → Bool
  | [] => false
  | c :: t =>
    if c == '-' then !(t.head?.map isBlank).getD false
    else if c == '?' || c == ':' then !inFlow && !isSpaced t
    else
      !isBlank c && !isBreak c && !isFlow c && !"#&*!|>'\"%@".toList.contains c && c.toNat != 0x60

def token (r : Remains) : Scanning Unit := do
  let inFlow ← inFlow
  let t := r.text
  let isEnding := isSpaced (t.drop 1)
  match t.head? with
  | none => failure
  | some c =>
    if c = '%' && r.place.column = 0 then directive
    else if isMark '-' r.place t then boundary .documentStart
    else if isMark '.' r.place t then boundary .documentEnd
    else if c = '[' then opening .flowListStart
    else if c = '{' then opening .flowTableStart
    else if c = ']' then closing .flowListEnd
    else if c = '}' then closing .flowTableEnd
    else if c = ',' then comma
    else if c = '-' && isEnding then item
    else if c = '?' && (inFlow || isEnding) then explicitKey
    else if c = ':' && (inFlow || isEnding) then value
    else if c = '*' then name .alias
    else if c = '&' then name .anchor
    else if c = '!' then tag
    else if (c = '|' || c = '>') && !inFlow then lines
    else if c = '\'' || c = '"' || beginsPlain inFlow t then lineScalar
    else failure

def all : Nat → Scanning Unit
  | 0 => failure
  | count + 1 => do
    gap ((← get).remains.text.length + 1)
    forgetDistant
    closeTo (← get).remains.place.column
    let r := (← get).remains
    if r.text.isEmpty then
      closeAll
      forgetCandidate
      emit .streamEnd
    else
      token r
      all count

end Scanning

def tokens? (t : Text) : Option (List Token) :=
  if t.all isAllowed then
    let scan : Scan := { remains := { text := unifyBreaks t } }
    ((Scanning.all (t.length + 2)).run scan).map fun (_, s) => s.tokens.reverse
  else none

end Interpolation.Yaml
