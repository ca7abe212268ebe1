import Interpolation.Shell.Syntax

/-!
# Tokens of the shell

The lines of a shell are read token by token. Which words are keywords and which are aliases depends
on the place, so it is asked for before each token.
-/

namespace Interpolation.Shell

/-- A token; the text of a word is kept beside it. -/
inductive Token where
  | endOfFile
  | newline
  | semicolon
  | ampersand
  | andIf
  | orIf
  | bar
  | opening
  | closing
  | caseEnd
  | redirection
  | word
  | keyword (name : String)
  deriving DecidableEq, Repr, Inhabited

namespace Token

def keywords : List String :=
  ["!", "case", "do", "done", "elif", "else", "esac", "fi", "for", "if", "in", "then", "until",
    "while", "\x7b", "\x7d"]

def keyword? (t : Octets) : Option Token :=
  (keywords.find? fun name => name.toList == t).map .keyword

def quotedSign (sign : String) : Octets :=
  '"' :: sign.toList ++ ['"']

def name : Token → Octets
  | endOfFile => "end of file".toList
  | newline => "newline".toList
  | semicolon => quotedSign ";"
  | ampersand => quotedSign "&"
  | andIf => quotedSign "&&"
  | orIf => quotedSign "||"
  | bar => quotedSign "|"
  | opening => quotedSign "("
  | closing => quotedSign ")"
  | caseEnd => quotedSign ";;"
  | redirection => "redirection".toList
  | word => "word".toList
  | keyword name => quotedSign name

def endsList : Token → Bool
  | endOfFile | closing | caseEnd => true
  | keyword name =>
    ["do", "done", "elif", "else", "esac", "fi", "then", "\x7d"].contains name
  | _ => false

def isWord : Token → Bool
  | word | keyword _ => true
  | _ => false

end Token

/-- What is asked for before a token: whether line feeds are skipped, whether words may be keywords
or aliases, and whether the word is the mark of a document, in which nothing is put. -/
structure Look where
  pastLines : Bool := false
  keywords : Bool := false
  aliases : Bool := false
  marks : Bool := false
  deriving DecidableEq, Repr

def Look.command : Look :=
  { keywords := true, aliases := true }

def Look.anyLine : Look :=
  { keywords := true, aliases := true, pastLines := true }

def Look.ofMark : Look :=
  { marks := true }

def Look.both (a b : Look) : Look where
  pastLines := a.pastLines || b.pastLines
  keywords := a.keywords || b.keywords
  aliases := a.aliases || b.aliases
  marks := a.marks || b.marks

/-- The sign of a redirection; the word behind it is not part of it. -/
inductive Sign where
  | file (stream : Nat) (opening : Opening)
  | copy (stream : Nat)
  | document (stream : Nat) (dropsTabs : Bool)
  deriving DecidableEq, Repr

/-- The text behind that of an alias. -/
structure Inserted where
  rest : Octets
  name : Octets
  endsBlank : Bool

/-- A document that a command line asks for and that has not been read. -/
structure Awaited where
  number : Nat
  mark : Octets
  dropsTabs : Bool
  expands : Bool

/-- The text that is left to read, the place in it, and the token that was read last. -/
structure Source where
  rest : Octets
  line : Nat := 1
  inserted : List Inserted := []
  token : Token := .endOfFile
  isHeld : Bool := false
  word : Word := []
  hasQuotes : Bool := false
  sign : Sign := .copy 0
  look : Look := {}
  awaited : List Awaited := []
  documents : List (Nat × Word) := []
  nextDocument : Nat := 0
  aliases : List (Octets × Octets) := []

/-- Why reading stops: the text is wrong, or there is no end to it. -/
inductive ReadFault where
  | malformed (complaint : Octets)
  | endless

/-- Reading takes from the source. -/
abbrev Parse := ExceptT ReadFault (StateM Source)

def patience : Nat :=
  4000000

def iterate {m : Type → Type} [Monad m] {α β : Type} (giveUp : m β) (step : α → m (α ⊕ β)) :
    Nat → α → m β
  | 0, _ => giveUp
  | n + 1, a => do
    match ← step a with
    | .inl a => iterate giveUp step n a
    | .inr b => pure b

namespace Parse

def loop {α β : Type} (step : α → Parse (α ⊕ β)) (a : α) : Parse β :=
  iterate (throw .endless) step patience a

def fail {α : Type} (complaint : Octets) : Parse α :=
  throw (.malformed ("Syntax error: ".toList ++ complaint))

def unexpected {α : Type} : Parse α := do
  fail ((← get).token.name ++ " unexpected".toList)

def expecting {α : Type} (wanted : Token) : Parse α := do
  fail ((← get).token.name ++ " unexpected (expecting ".toList ++ wanted.name ++ [')'])

def leave : Octets → List Inserted → Bool → Octets × List Inserted × Bool
  | [], i :: inserted, asks => leave i.rest inserted (asks || i.endsBlank)
  | rest, inserted, asks => (rest, inserted, asks)

def joinLines : Octets → Nat → Octets × Nat
  | '\\' :: '\n' :: rest, line => joinLines rest (line + 1)
  | rest, line => (rest, line)

def peek : Parse (Option Char) := do
  modify fun s =>
    let (rest, inserted, asks) := leave s.rest s.inserted false
    { s with rest, inserted, look.aliases := s.look.aliases || asks }
  return (← get).rest.head?

def drop : Parse Unit :=
  modify fun s => { s with rest := s.rest.tail }

def peekJoined : Parse (Option Char) := do
  let _ ← peek
  modify fun s =>
    let (rest, line) := joinLines s.rest s.line
    { s with rest, line }
  peek

def take : Parse (Option Char) := do
  let c ← peek
  drop
  return c

def takeJoined : Parse (Option Char) := do
  let c ← peekJoined
  drop
  return c

def accept (c : Char) : Parse Bool := do
  if (← peekJoined) == some c then
    drop
    return true
  else return false

def countLine : Parse Unit :=
  modify fun s => { s with line := s.line + 1 }

def hold : Parse Unit :=
  modify fun s => { s with isHeld := true }

def ask (look : Look) : Parse Unit :=
  modify fun s => { s with look }

end Parse

end Interpolation.Shell
