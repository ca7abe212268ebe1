import Interpolation.Shell.Word

/-!
# Reading commands

Commands are read line by line. A command may go on over several lines, and the documents that a
line asks for follow it. Nothing is read before what stands in front of it has run.
-/

namespace Interpolation.Shell.Parse

def skipComment : Parse Unit :=
  loop (fun _ => do
    match ← peek with
    | none | some '\n' => return .inr ()
    | some _ =>
      drop
      return .inl ()) ()

def rawToken (commands : CommandReader) : Parse Token := do
  if (← get).isHeld then
    modify fun s => { s with isHeld := false }
    return (← get).token
  let sign (c : Char) (twice once : Token) : Parse (Unit ⊕ Token) := do
    drop
    return .inr (if ← accept c then twice else once)
  let token ← loop (fun _ => do
    match ← peekJoined with
    | none => return .inr .endOfFile
    | some ' ' | some '\t' => do drop; return .inl ()
    | some '#' => do skipComment; return .inl ()
    | some '\n' => do drop; countLine; return .inr .newline
    | some '&' => sign '&' .andIf .ampersand
    | some '|' => sign '|' .orIf .bar
    | some ';' => sign ';' .caseEnd .semicolon
    | some '(' => do drop; return .inr .opening
    | some ')' => do drop; return .inr .closing
    | some _ => return .inr (← wordToken commands)) ()
  modify fun s => { s with token }
  return token

def insertAlias? (name : Octets) : Parse Bool := do
  let s ← get
  match s.aliases.lookup name with
  | none => return false
  | some text =>
    if s.inserted.any fun i => i.name == name then return false
    let endsBlank := text.getLast?.any fun c => c == ' ' || c == '\t'
    if !text.isEmpty then
      set { s with rest := text, inserted := ⟨s.rest, name, endsBlank⟩ :: s.inserted }
    return true

def token (commands : CommandReader) : Parse Token := do
  loop (fun asked => do
    let first ← rawToken commands
    let t ←
      if asked.pastLines then
        loop (fun (t : Token) => do
          if t != .newline then return .inr t
          readDocuments commands
          ask {}
          return .inl (← rawToken commands)) first
      else pure first
    let s ← get
    let asked := asked.both s.look
    ask {}
    match t, s.hasQuotes, s.word.text? with
    | .word, false, some name =>
      match if asked.keywords then Token.keyword? name else none with
      | some keyword =>
        modify fun s => { s with token := keyword }
        return .inr keyword
      | none =>
        if asked.aliases then
          if ← insertAlias? name then return .inl asked
        return .inr t
    | _, _, _ => return .inr t) (← get).look

def need (commands : CommandReader) (wanted : Token) : Parse Unit := do
  if (← token commands) != wanted then expecting wanted

def redirection (commands : CommandReader) : Parse Redirection := do
  let sign := (← get).sign
  match sign with
  | .document .. => ask .ofMark
  | _ => pure ()
  if (← token commands) != .word then unexpected
  let s ← get
  match sign with
  | .file stream opening => return .file stream opening s.word
  | .copy stream => return .copy stream s.word
  | .document stream dropsTabs =>
    let number := s.nextDocument
    let expands := !s.hasQuotes
    let document : Awaited := { number, mark := Word.unquoted s.word, dropsTabs, expands }
    modify fun s => { s with nextDocument := number + 1, awaited := s.awaited ++ [document] }
    return .document stream number expands

def redirections (commands : CommandReader) : Parse (List Redirection) :=
  loop (fun found => do
    ask .command
    if (← token commands) == .redirection then
      return .inl (found ++ [← redirection commands])
    hold
    return .inr found) []

/-- The names of commands that no function may take. -/
def reserved : List String :=
  [".", ":", "break", "continue", "eval", "exec", "exit", "export", "readonly", "return", "set",
    "shift", "times", "trap", "unset"]

structure Elements where
  assignments : List Word := []
  words : List Word := []
  redirections : List Redirection := []

def function (commands : CommandReader) (name : Word) : Parse Command := do
  need commands .closing
  let t := (name.text?).getD []
  if !Octets.isName t || reserved.any (·.toList == t) then fail "Bad function name".toList
  ask .anyLine
  let line := (← get).line
  return .function line t (← commands .single)

def simple (commands : CommandReader) : Parse Command := do
  let line := (← get).line
  loop (fun (e : Elements) => do
    let mayAssign := e.words.isEmpty
    ask { aliases := mayAssign }
    match ← token commands with
    | .word =>
      let w := (← get).word
      if mayAssign && (Word.assigned? w).isSome then
        return .inl { e with assignments := e.assignments ++ [w] }
      else return .inl { e with words := e.words ++ [w] }
    | .redirection =>
      return .inl { e with redirections := e.redirections ++ [← redirection commands] }
    | .opening =>
      match e.words, e.assignments, e.redirections with
      | [name], [], [] => return .inr (← function commands name)
      | _, _, _ =>
        hold
        return .inr (.simple line e.assignments e.words e.redirections)
    | _ =>
      hold
      return .inr (.simple line e.assignments e.words e.redirections)) ({} : Elements)

def conditional (commands : CommandReader) : Parse Command := do
  let branch : Parse (Command × Command) := do
    let test ← commands .body
    need commands (.keyword "then")
    return (test, ← commands .body)
  let first ← branch
  let (branches, last) ← loop (fun branches => do
    match ← token commands with
    | .keyword "elif" => return .inl (branches ++ [← branch])
    | .keyword "else" => return .inr (branches, ← commands .body)
    | _ =>
      hold
      return .inr (branches, .nothing)) [first]
  need commands (.keyword "fi")
  return branches.foldr (fun (test, body) otherwise => .conditional test body otherwise) last

def words (commands : CommandReader) : Parse (List Word) :=
  loop (fun found => do
    if (← token commands) == .word then return .inl (found ++ [(← get).word])
    else return .inr found) []

def allArguments : Word :=
  [.mark, .parameter ['@'] .value [], .mark]

def each (commands : CommandReader) (line : Nat) : Parse Command := do
  let first ← token commands
  let s ← get
  let name := (s.word.text?).getD []
  if first != .word || s.hasQuotes || !Octets.isName name then
    fail "Bad for loop variable".toList
  ask .anyLine
  let ws ←
    if (← token commands) == .keyword "in" then do
      let ws ← words commands
      let ending := (← get).token
      if ending != .newline && ending != .semicolon then unexpected
      pure ws
    else do
      if (← get).token != .semicolon then hold
      pure [allArguments]
  ask .anyLine
  need commands (.keyword "do")
  let body ← commands .body
  need commands (.keyword "done")
  return .each line name ws body

def oneCase (commands : CommandReader) (first : Token) : Parse (List Word × Command) := do
  if first == .opening then let _ ← token commands
  let patterns ← loop (fun patterns => do
    let s ← get
    if !s.token.isWord then expecting .word
    let patterns := patterns ++ [s.word]
    if (← token commands) == .bar then
      let _ ← token commands
      return .inl patterns
    else return .inr patterns) []
  if (← get).token != .closing then expecting .closing
  let body ← commands .cases
  return (patterns, body)

def choice (commands : CommandReader) (line : Nat) : Parse Command := do
  if (← token commands) != .word then expecting .word
  let subject := (← get).word
  ask .anyLine
  need commands (.keyword "in")
  let look : Look := { keywords := true, pastLines := true }
  let cases ← loop (fun cases => do
    ask look
    let first ← token commands
    if first == .keyword "esac" then return .inr cases
    let cases := cases ++ [← oneCase commands first]
    ask look
    match ← token commands with
    | .keyword "esac" => return .inr cases
    | .caseEnd => return .inl cases
    | _ => expecting .caseEnd) []
  return .choice line subject cases

def command (commands : CommandReader) : Parse Command := do
  let line := (← get).line
  let behind (c : Command) : Parse Command := do
    match ← redirections commands with
    | [] => return c
    | rs => return .redirected line c rs
  match ← token commands with
  | .keyword "if" => behind (← conditional commands)
  | .keyword "while" => behind (← loopOn false)
  | .keyword "until" => behind (← loopOn true)
  | .keyword "for" => behind (← each commands line)
  | .keyword "case" => behind (← choice commands line)
  | .opening =>
    let body ← commands .body
    need commands .closing
    return .subshell line body (← redirections commands)
  | .keyword "\x7b" =>
    let body ← commands .body
    need commands (.keyword "\x7d")
    behind body
  | .word | .redirection =>
    hold
    simple commands
  | _ => unexpected
where
  loopOn (isUntil : Bool) : Parse Command := do
    let test ← commands .body
    need commands (.keyword "do")
    let body ← commands .body
    need commands (.keyword "done")
    return .loop isUntil test body

def pipeline (commands : CommandReader) : Parse Command := do
  let isNegated := (← token commands) == .keyword "!"
  if isNegated then ask .command else hold
  let first ← command commands
  let stages ← loop (fun stages => do
    if (← token commands) == .bar then
      ask .anyLine
      return .inl (stages ++ [← command commands])
    else
      hold
      return .inr stages) [first]
  let whole := match stages with
    | [c] => c
    | _ => .pipeline stages
  return if isNegated then .negated whole else whole

def andOr (commands : CommandReader) : Parse Command := do
  loop (fun first => do
    match ← token commands with
    | .andIf =>
      ask .anyLine
      return .inl (.andThen first (← pipeline commands))
    | .orIf =>
      ask .anyLine
      return .inl (.orElse first (← pipeline commands))
    | _ =>
      hold
      return .inr first) (← pipeline commands)

def list (commands : CommandReader) (isLine mayBeEmpty : Bool) : Parse (Option Command) :=
  loop (fun found => do
    let atEnd (found : Option Command) : Parse (Option Command ⊕ Option Command) := do
      readDocuments commands
      modify fun s => { s with token := .endOfFile, isHeld := true }
      return .inr (if isLine then found else some (found.getD .nothing))
    ask { keywords := true, aliases := true, pastLines := !isLine }
    match ← token commands with
    | .newline =>
      readDocuments commands
      return .inr (some (found.getD .nothing))
    | .endOfFile => atEnd found
    | t =>
      hold
      if !isLine && t.endsList && (mayBeEmpty || found.isSome) then
        return .inr (some (found.getD .nothing))
      let line := (← get).line
      let next ← andOr commands
      let t ← token commands
      let next := if t == .ampersand then .background line next else next
      let found := match found with
        | none => next
        | some c => .sequence c next
      match t with
      | .endOfFile => atEnd (some found)
      | .newline =>
        hold
        return .inl (some found)
      | .ampersand | .semicolon => return .inl (some found)
      | _ =>
        if isLine then unexpected
        hold
        return .inr (some found)) none

def reader : Nat → CommandReader
  | 0, _ => throw .endless
  | depth + 1, goal => do
    let commands := reader depth
    match goal with
    | .body => return (← list commands false false).getD .nothing
    | .cases => return (← list commands false true).getD .nothing
    | .substitution =>
      let body ← list commands false true
      need commands .closing
      readDocuments commands
      return body.getD .nothing
    | .backquoted =>
      let body ← list commands false true
      readDocuments commands
      return body.getD .nothing
    | .single => command commands

def commandLine : Parse (Option Command) := do
  modify fun s => { s with isHeld := false, look := {}, awaited := [] }
  list (reader patience) true false

end Interpolation.Shell.Parse
