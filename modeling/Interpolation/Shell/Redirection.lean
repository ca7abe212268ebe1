import Interpolation.Shell.Expansion
import Interpolation.Shell.Process

/-!
# Redirections

The words of all redirections of a command are expanded first; then the streams are opened one
after the other. A stream that cannot be opened fails the command.
-/

namespace Interpolation.Shell.Redirect

/-- A redirection whose words have been expanded. -/
inductive Ready where
  | file (stream : Nat) (opening : Opening) (name : Octets)
  | copy (stream : Nat) (source : Option Nat)
  | document (stream number : Nat) (expands : Bool)

def prepare (substitute : Command → Exec Octets) : Redirection → Exec Ready
  | .file stream opening name => do
    return .file stream opening (← Expansion.text substitute { hasHome := true } name)
  | .copy stream source => do
    match (← Expansion.fields substitute source).head? with
    | some ['-'] => return .copy stream none
    | some [c] => if c.isDigit then return .copy stream (some (c.toNat - '0'.toNat)) else malformed
    | some _ => malformed
    | none => Exec.fail "redir error".toList
  | .document stream number expands => return .document stream number expands
where
  malformed : Exec Ready := do
    Exec.change fun p => { p with line := p.readLine }
    Exec.fail "Syntax error: Bad fd number".toList

inductive Purpose where
  | reading
  | creating
  deriving DecidableEq

def refuse {α : Type} (purpose : Purpose) (name : Octets) (e : FileError) : Exec α :=
  let reason := match purpose, e with
    | .reading, .notFound | .reading, .notFolder => "No such file".toList
    | .creating, .notFound | .creating, .notFolder => "Directory nonexistent".toList
    | _, e => e.message
  let verb := match purpose with
    | .reading => "cannot open "
    | .creating => "cannot create "
  Exec.fail (verb.toList ++ name ++ ": ".toList ++ reason)

def hidesFile (name : Octets) : Exec Bool := do
  match ← Exec.node? true name with
  | .ok { body := .file _, .. } => return true
  | _ => return false

def openFile (opening : Opening) (name : Octets) : Exec Nat := do
  let purpose : Purpose := if opening == .read then .reading else .creating
  if opening == .write && (← Exec.hasOption 'C') then
    if ← hidesFile name then
      Exec.fail ("cannot create ".toList ++ name ++ ": File exists".toList)
  let access : Exec.Access := match opening with
    | .read => .reading
    | .append => .writing false true false
    | .readWrite => .writing false false true
    | _ => .writing true false false
  match ← Exec.openPath name access with
  | .ok key => return key
  | .error why => refuse purpose name why

def apply (substitute : Command → Exec Octets) : Ready → Exec Unit
  | .file stream opening name => do
    Exec.connect stream (← openFile opening name)
  | .copy stream none => Exec.disconnect stream
  | .copy stream (some source) => do
    match (← Exec.ask Process.streams).lookup source with
    | some key => Exec.connect stream key
    | none => Exec.fail (Text.ofNat source ++ ": Bad file descriptor".toList)
  | .document stream number expands => do
    let word := ((← Exec.observe World.documents).lookup number).getD []
    let text ← if expands then Expansion.text substitute { isQuoted := true } word
      else pure (Word.unquoted word)
    Exec.connect stream (← Exec.openTarget
      { target := .pipe { front := text }, isWritable := false })

def applyAll (substitute : Command → Exec Octets) (ready : List Ready) : Exec Bool := do
  match ← Exec.attempt (ready.forM (apply substitute)) with
  | .ok () => return true
  | .error .failed => return false
  | .error stop => throw stop

end Interpolation.Shell.Redirect
