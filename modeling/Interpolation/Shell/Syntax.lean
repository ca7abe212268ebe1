import Interpolation.Shell.Octets

/-!
# Shell commands as they are written

A word is a sequence of parts: characters, quotes, and what is put in when the command runs. A
simple command has assignments, words and redirections; the other commands are made of commands.
Commands that may complain know the line on which they begin.
-/

namespace Interpolation.Shell

/-- What stands for a parameter. A word takes part in most uses; `orEmpty` says that an empty value
counts as none. -/
inductive Use where
  | value
  | length
  | otherwise (orEmpty : Bool)
  | instead (orEmpty : Bool)
  | assign (orEmpty : Bool)
  | demand (orEmpty : Bool)
  | trim (atEnd longest : Bool)
  | malformed
  deriving DecidableEq, Repr

/-- How a redirection opens a file. -/
inductive Opening where
  | read
  | write
  | overwrite
  | append
  | readWrite
  deriving DecidableEq, Repr

mutual

/-- A part of a word. -/
inductive Part where
  | plain (c : Char)
  | quoted (c : Char)
  | mark
  | parameter (name : Octets) (use : Use) (word : List Part)
  | command (body : Command)
  | arithmetic (expression : List Part)

/-- Where a stream of a command leads. -/
inductive Redirection where
  | file (stream : Nat) (opening : Opening) (name : List Part)
  | copy (stream : Nat) (source : List Part)
  | document (stream number : Nat) (expands : Bool)

inductive Command where
  | nothing
  | simple (line : Nat) (assignments words : List (List Part)) (redirections : List Redirection)
  | pipeline (commands : List Command)
  | background (line : Nat) (body : Command)
  | redirected (line : Nat) (body : Command) (redirections : List Redirection)
  | subshell (line : Nat) (body : Command) (redirections : List Redirection)
  | negated (body : Command)
  | sequence (first second : Command)
  | andThen (first second : Command)
  | orElse (first second : Command)
  | conditional (test body otherwise : Command)
  | loop (isUntil : Bool) (test body : Command)
  | each (line : Nat) (name : Octets) (words : List (List Part)) (body : Command)
  | choice (line : Nat) (subject : List Part) (cases : List (List (List Part) × Command))
  | function (line : Nat) (name : Octets) (body : Command)

end

instance : Inhabited Part := ⟨.mark⟩

instance : Inhabited Command := ⟨.nothing⟩

/-- A word is the list of its parts. -/
abbrev Word := List Part

namespace Word

def cutPlain : Word → Octets × Word
  | .plain c :: rest =>
    let (front, rest) := cutPlain rest
    (c :: front, rest)
  | rest => ([], rest)

def text? (w : Word) : Option Octets :=
  match cutPlain w with
  | (t, []) => some t
  | _ => none

def unquoted (w : Word) : Octets :=
  w.flatMap fun
    | .plain c => [c]
    | .quoted c => [c]
    | _ => []

def assigned? (w : Word) : Option Octets :=
  match Text.cutFirst '=' (cutPlain w).1 with
  | some (name, _) => if Octets.isName name then some name else none
  | none => none

def behindEquals : Word → Word
  | .plain '=' :: rest => rest
  | _ :: rest => behindEquals rest
  | [] => []

end Word

end Interpolation.Shell
