import Interpolation.CommandTable
import Interpolation.Executor
import Interpolation.Shell
import Interpolation.Text.Blank

/-!
# Commands from shell lines

A command of a table is answered by what its line prints, without the blanks around it. A line that
ends with a failure fails the command, with the way it ended and what it complained about. Values
that are given for some commands come first, so their lines are never run.
-/

namespace Interpolation

namespace Shell

def Finished.reply (finished : Finished) (id : Text) : Reply :=
  match finished.ending with
  | .exit 0 => .ok (some (.text (Text.trim (Octets.toText finished.output))))
  | ending =>
    let complaint := Text.trim (Octets.toText finished.errors)
    .error (.failed id (Text.trimEnd (ending.toText ++ ' ' :: complaint)))

def replyOf (id : Text) : Except Text Finished → Reply
  | .ok finished => finished.reply id
  | .error why => .error (.failed id why)

end Shell

namespace Executor

variable {σ : Type}

/-- Runs lines: each comes to what the shell leaves, or to why there is no shell, and to a next
state. -/
abbrev Lines (σ : Type) := Text → σ → Except Text Shell.Finished × σ

def lines (run : Lines σ) (table : CommandTable) : Executor σ where
  call s id :=
    match table.lines.lookup id with
    | some line =>
      let (finished, s) := run line s
      (Shell.replyOf id finished, s)
    | Option.none => (.error (.notFound id), s)
  delay s id :=
    match table.lines.lookup id with
    | some line =>
      match (run line s).1 with
      | .ok finished => finished.elapsed
      | .error _ => 0
    | Option.none => 0
  notices id := (table.lines.lookup id).toList.map fun line => .runningLine id line

def preferring (values : Table Value) (next : Executor σ) : Executor σ where
  call s id :=
    match values.lookup id with
    | some v => (.ok (some v), s)
    | Option.none => next.call s id
  delay s id := if (values.lookup id).isSome then 0 else next.delay s id
  notices id := if (values.lookup id).isSome then [] else next.notices id

end Executor

end Interpolation
