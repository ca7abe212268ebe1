import Interpolation.Command
import Interpolation.Duration
import Interpolation.NormalPath
import Interpolation.Placeholder
import Interpolation.Text.Quoted

/-!
# Events

What happens while a template is resolved is told as a list of events. Each has a level and a
source, by which the log is filtered, and one line of text.
-/

namespace Interpolation

/-- How much an event matters. -/
inductive Level where
  | error
  | warn
  | info
  | debug
  | trace
  deriving DecidableEq, Repr

namespace Level

/-- The levels by number; a log at a level shows the levels up to its number. -/
def rank : Level → Nat
  | error => 1
  | warn => 2
  | info => 3
  | debug => 4
  | trace => 5

def name : Level → String
  | error => "ERROR"
  | warn => "WARN"
  | info => "INFO"
  | debug => "DEBUG"
  | trace => "TRACE"

end Level

/-- What can be told of a resolution and of what surrounds it. -/
inductive Event where
  | passStarted (pass bytes : Nat)
  | substituted (p : Placeholder)
  | invoking (id : Text)
  | commandFailed (id : Text) (error : CommandError)
  | completed (passes commands : Nat)
  | timedOut (timeout : Duration)
  | loadingSettings (path : NormalPath)
  | readingFile (path : NormalPath) (format : String)
  | runningLine (id line : Text)
  deriving DecidableEq, Repr

namespace Event

def level : Event → Level
  | commandFailed .. | timedOut _ => .warn
  | substituted _ => .trace
  | _ => .debug

def source : Event → String
  | passStarted .. | completed .. | timedOut _ => "vars_core::resolver"
  | substituted _ => "vars_core::engine"
  | invoking _ | commandFailed .. => "vars_core::command"
  | readingFile .. => "vars_context::config"
  | loadingSettings _ => "vars::context"
  | runningLine .. => "vars::shell"

def message : Event → String
  | passStarted .. => "Starting substitution pass"
  | substituted _ => "Substituted placeholder"
  | invoking _ => "Invoking command"
  | commandFailed .. => "Command failed, substituting empty text"
  | completed .. => "Resolution complete"
  | timedOut _ => "Resolution timed out"
  | loadingSettings _ => "Loading settings"
  | readingFile .. => "Loading config file"
  | runningLine .. => "Running shell command"

def fields : Event → List (String × Text)
  | passStarted pass bytes => [("pass", Text.ofNat pass), ("len", Text.ofNat bytes)]
  | substituted p => [("token", p.display)]
  | invoking id => [("command", id)]
  | commandFailed id error => [("command", id), ("error", error.message)]
  | completed passes commands =>
    [("passes", Text.ofNat passes), ("commands", Text.ofNat commands)]
  | timedOut timeout => [("timeout", timeout.toText)]
  | loadingSettings path => [("path", path.text)]
  | readingFile path format => [("path", path.text), ("format", Quoted.encode format.toList)]
  | runningLine id line => [("command", id), ("line", Quoted.encode line)]

/-- The entry of an event in the log. A particular may hold line ends of its own. -/
def entry (e : Event) : Text :=
  e.level.name.toList ++ ' ' :: e.source.toList ++ ':' :: ' ' :: e.message.toList ++
    e.fields.flatMap fun (name, value) => ' ' :: name.toList ++ '=' :: value

def lines (e : Event) : List Text :=
  Text.lines (e.entry ++ ['\n'])

end Event

end Interpolation
