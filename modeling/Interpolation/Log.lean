import Interpolation.Event
import Interpolation.Log.Pattern
import Interpolation.Text.Blank
import Interpolation.Text.Letter

/-!
# Log filters

A filter is a list of directives. A directive may name a source, and then it is about the sources
that begin with that name; it may name fields, and then it is about the events that have all of
them; and it gives the rank up to which it shows events. Of the directives that are about an event
the most specific one counts: the one with the longest source, then the one with the most fields.
Without any directive a log shows errors only.
-/

namespace Interpolation.Log

/-- Up to which rank the events of some sources with some fields are shown. -/
structure Directive where
  source : Option Text := none
  fields : List Text := []
  threshold : Nat
  deriving DecidableEq, Repr

/-- A filter is the list of its directives. -/
abbrev Filter := List Directive

/-! ## Reading directives -/

def thresholds : List (String × Nat) :=
  [("off", 0), ("error", 1), ("warn", 2), ("info", 3), ("debug", 4), ("trace", 5)]

/-- The rank that a word stands for: a name in any case, or a number. -/
def threshold? (t : Text) : Option Nat :=
  let digits := match t with
    | '+' :: digits => digits
    | digits => digits
  match Text.digits? digits with
  | some n => if n ≤ Level.trace.rank then some n else none
  | none =>
    (thresholds.find? fun (name, _) => name.toList == t.map Char.toLower).map Prod.snd

def begins (c : Char) : Bool :=
  Letter.isAlphanumeric c || c == '-' || c == ':' || c == '_' || c == '['

structure Demands where
  span : Option Text := none
  fields : List (Text × Option Text) := []

def Demands.skipEvents (d : Demands) : Bool :=
  d.span.isSome || d.fields.any fun (_, pattern) => pattern.isSome

def field? (t : Text) : Option (Text × Option Text) :=
  match t.splitOn '=' with
  | name :: pattern :: _ => if Pattern.isWellFormed pattern then some (name, some pattern) else none
  | _ => if t.isEmpty then none else some (t, none)

def cut? (t : Text) (start stop : Nat) : Option Text := do
  let (_, rest) ← Text.splitAt? start t
  let (part, _) ← Text.splitAt? (stop - start) rest
  some part

def demands? (whole : Text) (start : Nat) (t : Text) : Option (Demands × Text) := do
  let name := t.takeWhile fun c => c != ']' && c != '\x7b'
  let stop := start + Text.byteLength name
  let span ← cut? whole start stop
  match t.drop name.length with
  | ']' :: rest => some ({ span := some span }, rest)
  | '\x7b' :: rest => do
    let inner := rest.takeWhile (· != '\x7d')
    let field ← cut? whole (stop + 1) (stop + 1 + Text.byteLength inner)
    let field ← field? field
    match rest.drop inner.length with
    | '\x7d' :: ']' :: rest =>
      some ({ span := if name.isEmpty then none else some span, fields := [field] }, rest)
    | _ => none
  | _ => none

structure Written where
  source : Option Text := none
  demands : Option Demands := none
  threshold : Nat := Level.trace.rank

/-- The directive that a text writes. The parts are told apart without the blanks around the text,
but each is cut out of the text with its blanks, at the same distance from the beginning. -/
def Written.read? (t : Text) : Option Written := do
  let bare := Text.trim t
  let first ← bare.head?
  if !begins first then none
  let name := bare.takeWhile fun c => c != '=' && c != '['
  let length := Text.byteLength name
  let rest := bare.drop name.length
  if rest.isEmpty then
    match threshold? t with
    | some threshold => some { threshold }
    | none => some { source := some t }
  else do
    let source ← if name.isEmpty then some none else (cut? t 0 length).map some
    let (demands, rest) ← match rest with
      | '[' :: rest => (demands? t (length + 1) rest).map fun (d, rest) => (some d, rest)
      | rest => some (none, rest)
    match rest with
    | '=' :: level =>
      let (_, level) ← Text.splitAt? (Text.byteLength bare - Text.byteLength level) t
      let threshold ← if level.isEmpty then some Level.trace.rank else threshold? level
      some { source, demands, threshold }
    | [] => some { source, demands }
    | _ => none

def Written.directive? (w : Written) : Option Directive :=
  match w.demands with
  | none => some { source := w.source, threshold := w.threshold }
  | some d =>
    if d.skipEvents then none
    else some { source := w.source, fields := d.fields.map Prod.fst, threshold := w.threshold }

def Filter.read? (t : Text) : Option Filter :=
  (((t.splitOn ',').filter fun part => !part.isEmpty).mapM Written.read?).map fun written =>
    if written.isEmpty then [{ threshold := Level.error.rank }]
    else written.filterMap Written.directive?

/-! ## Filtering -/

def Directive.isAbout (d : Directive) (e : Event) : Bool :=
  (d.source.all fun source => source.isPrefixOf e.source.toList) &&
    d.fields.all fun name => ("message" :: e.fields.map Prod.fst).any fun n => n.toList == name

def Directive.weight (d : Directive) : Nat × Nat :=
  ((d.source.map fun source => Text.byteLength source + 1).getD 0, d.fields.length)

/-- Whether a directive counts before another one that is about the same event. Of two that are as
specific, the fields later in the alphabet count. -/
def Directive.outranks (d e : Directive) : Bool :=
  e.weight.1 < d.weight.1 || (d.weight.1 == e.weight.1 &&
    (e.weight.2 < d.weight.2 || (d.weight.2 == e.weight.2 && decide (e.fields < d.fields))))

/-- Up to which rank a filter shows an event. Of two directives alike the later one counts. -/
def Filter.threshold (filter : Filter) (e : Event) : Nat :=
  let best := (filter.filter fun d => d.isAbout e).foldl (fun (best : Option Directive) d =>
    match best with
    | none => some d
    | some b => if b.outranks d then best else some d) none
  (best.map Directive.threshold).getD 0

/-- Whether a filter shows an event. -/
def Filter.shows (filter : Filter) (e : Event) : Bool :=
  e.level.rank ≤ filter.threshold e

def Filter.lines (filter : Filter) (events : List Event) : List Text :=
  (events.filter filter.shows).flatMap Event.lines

def Filter.upTo (level : Level) : Filter :=
  [{ threshold := level.rank }]

/-- The filter that a host asks for: warnings unless it writes another one that can be read. A
verbose program shows all that helps to find a fault. -/
def Filter.choose (isVerbose : Bool) (wanted : Option Text) : Filter :=
  if isVerbose then .upTo .debug else (wanted.bind Filter.read?).getD (.upTo .warn)

end Interpolation.Log
