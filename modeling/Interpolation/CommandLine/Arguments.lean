import Interpolation.Resolution

/-!
# Arguments of the command line

The arguments are read from left to right. The first that is wrong, or that asks for help, stops the
reading; so `--help` behind a mistake comes too late. An option that takes a value never takes one
that looks like an option, unless it is attached with `=`.
-/

namespace Interpolation.CommandLine

/-- Why there is nothing to run: the arguments are wrong, or they ask for information alone. -/
inductive Stop where
  | usage
  | information
  deriving DecidableEq, Repr

def Stop.exitCode : Stop → Nat
  | usage => 2
  | information => 0

inductive Key where
  | verbose
  | help
  | version
  | json
  | recursive
  | workspace
  | file
  | line
  | selection
  | config
  | commands
  | command
  | maxDepth
  | maxCommands
  | timeout
  deriving DecidableEq, Repr

/-- The number that a text writes: digits, behind a plus sign or not. -/
def number? : Text → Option Nat
  | '+' :: t => Text.digits? t
  | t => Text.digits? t

def isNumber (least bound : Nat) (t : Text) : Bool :=
  match number? t with
  | some n => least ≤ n && n < bound
  | none => false

namespace Key

def long : Key → String
  | verbose => "verbose"
  | help => "help"
  | version => "version"
  | json => "json"
  | recursive => "recursive"
  | workspace => "workspace"
  | file => "file"
  | line => "line"
  | selection => "selection"
  | config => "config"
  | commands => "commands"
  | command => "command"
  | maxDepth => "max-depth"
  | maxCommands => "max-commands"
  | timeout => "timeout-ms"

def short? : Key → Option Char
  | verbose => some 'v'
  | help => some 'h'
  | version => some 'V'
  | recursive => some 'r'
  | workspace => some 'w'
  | file => some 'f'
  | config => some 'c'
  | _ => none

def takesValue : Key → Bool
  | verbose | help | version | json | recursive => false
  | _ => true

def isRepeatable : Key → Bool
  | workspace | command => true
  | _ => false

def accepts : Key → Text → Bool
  | file, t | config, t | commands, t => !t.isEmpty
  | line, t => isNumber 1 (Nat.pow 2 32) t
  | maxDepth, t | maxCommands, t | timeout, t => isNumber 0 (Nat.pow 2 64) t
  | _, _ => true

end Key

inductive Subcommand where
  | resolve
  | scan
  | tokens
  deriving DecidableEq, Repr

namespace Subcommand

def name : Subcommand → String
  | resolve => "resolve"
  | scan => "scan"
  | tokens => "tokens"

def ofName? (t : Text) : Option Subcommand :=
  [resolve, scan, tokens].find? fun c => c.name.toList == t

def keys : Subcommand → List Key
  | resolve => [.verbose, .help, .json, .recursive, .workspace, .file, .line, .selection, .config,
      .commands, .command, .maxDepth, .maxCommands, .timeout]
  | scan => [.verbose, .help, .json]
  | tokens => [.verbose, .help]

def takesTemplate : Subcommand → Bool
  | tokens => false
  | _ => true

end Subcommand

def outerKeys : List Key :=
  [.verbose, .help, .version]

/-- What has been read so far: the options in order, and the template. -/
structure Draft where
  given : List (Key × Text) := []
  template : Option Text := none

namespace Draft

def value? (d : Draft) (key : Key) : Option Text :=
  d.given.lookup key

def has (d : Draft) (key : Key) : Bool :=
  (d.value? key).isSome

def values (d : Draft) (key : Key) : List Text :=
  d.given.filterMap fun (k, value) => if k = key then some value else none

def number? (d : Draft) (key : Key) : Option Nat :=
  (d.value? key).bind CommandLine.number?

def give (d : Draft) (key : Key) (value : Text) : Except Stop Draft :=
  if key = .help || key = .version then .error .information
  else if (d.has key && !key.isRepeatable) || !key.accepts value then .error .usage
  else .ok { d with given := d.given ++ [(key, value)] }

def giveTemplate (d : Draft) (takesTemplate : Bool) (t : Text) : Except Stop Draft :=
  if takesTemplate && d.template.isNone then .ok { d with template := some t } else .error .usage

end Draft

/-- Read a long option behind its two dashes: the option that waits for its value, if one does. -/
def takeLong (keys : List Key) (d : Draft) (body : Text) : Except Stop (Draft × Option Key) :=
  let (name, attached) := match Text.cutFirst '=' body with
    | some (name, value) => (name, some value)
    | none => (body, none)
  match keys.find? fun key => key.long.toList == name, attached with
  | none, _ => .error .usage
  | some key, some value =>
    if key.takesValue then (d.give key value).map fun d => (d, none) else .error .usage
  | some key, none =>
    if key.takesValue then .ok (d, some key) else (d.give key []).map fun d => (d, none)

/-- Read the letters of short options behind their dash: the option that waits for its value, if one
does. The letters behind an option that takes a value are its value. -/
def takeLetters (keys : List Key) : Draft → Text → Except Stop (Draft × Option Key)
  | d, [] => .ok (d, none)
  | d, c :: rest =>
    match keys.find? fun key => key.short? == some c with
    | none => .error .usage
    | some key =>
      if key.takesValue then
        match rest with
        | [] => .ok (d, some key)
        | '=' :: value => (d.give key value).map fun d => (d, none)
        | value => (d.give key value).map fun d => (d, none)
      else (d.give key []).bind fun d => takeLetters keys d rest

def isOption : Text → Bool
  | '-' :: _ :: _ => true
  | _ => false

def takeOption (keys : List Key) (d : Draft) (word : Text) : Except Stop (Draft × Option Key) :=
  match word with
  | '-' :: '-' :: body => takeLong keys d body
  | _ => takeLetters keys d word.tail

/-- Read the words behind a command. An option may be waiting for its value. -/
def takeWords (command : Subcommand) : Option Key → Draft → List Text → Except Stop Draft
  | none, d, [] => .ok d
  | some _, _, [] => .error .usage
  | some key, d, word :: rest =>
    if isOption word then .error .usage
    else (d.give key word).bind fun d => takeWords command none d rest
  | none, d, word :: rest =>
    if word = ['-', '-'] then rest.foldlM (fun d t => d.giveTemplate command.takesTemplate t) d
    else if isOption word then
      match takeOption command.keys d word with
      | .ok (d, waiting) => takeWords command waiting d rest
      | .error stop => .error stop
    else
      (d.giveTemplate command.takesTemplate word).bind fun d => takeWords command none d rest

/-- What a resolution from the command line asks for. -/
structure ResolveArguments where
  template : Text
  options : Options := {}
  workspaces : List Text := []
  file : Option Text := none
  line : Option Nat := none
  selection : Option Text := none
  config : Option Text := none
  commands : Option Text := none
  fixed : List Text := []
  json : Bool := false

inductive Request where
  | resolve (arguments : ResolveArguments)
  | scan (template : Text) (json : Bool)
  | tokens

structure Invocation where
  isVerbose : Bool
  request : Request

/-- The arguments of a resolution. The settings file may be named by the environment. -/
def Draft.toResolveArguments (d : Draft) (template : Text) (config : Option Text) :
    ResolveArguments where
  template
  options :=
    { recursive := d.has .recursive
      maxDepth := (d.number? .maxDepth).getD ({} : Options).maxDepth
      maxCommands := (d.number? .maxCommands).getD ({} : Options).maxCommands
      timeout := (d.number? .timeout).map (· * Duration.millisecond) }
  workspaces := d.values .workspace
  file := d.value? .file
  line := d.number? .line
  selection := d.value? .selection
  config := (d.value? .config).or config
  commands := d.value? .commands
  fixed := d.values .command
  json := d.has .json

/-- The request of a command that has been read. A settings file that the environment names has to
be acceptable, if it is needed. -/
def Draft.toRequest (config : Option Text) (d : Draft) : Subcommand → Except Stop Request
  | .tokens => .ok .tokens
  | .scan =>
    match d.template with
    | some template => .ok (.scan template (d.has .json))
    | none => .error .usage
  | .resolve =>
    match d.template with
    | some template =>
      if d.has .config || config.all (Key.accepts .config) then
        .ok (.resolve (d.toResolveArguments template config))
      else .error .usage
    | none => .error .usage

def helpStop : List Text → Stop
  | [] => .information
  | [name] =>
    if (Subcommand.ofName? name).isSome || name = "help".toList then .information else .usage
  | _ => .usage

def takeOuter (config : Option Text) : Draft → List Text → Except Stop Invocation
  | _, [] => .error .usage
  | outer, word :: rest =>
    if isOption word then
      match takeOption outerKeys outer word with
      | .ok (outer, _) => takeOuter config outer rest
      | .error stop => .error stop
    else
      match Subcommand.ofName? word with
      | none => .error (if word = "help".toList then helpStop rest else .usage)
      | some command => do
        let inner ← takeWords command none {} rest
        let request ← inner.toRequest config command
        .ok ⟨outer.has .verbose || inner.has .verbose, request⟩

def Invocation.ofArguments (config : Option Text) (arguments : List Text) :
    Except Stop Invocation :=
  takeOuter config {} arguments

end Interpolation.CommandLine
