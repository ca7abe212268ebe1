import Interpolation.Shell.Builtin
import Interpolation.Shell.Redirection

/-!
# Running commands

A command runs on a machine. Commands inside it are run by the first argument, so that each rule
here says what one kind of command does with its parts.
-/

namespace Interpolation.Shell.Execution

def substitute (run : Runner) (body : Command) : Exec Octets := do
  match body with
  | .nothing => return []
  | _ =>
    let (output, status) ← Exec.captured run (run (.command body false))
    Exec.change fun p => { p with substituted := status }
    return output

def checkFailure (isTested : Bool) : Exec Unit := do
  let p ← Exec.ask id
  if !isTested && p.status != 0 && p.options.contains 'e' then throw .exit

def withStreams {α : Type} (run : Exec α) : Exec α := do
  let streams ← Exec.ask Process.streams
  Exec.eventually run (Exec.change fun p => { p with streams })

/-! ### Simple commands -/

structure Call where
  words : List Octets
  withFunctions : Bool := true
  path : Option Octets := none
  isShielded : Bool := false

def peel : Nat → Call → Call
  | 0, call => call
  | n + 1, call =>
    match call.words with
    | name :: rest =>
      if name != "command".toList then call
      else
        let options := rest.takeWhile fun w =>
          match w with
          | '-' :: letters => !letters.isEmpty && letters.all (· == 'p')
          | _ => false
        let path := if options.isEmpty then call.path else some Lookup.usualPath
        match rest.drop options.length with
        | ['-', '-'] :: next :: words =>
          peel n { words := next :: words, withFunctions := false, path, isShielded := true }
        | ('-' :: _ :: _) :: _ | [] => call
        | words => peel n { words, withFunctions := false, path, isShielded := true }
    | [] => call

def firstFields (run : Runner) : List Word → Exec (List Octets × List Word)
  | [] => return ([], [])
  | w :: rest => do
    match ← Expansion.fields (substitute run) w with
    | [] => firstFields run rest
    | fields => return (fields, rest)

def mayAssign (name : Octets) (rest : List Word) : Bool :=
  let next := (rest.filterMap Word.text?).find? fun w => w.head? != some '-'
  Lookup.takesAssignments name ||
    (name == "command".toList && next.any fun w => Lookup.takesAssignments w)

def expandWords (run : Runner) (words : List Word) : Exec (List Octets) := do
  let (first, rest) ← firstFields run words
  match first with
  | [] => return []
  | name :: _ =>
    let isFunction := ((← Exec.ask Process.functions).lookup name).isSome
    let assigns := !isFunction && mayAssign name rest
    let others ← rest.mapM fun w => do
      if assigns && (Word.assigned? w).isSome then
        return [← Expansion.text (substitute run) { hasHomes := true } w]
      else Expansion.fields (substitute run) w
    return first ++ others.flatten

def assignAll (run : Runner) (exports : Bool) (assignments : List Word) : Exec (List Octets) :=
  assignments.mapM fun w => do
    let name := (Word.assigned? w).getD []
    let value ← Expansion.text (substitute run) { hasHome := true, hasHomes := true }
      (Word.behindEquals w)
    Exec.assign name (some value) exports
    return name ++ '=' :: value

def trace (streams : List (Nat × Nat)) (words : List Octets) : Exec Unit := do
  if ← Exec.hasOption 'x' then
    let sign := ((← Exec.value? "PS4".toList)).getD []
    withStreams do
      Exec.change fun p => { p with streams }
      Exec.complainLine (sign ++ Octets.spaced words)

def runBuiltin (run : Runner) (name : Octets) (arguments : List Octets) (mayFail : Bool) :
    Exec Unit := do
  match Builtin.find? name with
  | none => Exec.setStatus 127
  | some utility =>
    let outer ← Exec.ask Process.utility
    let line ← Exec.ask Process.line
    Exec.change fun p => { p with utility := some name, lost := none }
    let result ← Exec.attempt do
      let status ← utility run arguments
      Exec.setStatus status
      if (← Exec.ask Process.lost).isSome then
        Exec.change fun p => { p with line }
        Exec.complain (name ++ ": I/O error".toList)
        Exec.setStatus (status ||| 1)
    Exec.change fun p => { p with utility := outer, lost := none }
    match result with
    | .error .failed => if mayFail then return else throw .failed
    | result => Exec.resume result

def runFunction (run : Runner) (body : Command) (arguments : List Octets) (isTested : Bool) :
    Exec Unit := do
  let here ← Exec.ask id
  if most ≤ here.calls then
    Exec.fail ("Maximum function recursion depth (".toList ++ Text.ofNat most ++
      ") reached".toList)
  Exec.change fun p =>
    { p with
      positional := arguments, optionIndex := 1, optionPlace := 0, loops := 0
      calls := p.calls + 1, locals := [] :: p.locals }
  let result ← Exec.attempt (run (.command body isTested))
  let saved := ((← Exec.ask Process.locals).head?).getD []
  for entry in saved do Exec.restore entry
  Exec.change fun p =>
    { p with
      positional := here.positional, optionIndex := here.optionIndex
      optionPlace := here.optionPlace, loops := here.loops, calls := here.calls
      locals := here.locals }
  match result with
  | .ok () | .error .returned => return
  | .error stop => throw stop
where
  most : Nat := 1000

def runOutside (run : Runner) (path : Octets) (words : List Octets) : Exec Unit := do
  let here ← Exec.ask id
  Exec.change fun p => { p with lost := none, lastSignal := none }
  let result ← Exec.attempt (run (.utility path words))
  let after ← Exec.ask id
  Exec.change fun _ => { here with status := after.status, lastSignal := after.lastSignal }
  Exec.resume result

def remember (name path : Octets) : Exec Unit :=
  Exec.change fun p => { p with remembered := Exec.update name (fun _ => path) p.remembered }

def runCall (run : Runner) (call : Call) (found : Found) (isTested : Bool) : Exec Unit := do
  let arguments := call.words.tail
  let name := call.words.head?.getD []
  match found with
  | .function body => runFunction run body arguments isTested
  | .special => runBuiltin run name arguments call.isShielded
  | .builtin => runBuiltin run name arguments true
  | .file path =>
    if !name.contains '/' then remember name path
    runOutside run path call.words
  | .nothing complaint =>
    Exec.complain (name ++ ": ".toList ++ complaint.toList)
    Exec.setStatus 127

def replaceShell (run : Runner) (words : List Octets) : Exec Unit := do
  let name := words.head?.getD []
  Exec.change fun p => { p with utility := some "exec".toList }
  match ← Exec.lookup false (← Exec.value? "PATH".toList) name with
  | .file path => start path
  | .nothing complaint => refuse name complaint
  | _ =>
    match ← Exec.search (← Exec.value? "PATH".toList) name with
    | .file path => start path
    | _ => refuse name "not found"
  throw .exit
where
  start (path : Octets) : Exec Unit := do
    let isFine := (← Exec.refusal? path).isNone
    runOutside run path words
    if isFine then Exec.change fun p => { p with traps := [] }
    Exec.change fun p => { p with utility := none }
  refuse (name : Octets) (complaint : String) : Exec Unit := do
    Exec.complain (name ++ ": ".toList ++ complaint.toList)
    Exec.setStatus 127
    Exec.change fun p => { p with utility := none }

def simple (run : Runner) (line : Nat) (assignments words : List Word)
    (redirections : List Redirection) (isTested : Bool) : Exec Unit := do
  Exec.change fun p => { p with line, substituted := 0, lastSignal := none }
  let call := peel words.length { words := ← expandWords run words }
  let name := call.words.head?.getD []
  let ownPath ← Exec.value? "PATH".toList
  let found ← Exec.lookup call.withFunctions (call.path.or ownPath) name
  let isSpecial := match found with
    | .special => !call.isShielded
    | _ => false
  let isExec := isSpecial && name == "exec".toList
  let stays := call.words.isEmpty || isSpecial
  let ready ← redirections.mapM (Redirect.prepare (substitute run))
  let here ← Exec.ask id
  let body : Exec Unit := do
    if !(← Redirect.applyAll (substitute run) ready) then
      Exec.setStatus 2
      if isSpecial then throw .failed else return
    let written ← assignAll run (!stays || (isExec && 1 < call.words.length)) assignments
    if !(written ++ call.words).isEmpty then trace here.streams (written ++ call.words)
    if call.words.isEmpty then Exec.setStatus (← Exec.ask Process.substituted)
    else if isExec && 1 < call.words.length then
      replaceShell run (Builtin.behindOptions call.words.tail)
    else if isExec then Exec.setStatus 0
    else
      let path ← Exec.value? "PATH".toList
      let found ← match found with
        | .file _ | .nothing _ => Exec.lookup false (call.path.or path) name
        | found => pure found
      runCall run call found isTested
  Exec.eventually body do
    if !isExec then Exec.change fun p => { p with streams := here.streams }
    if !stays then
      for w in assignments do
        let name := (Word.assigned? w).getD []
        Exec.restore (.variable name (here.bindings.lookup name))
  match ← Exec.ask Process.lastSignal with
  | some signal =>
    Exec.change fun p => { p with lastSignal := none }
    Exec.reportSignal signal
  | none => return

/-! ### Compound commands -/

def rememberUtility (c : Command) : Exec Unit := do
  match c with
  | .simple _ _ (w :: _) _ =>
    match Word.text? w with
    | none => return
    | some name =>
      if !Octets.isName name then return
      match ← Exec.lookup true (← Exec.value? "PATH".toList) name with
      | .file path => remember name path
      | _ => return
  | _ => return

structure Progress where
  pipes : List Nat := []
  input : Option Nat := none
  ended : Duration
  outer : Option Nat := none

def markCut (key : Nat) : Exec Unit := do
  match ← Exec.opened? key with
  | some { target := .pipe p, isReadable, isWritable } =>
    let opened : Opened := { target := .pipe p, isReadable, isWritable }
    Exec.setTarget key opened (.pipe { p with isCut := true })
  | _ => return

def isCut (key : Nat) : Exec Bool := do
  match ← Exec.opened? key with
  | some { target := .pipe p, .. } => return p.isCut
  | _ => return false

def stage (run : Runner) (isTested : Bool) (start : Duration) (progress : Progress)
    (entry : Command × Bool) : Exec Progress := do
  let (c, isLast) := entry
  let output ←
    if isLast then pure none
    else do
      let allowance := some (← Exec.observe World.allowance)
      let key ← Exec.openTarget { target := .pipe { allowance } }
      pure (some key)
  Exec.affect fun w => { w with elapsed := start }
  let result ← Exec.attempt do
    let status ← Exec.forked run do
      if let some key := progress.input then Exec.connect 0 key
      if let some key := output then Exec.connect 1 key
      run (.command c isTested)
    Exec.setStatus status
  let now ← Exec.observe World.elapsed
  let next := { progress with pipes := output.toList ++ progress.pipes, input := output }
  match result, output with
  | .error (.starved key), some output =>
    markCut output
    let outer := if progress.pipes.contains key then progress.outer else some key
    return { next with outer }
  | .error stop, _ => throw stop
  | .ok (), some output =>
    return if ← isCut output then next else { next with ended := max progress.ended now }
  | .ok (), none => return { next with ended := max progress.ended now }

def extensions : Nat :=
  3

def pipeline (run : Runner) (commands : List Command) (isTested : Bool) : Exec Unit := do
  for c in commands do rememberUtility c
  let entries := commands.zipIdx.map fun (c, i) => (c, i + 1 == commands.length)
  let before ← get
  let start := before.world.elapsed
  let rec attempts (allowance : Nat) : Nat → Exec Unit
    | 0 => throw .endless
    | n + 1 => do
      set before
      Exec.affect fun w => { w with allowance }
      let step (progress : Progress) (entry : Command × Bool) : Exec Progress := do
        match ← Exec.attempt (stage run isTested start progress entry) with
        | .error (.starved key) =>
          if progress.pipes.contains key && progress.outer.isNone then throw (.starved key)
          else throw (.starved (progress.outer.getD key))
        | result => Exec.resume result
      let first := (← Exec.observe World.opened).size
      match ← Exec.attempt (entries.foldlM step { ended := start }) with
      | .error (.starved key) =>
        if first ≤ key then attempts (8 * allowance) n else throw (.starved key)
      | .error stop => throw stop
      | .ok progress => Exec.affect fun w => { w with elapsed := progress.ended }
  Exec.eventually (attempts before.world.allowance (extensions + 1)) do
    Exec.affect fun w => { w with allowance := before.world.allowance }

def turn (body : Exec Unit) : Exec Bool := do
  match ← Exec.attempt body with
  | .ok () => return true
  | .error (.broken n) => if n ≤ 1 then return false else throw (.broken (n - 1))
  | .error (.continued n) => if n ≤ 1 then return true else throw (.continued (n - 1))
  | .error stop => throw stop

def insideLoop {α : Type} (body : Exec α) : Exec α := do
  let loops ← Exec.ask Process.loops
  Exec.change fun p => { p with loops := loops + 1 }
  Exec.eventually body (Exec.change fun p => { p with loops })

def loop (run : Runner) (isUntil : Bool) (test body : Command) (isTested : Bool) : Exec Unit :=
  insideLoop do
    let last ← Exec.loop (fun (status : Nat) => do
      let mut isDone := true
      let goesOn ← turn (run (.command test true))
      let tested ← Exec.ask Process.status
      if !goesOn then return .inr 0
      isDone := (tested == 0) == isUntil
      if isDone then return .inr status
      if ← turn (run (.command body isTested)) then return .inl (← Exec.ask Process.status)
      else return .inr (← Exec.ask Process.status)) 0
    Exec.setStatus last

def each (run : Runner) (line : Nat) (name : Octets) (words : List Word) (body : Command)
    (isTested : Bool) : Exec Unit := do
  Exec.change fun p => { p with line }
  let values := (← words.mapM (Expansion.fields (substitute run))).flatten
  Exec.setStatus 0
  insideLoop do
    Exec.loop (fun (values : List Octets) => do
      match values with
      | [] => return .inr ()
      | value :: rest =>
        Exec.setVariable name value
        if ← turn (run (.command body isTested)) then return .inl rest else return .inr ()) values

def choice (run : Runner) (line : Nat) (subject : Word) (cases : List (List Word × Command))
    (isTested : Bool) : Exec Unit := do
  Exec.change fun p => { p with line, substituted := 0 }
  let text ← Expansion.text (substitute run) { hasHome := true } subject
  let matching (patterns : List Word) : Exec Bool :=
    patterns.anyM fun w => do
      return Pattern.isMatch (← Expansion.pattern (substitute run) w) text
  let found ← cases.findM? fun (patterns, _) => matching patterns
  match found with
  | some (_, .nothing) | none => Exec.setStatus 0
  | some (_, body) => run (.command body isTested)

def act (run : Runner) (c : Command) (isTested : Bool) : Exec Unit := do
  Exec.change fun p => { p with isTested }
  let again (c : Command) (isTested : Bool) : Exec Unit := run (.command c isTested)
  match c with
  | .nothing => return
  | .simple line assignments words redirections =>
    simple run line assignments words redirections isTested
    checkFailure isTested
  | .pipeline commands =>
    pipeline run commands isTested
    checkFailure isTested
  | .background _ body =>
    let _ ← Exec.start body
    Exec.setStatus 0
  | .redirected line body redirections =>
    Exec.change fun p => { p with line }
    let ready ← redirections.mapM (Redirect.prepare (substitute run))
    withStreams do
      if ← Redirect.applyAll (substitute run) ready then again body isTested else Exec.setStatus 2
  | .subshell line body redirections =>
    Exec.change fun p => { p with line }
    let ready ← redirections.mapM (Redirect.prepare (substitute run))
    let status ← Exec.forked run do
      if ← Redirect.applyAll (substitute run) ready then again body isTested else Exec.setStatus 2
    Exec.setStatus status
    checkFailure isTested
  | .negated body =>
    again body true
    Exec.change fun p => { p with status := if p.status = 0 then 1 else 0 }
  | .sequence first second =>
    again first isTested
    again second isTested
  | .andThen first second =>
    again first true
    if (← Exec.ask Process.status) = 0 then again second isTested
  | .orElse first second =>
    again first true
    if (← Exec.ask Process.status) != 0 then again second isTested
  | .conditional test body otherwise =>
    again test true
    if (← Exec.ask Process.status) = 0 then again body isTested
    else
      match otherwise with
      | .nothing => Exec.setStatus 0
      | _ => again otherwise isTested
  | .loop isUntil test body => loop run isUntil test body isTested
  | .each line name words body => each run line name words body isTested
  | .choice line subject cases => choice run line subject cases isTested
  | .function _ name body =>
    Exec.change fun p => { p with functions := Exec.update name (fun _ => body) p.functions }
    Exec.setStatus 0

def command (run : Runner) (c : Command) (isTested : Bool) : Exec Unit := do
  if !(← Exec.hasOption 'n') then act run c isTested
  Exec.runTraps run

/-- Run the lines of a text one after the other. Each is read when those before it have run. -/
def text (run : Runner) (t : Octets) (isTested : Bool) : Exec Unit := do
  let line ← Exec.ask Process.line
  let readLine ← Exec.ask Process.readLine
  let hasRun ← Exec.loop (fun ((source, hasRun) : Source × Bool) => do
    let m ← get
    let source := { source with
      aliases := m.process.aliases, nextDocument := m.world.nextDocument, documents := [] }
    let (result, source) := Parse.commandLine.run source
    Exec.change fun p => { p with readLine := source.line }
    match result with
    | .error (.malformed complaint) =>
      Exec.change fun p => { p with line := source.line }
      Exec.fail complaint
    | .error .endless => throw .endless
    | .ok none => return .inr hasRun
    | .ok (some c) =>
      Exec.affect fun w =>
        { w with
          documents := source.documents ++ w.documents, nextDocument := source.nextDocument }
      match c with
      | .nothing => return .inl (source, hasRun)
      | _ =>
        run (.command c isTested)
        return .inl (source, true)) ({ rest := t }, false)
  Exec.change fun p => { p with readLine }
  if !hasRun then
    Exec.setStatus 0
    Exec.change fun p => { p with line }

end Interpolation.Shell.Execution
