import Interpolation.Shell.Startup
import Interpolation.Shell.Utility.Printing

/-!
# Utilities that run other commands

These utilities run a command in another environment, with arguments from the input, within some
time, or in another shell.
-/

namespace Interpolation.Shell.Utility

/-- A shell. -/
def shell : Utility := fun run arguments => do
  Exec.runShell run arguments
  Exec.ask Process.status

def cutEntries : List Octets → List (Octets × Octets) × List Octets
  | [] => ([], [])
  | w :: rest =>
    match Text.cutFirst '=' w with
    | some entry =>
      let (entries, rest) := cutEntries rest
      (entry :: entries, rest)
    | none => ([], w :: rest)

def env : Utility :=
  let known : Known :=
    { name := "env", letters := "i0u:C:S:v", anywhere := false, wrong := 125
      words := [("ignore-environment", 'i'), ("null", '0'), ("unset", 'u'), ("chdir", 'C'),
        ("split-string", 'S')] }
  withOptions known fun run found operands => do
    let split := ((found.filter fun (c, _) => c == 'S').flatMap fun (_, a) =>
      a.splitOnP Octets.isBlank).filter fun w => !w.isEmpty
    let operands := split ++ operands
    let (clears, operands) := match operands with
      | ['-'] :: rest => (true, rest)
      | rest => (has found 'i', rest)
    let start ← if clears then pure [] else Exec.environment
    let removed := found.filterMap fun (c, a) => if c == 'u' then some a else none
    let kept := start.filter fun (name, _) => !removed.contains name
    let (entries, words) := cutEntries operands
    let all := entries.foldl (fun all (name, value) => Exec.update name (fun _ => value) all) kept
    match words with
    | [] =>
      let last := if has found '0' then Char.ofNat 0 else '\n'
      for (name, value) in all do Exec.print (name ++ '=' :: value ++ [last])
      return 0
    | words =>
      if has found '0' then misuse known "cannot specify --null (-0) with command".toList
      else
        Exec.change fun p =>
          { p with bindings := all.map fun (name, value) => (name, Variable.ofValue true value) }
        match argument? found 'C' with
        | some folder => do
          match ← Exec.find? true folder with
          | .ok n =>
            let directory := (← Exec.observe World.volume).path n
            Exec.change fun p => { p with directory }
            call run "env" quote words
          | .error why =>
            complain "env" ("cannot change directory to ".toList ++ quote folder ++ ": ".toList ++
              why.message)
            return 125
        | none => call run "env" quote words

/-! ### Arguments from the input -/

structure Splitting where
  words : List Octets := []
  word : Option Octets := none
  quote : Option Char := none
  escapes : Bool := false
  lines : List (List Octets) := []

def Splitting.step (s : Splitting) (c : Char) : Splitting :=
  let add (c : Char) : Splitting :=
    { s with word := some (s.word.getD [] ++ [c]), escapes := false }
  match s.escapes, s.quote with
  | true, _ => add c
  | false, some q => if c == q then { s with quote := none } else add c
  | false, none =>
    if c == '\\' then { s with escapes := true, word := some (s.word.getD []) }
    else if c == '\'' || c == '"' then { s with quote := some c, word := some (s.word.getD []) }
    else if Octets.isBlank c then
      let words := s.words ++ s.word.toList
      if c == '\n' && !words.isEmpty then
        { s with words := [], word := none, lines := s.lines ++ [words] }
      else { s with words, word := none }
    else add c

def splitInput (text : Octets) : Except Octets (List (List Octets)) :=
  let s := text.foldl Splitting.step {}
  match s.quote with
  | some q =>
    let kind := if q == '\'' then "single" else "double"
    .error ("unmatched ".toList ++ kind.toList ++ " quote; by default quotes are special to ".toList
      ++ "xargs unless you use the -0 option".toList)
  | none =>
    let words := s.words ++ s.word.toList
    .ok (if words.isEmpty then s.lines else s.lines ++ [words])

def fillIn (mark text : Octets) : Octets → Nat → Octets
  | [], _ => []
  | _ :: rest, n + 1 => fillIn mark text rest n
  | c :: rest, 0 =>
    if !mark.isEmpty && mark.isPrefixOf (c :: rest) then
      text ++ fillIn mark text rest (mark.length - 1)
    else c :: fillIn mark text rest 0

def xargs : Utility :=
  let known : Known :=
    { name := "xargs", letters := "0d:n:I:L:rtP:a:xs:E:", anywhere := false
      words := [("null", '0'), ("delimiter", 'd'), ("max-args", 'n'), ("replace", 'I'),
        ("max-lines", 'L'), ("no-run-if-empty", 'r'), ("verbose", 't'), ("max-procs", 'P'),
        ("arg-file", 'a')] }
  withOptions known fun run found operands => do
    let command := if operands.isEmpty then ["echo".toList] else operands
    match ← content ((argument? found 'a').getD ['-']) with
    | .error why =>
      complain "xargs" ("cannot read: ".toList ++ why.message)
      return 1
    | .ok text =>
      let delimiter : Option Char :=
        if has found '0' then some (Char.ofNat 0)
        else (argument? found 'd').map delimiterOf
      let items : Except Octets (List (List Octets)) := match delimiter with
        | some d =>
          let pieces := text.splitOn d
          .ok ((if pieces.getLast? == some [] then pieces.dropLast else pieces).map fun w => [w])
        | none =>
          if has found 'I' then
            .ok (((Octets.lines text).map fun line =>
              [line.dropWhile Octets.isBlank]).filter (· != [[]]))
          else splitInput text
      match items with
      | .error complaint =>
        complain "xargs" complaint
        return 1
      | .ok lines =>
        let words := lines.flatten
        let number (c : Char) : Option Nat := (argument? found c).bind Octets.natural?
        let calls : List (List Octets) := match argument? found 'I', number 'L', number 'n' with
          | some mark, _, _ => lines.map fun line =>
              command.map fun w => fillIn mark line.flatten w 0
          | none, some n, _ =>
            (Octets.grouped (max n 1) lines.length lines).map fun g => command ++ g.flatten
          | none, none, some n =>
            (Octets.grouped (max n 1) words.length words).map fun g => command ++ g
          | none, none, none =>
            if words.isEmpty && has found 'r' then [] else [command ++ words]
        let here ← Exec.ask Process.streams
        Exec.connect 0 (← Exec.openTarget { target := .device .null })
        let mut status := 0
        let mut goesOn := true
        for words in calls do
          if goesOn then
            if has found 't' then Exec.complainLine (Octets.spaced words)
            let n ← call run "xargs" id words
            if n = 126 || n = 127 then
              status := n
              goesOn := false
            else if n = 255 then
              complain "xargs" (command.headD [] ++ ": exited with status 255; aborting".toList)
              status := 124
              goesOn := false
            else if n != 0 then status := 123
        Exec.change fun p => { p with streams := here }
        return status
where
  delimiterOf : Octets → Char
    | ['\\', 'n'] => '\n'
    | ['\\', 't'] => '\t'
    | ['\\', '0'] => Char.ofNat 0
    | c :: _ => c
    | [] => Char.ofNat 0

/-! ### Other circumstances -/

def which : Utility :=
  withOptions { name := "which", letters := "as", anywhere := false, wrong := 2 }
    fun _ found operands => do
      let path ← Exec.value? "PATH".toList
      let mut isFine := !operands.isEmpty
      for name in operands do
        let mut hits : List Octets := []
        for folder in if name.contains '/' then [[]] else Lookup.folders path do
          let candidate := if name.contains '/' then name else Lookup.inFolder folder name
          if (← Exec.refusal? candidate).isNone then hits := hits ++ [candidate]
        if hits.isEmpty then isFine := false
        for hit in if has found 'a' then hits else hits.take 1 do Exec.printLine hit
      return status isFine

def failedToRun (w : Octets) : Octets :=
  "failed to run command ".toList ++ quote w

def timeout : Utility :=
  let known : Known :=
    { name := "timeout", letters := "s:k:vf", anywhere := false, wrong := 125
      words := [("signal", 's'), ("kill-after", 'k'), ("preserve-status", 'p'),
        ("foreground", 'f'), ("verbose", 'v')] }
  withOptions known fun run found operands => do
    match operands with
    | limit :: word :: words =>
      match pause? limit with
      | none => misuse known ("invalid time interval ".toList ++ quote limit)
      | some limit =>
        let start ← Exec.observe World.elapsed
        let status ← call run "timeout" failedToRun (word :: words)
        if limit = 0 || (← Exec.observe World.elapsed) ≤ start + limit then return status
        Exec.affect fun w => { w with elapsed := start + limit }
        let kills := ((argument? found 's').bind Signal.number?) == some 9
        return if kills then 137 else 124
    | _ => do
      hint "timeout"
      return 125

def plainly (name : String) (letters : String) (about : Octets → Octets) (wrong : Nat)
    (empty : Exec Nat) : Utility :=
  withOptions { name, letters, anywhere := false, wrong } fun run _ operands =>
    if operands.isEmpty then empty else call run name about operands

def nohup : Utility :=
  plainly "nohup" "" failedToRun 125
    (misuse { name := "nohup", wrong := 125 } "missing operand".toList)

def nice : Utility :=
  plainly "nice" "n:" quote 125 do
    Exec.printLine ['0']
    return 0

def stdbuf : Utility :=
  let known : Known :=
    { name := "stdbuf", letters := "i:o:e:", anywhere := false, wrong := 125
      words := [("input", 'i'), ("output", 'o'), ("error", 'e')] }
  withOperands known "missing operand" fun run found operands =>
    if found.isEmpty then misuse known "you must specify a buffering mode option".toList
    else call run "stdbuf" failedToRun operands

def setsid : Utility :=
  plainly "setsid" "cfw" (fun w => "failed to execute ".toList ++ w) 1
    (misuse { name := "setsid" } "no command specified".toList)

end Interpolation.Shell.Utility
