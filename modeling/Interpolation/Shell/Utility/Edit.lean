import Interpolation.Shell.Utility.Edit.Script
import Interpolation.Shell.Utility.Columns

/-!
# Editing lines by a script

The script runs once for every line: the line is changed in the pattern space, and a second text,
the hold space, stays from line to line. What is printed goes to the output or into the file that
was read.
-/

namespace Interpolation.Shell.Utility

inductive Added where
  | text (o : Octets)
  | file (path : Octets)

abbrev OpenRange := Nat × Option Nat

structure EditManner where
  script : List EditStep
  isQuiet : Bool := false
  separates : Bool := false
  inPlace : Option Octets := none
  lineEnd : Char := '\n'
  width : Nat := 70

abbrev Sinks := List (Octets × Nat)

structure Editing where
  files : List Octets
  name : Octets := ['-']
  lines : List (Octets × Bool) := []
  number : Nat := 0
  pattern : Octets := []
  isEnded : Bool := true
  hold : Octets := []
  isHoldEnded : Bool := true
  added : List Added := []
  hasReplaced : Bool := false
  lastRegex : Option Regex := none
  ranges : List (Nat × OpenRange) := []
  sinks : Sinks := []
  unended : List (Option Octets) := []
  buffer : List Octets := []
  changing : Option Octets := none
  readers : List (Octets × List Octets) := []
  status : Nat := 0

abbrev Edits := StateT Editing (ExceptT Nat Exec)

namespace Edits

def onMachine {α : Type} (run : Exec α) : Edits α :=
  StateT.lift (ExceptT.lift run)

def stop {α : Type} (status : Nat) : Edits α :=
  StateT.lift (throw status)

/-! ### Printing -/

def send (sink : Option Octets) (o : Octets) : Edits Unit := do
  let e ← get
  match sink with
  | none =>
    if e.changing.isSome then set { e with buffer := o :: e.buffer } else onMachine (Exec.print o)
  | some path =>
    if path == "/dev/stdout".toList then onMachine (Exec.print o)
    else if path == "/dev/stderr".toList then
      let _ ← onMachine (Exec.write 2 o)
    else if let some key := e.sinks.lookup path then
      let _ ← onMachine (Exec.writeKey key o)

def write (m : EditManner) (sink : Option Octets) (text : Octets) (isEnded : Bool) :
    Edits Unit := do
  let e ← get
  let lead := if e.unended.contains sink then [m.lineEnd] else []
  set
    { e with
      unended := (if isEnded then [] else [sink]) ++ e.unended.filter (· != sink) }
  send sink (lead ++ text)

def writeLine (m : EditManner) (sink : Option Octets) (text : Octets) (isEnded : Bool) :
    Edits Unit :=
  write m sink (if isEnded then text ++ [m.lineEnd] else text) isEnded

def printPattern (m : EditManner) : Edits Unit := do
  let e ← get
  writeLine m none e.pattern e.isEnded

def writeFirst (m : EditManner) (sink : Option Octets) : Edits Unit := do
  let e ← get
  match Text.cutFirst m.lineEnd e.pattern with
  | some (line, _) => writeLine m sink line true
  | none => writeLine m sink e.pattern e.isEnded

def flush (m : EditManner) : Edits Unit := do
  let e ← get
  set { e with added := [] }
  for a in e.added do
    match a with
    | .text o => write m none o true
    | .file path =>
      let content ← onMachine (if path == "/dev/stdin".toList then content ['-']
        else Exec.content? path)
      if let .ok text := content then
        if !text.isEmpty then write m none text true

/-! ### Reading -/

def withEnds (last : Char) (text : Octets) : List (Octets × Bool) :=
  let lines := linesBy last text
  let isEnded := text.getLast? == some last
  lines.zipIdx.map fun (line, i) => (line, isEnded || i + 1 < lines.length)

def close (m : EditManner) : Edits Unit := do
  let e ← get
  match e.changing, m.inPlace with
  | some path, some ending => do
    onMachine do
      if !ending.isEmpty then
        let name := nameOf path
        let folder := path.take (path.length - name.length)
        let backup :=
          if ending.contains '*' then
            let named := ending.flatMap fun c => if c == '*' then name else [c]
            if named.contains '/' then named else folder ++ named
          else path ++ ending
        if let .ok old ← Exec.content? path then
          let _ ← Exec.save? backup false old
      if let .ok place ← Exec.locate false path then
        if let .ok { mode := mode, .. } ← Exec.node? true path then
          let volume ← Exec.observe World.volume
          let isLink := match place.node.bind volume.body? with
            | some (.link _) => true
            | _ => false
          if isLink then
            Exec.removePlace place
            let _ ← Exec.createNode { place with node := none } mode (.file [])
      let _ ← Exec.save? path false e.buffer.reverse.flatten
    set { e with changing := none, buffer := [], unended := e.unended.filter (· != none) }
  | _, _ => return

def skipFile (complaint : Octets) (status : Nat) : Edits Unit := do
  onMachine (complain "sed" complaint)
  modify fun e => { e with status }

def openNext (m : EditManner) (path : Octets) : Edits Unit := do
  let notRegular := "couldn't edit ".toList ++ path ++ ": not a regular file".toList
  let start (text : Octets) (changing : Option Octets) : Edits Unit := do
    if m.separates then
      let e ← get
      if e.unended.contains none then write m none [] true
      modify fun e =>
        { e with number := 0, ranges := [], hold := [], isHoldEnded := true }
    modify fun e =>
      { e with name := path, lines := withEnds m.lineEnd text, changing }
  if m.inPlace.isSome then
    match ← onMachine (Exec.node? true path) with
    | .error why => skipFile ("can't read ".toList ++ path ++ ": ".toList ++ why.message) 2
    | .ok node =>
      match node.body with
      | .file text => start text (some path)
      | _ => skipFile notRegular 4
  else
    match ← onMachine (flow path) with
    | .ok text => start text none
    | .error why =>
      if why == .isFolder then
        onMachine (complain "sed" ("read error on ".toList ++ path ++ ": ".toList ++ why.message))
        stop 4
      else skipFile ("can't read ".toList ++ path ++ ": ".toList ++ why.message) 2

def nextLine (m : EditManner) : Nat → Edits (Option (Octets × Bool))
  | 0 => return none
  | n + 1 => do
    let e ← get
    match e.lines, e.files with
    | line :: lines, _ =>
      set { e with lines, number := e.number + 1, hasReplaced := false }
      return some line
    | [], [] =>
      close m
      return none
    | [], path :: files =>
      close m
      modify fun e => { e with files }
      openNext m path
      nextLine m n

def isLast (m : EditManner) : Edits Bool := do
  let e ← get
  return e.lines.isEmpty && (m.separates || e.files.isEmpty)

def advance (m : EditManner) (kept : Octets) : Edits Bool := do
  flush m
  match ← nextLine m ((← get).files.length + 1) with
  | some (line, isEnded) =>
    modify fun e => { e with pattern := kept ++ line, isEnded }
    return true
  | none => return false

def leave {α : Type} (m : EditManner) (status : Nat) : Edits α := do
  flush m
  close m
  let e ← get
  onMachine do
    Exec.change fun p => { p with starving := none }
    if e.name == ['-'] then
      if let some (key, opened) ← Exec.stream? 0 then
        if let .file node offset appends := opened.target then
          let left := Text.total (e.lines.map fun (line, isEnded) =>
            line.length + isEnded.toNat)
          Exec.setTarget key opened (.file node (offset - left) appends)
  stop (if status = 0 then e.status else status)

/-! ### Selecting lines -/

def useRegex (r : Option Regex) : Edits Regex := do
  match r.or (← get).lastRegex with
  | some r =>
    modify fun e => { e with lastRegex := some r }
    return r
  | none =>
    onMachine (complain "sed" "-e expression #1, char 0: no previous regular expression".toList)
    stop 1

def selects (m : EditManner) (a : Address) : Edits Bool := do
  let e ← get
  match a with
  | .line n => return e.number = n
  | .every first step => return first ≤ e.number && (e.number - first) % step = 0
  | .last => isLast m
  | .regex r ignoresCase =>
    let r ← useRegex r
    return (r.find? ignoresCase e.pattern).isSome

def openRange (place : Nat) (last : RangeEnd) : Edits Unit :=
  modify fun e =>
    let range : Option (Option Nat) := match last with
      | .at (.line n) => if n ≤ e.number then none else some (some n)
      | .at _ => some none
      | .after count => if count = 0 then none else some (some (e.number + count))
      | .multiple n =>
        if n = 0 || e.number % n = 0 then none else some (some ((e.number / n + 1) * n))
    match range with
    | some stop => { e with ranges := (place, 0, stop) :: e.ranges }
    | none => e

def isFor (m : EditManner) (place : Nat) (s : EditStep) : Edits Bool := do
  let closeRange : Edits Unit :=
    modify fun e => { e with ranges := e.ranges.filter fun (p, _) => p != place }
  match s.first, s.last with
  | none, _ => return true
  | some a, none => selects m a
  | some a, some last =>
    let e ← get
    match e.ranges.lookup place with
    | some (_, some n) =>
      if n ≤ e.number then closeRange
      return e.number ≤ n
    | some (_, none) =>
      match last with
      | .at b => if ← selects m b then closeRange
      | _ => closeRange
      return true
    | none =>
      match a, last with
      | .line 0, .at b =>
        if e.number != 1 then return false
        if !(← selects m b) then openRange place last
        return true
      | a, last =>
        let isFirst ← selects m a
        if isFirst then openRange place last
        return isFirst

/-! ### Steps -/

def changeLetters (mode : Char) (o : Octets) : Octets :=
  if mode == 'U' then o.map Char.toUpper else if mode == 'L' then o.map Char.toLower else o

def replaced (pieces : List Replacement) (m : Regex.Match) : Octets :=
  (pieces.foldl (fun (mode, once, out) piece =>
    match piece with
    | .letters c => if c == 'u' || c == 'l' then (mode, some c, out) else (c, none, out)
    | piece =>
      let text := match piece with
        | .text o => o
        | .group 0 => m.text
        | .group n => (m.place.groups.lookup n).getD []
        | .letters _ => []
      let text := changeLetters mode text
      match once, text with
      | some c, first :: rest =>
        (mode, none, out ++ (if c == 'u' then first.toUpper else first.toLower) :: rest)
      | once, text => (mode, once, out ++ text)) ('E', (none : Option Char), ([] : Octets))).2.2

def replaceFrom (s : Substitution) (r : Regex) : Nat → Nat → Bool → Octets → Octets →
    Octets × Bool
  | 0, _, _, _, after => (after, false)
  | fuel + 1, count, isBehind, before, after =>
    match Regex.search s.ignoresCase r before after with
    | none => (after, false)
    | some m =>
      let gap := m.before.drop before.length
      if m.text.isEmpty && isBehind && gap.isEmpty then
        match after with
        | [] => ([], false)
        | c :: rest =>
          let (out, hasReplaced) := replaceFrom s r fuel count false (c :: before) rest
          (c :: out, hasReplaced)
      else
        let count := count + 1
        let isChosen := s.number.getD 1 ≤ count
        let text := if isChosen then replaced s.replacement m else m.text
        if isChosen && !s.replacesAll then (gap ++ text ++ m.place.after, true)
        else
          match m.text, m.place.after with
          | [], [] => (gap ++ text, isChosen)
          | [], c :: rest =>
            let (out, hasReplaced) := replaceFrom s r fuel count false (c :: m.place.before) rest
            (gap ++ text ++ c :: out, hasReplaced || isChosen)
          | _, after =>
            let (out, hasReplaced) := replaceFrom s r fuel count true m.place.before after
            (gap ++ text ++ out, hasReplaced || isChosen)

inductive Course where
  | go (place : Nat)
  | done (prints : Bool)

def behindBrace (script : List EditStep) (place : Nat) : Nat :=
  go (script.drop place) place 0
where
  go : List EditStep → Nat → Nat → Nat
    | [], place, _ => place
    | s :: rest, place, depth =>
      match s.action, depth with
      | .opening, depth => go rest (place + 1) (depth + 1)
      | .closing, 0 => place + 1
      | .closing, depth + 1 => go rest (place + 1) depth
      | _, depth => go rest (place + 1) depth

def labelPlace? (script : List EditStep) (name : Octets) : Option Nat :=
  if name.isEmpty then some script.length
  else
    script.findIdx? fun s => match s.action with
      | .label other => other == name
      | _ => false

def listed (o : Octets) : List Octets :=
  o.map fun c =>
    if c == '\\' then ['\\', '\\']
    else
      match escapeLetter? c with
      | some letter => ['\\', letter]
      | none => if 32 ≤ c.toNat && c.toNat < 127 then [c] else '\\' :: octal c

def listedLine (width : Nat) (o : Octets) : Octets :=
  ((listed o).foldl (fun (column, out) piece =>
    if 0 < width && width - 1 < column + piece.length then
      (piece.length, out ++ '\\' :: '\n' :: piece)
    else (column + piece.length, out ++ piece)) (0, ([] : Octets))).2

def commandOutput (run : Runner) (command : Octets) : Edits Octets :=
  onMachine do
    let words := ["sh".toList, "-c".toList, command]
    let (output, _) ← Exec.captured run (run (.utility "/bin/sh".toList words))
    return output

def runPattern (run : Runner) (m : EditManner) : Edits Unit := do
  let output ← commandOutput run (← get).pattern
  let pattern := if output.getLast? == some m.lineEnd then output.dropLast else output
  modify fun e => { e with pattern, isEnded := e.isEnded || !output.isEmpty }

def substitute (run : Runner) (m : EditManner) (s : Substitution) : Edits Unit := do
  let r ← useRegex s.regex
  let e ← get
  let (pattern, hasReplaced) := replaceFrom s r (2 * e.pattern.length + 2) 0 false [] e.pattern
  if hasReplaced then
    set { e with pattern, hasReplaced := true }
    if s.runs then runPattern run m
    if s.prints then printPattern m
    if let some path := s.file then
      let e ← get
      writeLine m (some path) e.pattern e.isEnded

def readerLine (path : Octets) : Edits (Option Octets) := do
  let e ← get
  let lines ← match e.readers.lookup path with
    | some lines => pure lines
    | none =>
      match ← onMachine (if path == "/dev/stdin".toList then content ['-']
        else Exec.content? path) with
      | .ok text => pure (Octets.linesWithEnds text)
      | .error _ => pure []
  let rest := e.readers.filter fun (other, _) => other != path
  match lines with
  | line :: lines =>
    set { e with readers := (path, lines) :: rest }
    return some line
  | [] =>
    set { e with readers := (path, []) :: rest }
    return none

def actSimple (m : EditManner) (next : Course) (c : Char) : Edits Course := do
  let e ← get
  match c with
  | 'd' => return .done false
  | 'D' =>
    match Text.cutFirst m.lineEnd e.pattern with
    | some (_, rest) =>
      set { e with pattern := rest }
      flush m
      return .go 0
    | none => return .done false
  | 'p' =>
    printPattern m
    return next
  | 'P' =>
    writeFirst m none
    return next
  | '=' =>
    write m none (Text.ofNat e.number ++ ['\n']) true
    return next
  | 'F' =>
    write m none (e.name ++ ['\n']) true
    return next
  | 'n' =>
    let isLast ← isLast m
    if !m.isQuiet then printPattern m
    let hasMore ← advance m []
    if hasMore && !isLast then return next else stop (← get).status
  | 'N' =>
    let isLast ← isLast m
    let hasMore ← if isLast then pure false else advance m (e.pattern ++ [m.lineEnd])
    if hasMore then return next
    if !m.isQuiet then printPattern m
    return .done false
  | 'g' => set { e with pattern := e.hold, isEnded := e.isHoldEnded }
  | 'G' =>
    set { e with pattern := e.pattern ++ m.lineEnd :: e.hold, isEnded := e.isHoldEnded }
  | 'h' => set { e with hold := e.pattern, isHoldEnded := e.isEnded }
  | 'H' => set { e with hold := e.hold ++ m.lineEnd :: e.pattern, isHoldEnded := e.isEnded }
  | 'x' =>
    set { e with
      pattern := e.hold
      isEnded := e.isHoldEnded
      hold := e.pattern
      isHoldEnded := e.isEnded }
  | _ => set { e with pattern := [] }
  return next

def act (run : Runner) (m : EditManner) (place : Nat) (s : EditStep) : Edits Course := do
  let next : Course := .go (place + 1)
  let jump (label : Octets) : Course := .go ((labelPlace? m.script label).getD m.script.length)
  let e ← get
  match s.action with
  | .opening | .closing | .label _ => return next
  | .substitute sub =>
    substitute run m sub
    return next
  | .exchange table =>
    set { e with pattern := e.pattern.map fun c => (table.lookup c).getD c }
    return next
  | .text 'a' text =>
    set { e with added := e.added ++ [Added.text text] }
    return next
  | .text 'i' text =>
    write m none text true
    return next
  | .text _ text =>
    if (e.ranges.lookup place).isNone && !text.isEmpty then write m none text true
    return .done false
  | .quit prints status =>
    if prints && !m.isQuiet then printPattern m
    if !prints then modify fun e => { e with added := [] }
    leave m status
  | .list width =>
    write m none (listedLine (width.getD m.width) e.pattern ++ ['$', m.lineEnd]) true
    return next
  | .jump 't' label =>
    set { e with hasReplaced := false }
    return if e.hasReplaced then jump label else next
  | .jump 'T' label =>
    set { e with hasReplaced := false }
    return if e.hasReplaced then next else jump label
  | .jump _ label => return jump label
  | .file 'r' path =>
    set { e with added := e.added ++ [Added.file path] }
    return next
  | .file 'R' path =>
    if let some line ← readerLine path then
      modify fun e => { e with added := e.added ++ [Added.text line] }
    return next
  | .file 'W' path =>
    writeFirst m (some path)
    return next
  | .file _ path =>
    writeLine m (some path) e.pattern e.isEnded
    return next
  | .run [] =>
    runPattern run m
    return next
  | .run command =>
    let output ← commandOutput run command
    if !output.isEmpty then write m none output true
    return next
  | .simple c => actSimple m next c

def start (m : EditManner) : Edits Course := do
  if ← advance m [] then return .go 0
  stop (← get).status

def step (run : Runner) (m : EditManner) (place : Nat) : Edits Nat := do
  let course ←
    match m.script[place]? with
    | none => pure (Course.done true)
    | some s =>
      if (← isFor m place s) == s.isInverted then
        pure (.go (match s.action with
          | .opening => behindBrace m.script (place + 1)
          | _ => place + 1))
      else act run m place s
  match course with
  | .go place => return place
  | .done prints =>
    if prints && !m.isQuiet then printPattern m
    match ← start m with
    | .go place => return place
    | .done _ => return 0

def edit (run : Runner) (m : EditManner) (e : Editing) : Exec Nat := do
  let first ← ((start m).run e).run
  match first with
  | .error status => return status
  | .ok (_, e) =>
    let next (state : Nat × Editing) : Exec ((Nat × Editing) ⊕ Nat) := do
      match ← ((step run m state.1).run state.2).run with
      | .ok state => return .inl state
      | .error status => return .inr status
    Exec.loop next (0, e)

end Edits

/-! ### The utility -/

def sedKnown : Known :=
  { name := "sed", letters := "ne:f:Eri::suzl:b", hidden := "=+"
    words := [("quiet", 'n'), ("silent", 'n'), ("expression", 'e'), ("regexp-extended", 'E'),
      ("in-place", 'i'), ("separate", 's'), ("file", 'f'), ("null-data", 'z'),
      ("zero-terminated", 'z'), ("line-length", 'l'), ("unbuffered", 'u'), ("posix", '='),
      ("follow-symlinks", '+'), ("binary", 'b')] }

def sedUsage : Exec Nat := do
  Exec.complainLine ("Usage: sed [OPTION]... ".toList ++
    "\x7bscript-only-if-no-other-script\x7d [input-file]...".toList)
  return 1

def scriptPieces (found : Given) : Exec (Except (Octets × FileError) (List ScriptPiece)) := do
  let mut pieces : List ScriptPiece := []
  let mut isExtended := false
  let mut count := 0
  for (c, a) in found do
    if c == 'E' || c == 'r' then isExtended := true
    if c == 'e' then
      count := count + 1
      pieces := pieces ++ [⟨.option count, a, isExtended⟩]
    if c == 'f' then
      match ← content a with
      | .ok text => pieces := pieces ++ [⟨.file a, text, isExtended⟩]
      | .error why => return .error (a, why)
  return .ok pieces

def openSinks (script : List EditStep) : Exec (Except (Octets × FileError) Sinks) := do
  let paths := script.filterMap fun s => match s.action with
    | .substitute s => s.file
    | .file kind path => if kind == 'w' || kind == 'W' then some path else none
    | _ => none
  let mut sinks : Sinks := []
  for path in paths.eraseDups do
    if path != "/dev/stdout".toList && path != "/dev/stderr".toList then
      match ← Exec.openPath path (.writing true false false) with
      | .ok key => sinks := (path, key) :: sinks
      | .error why => return .error (path, why)
  return .ok sinks

/-- Edit files by a script. -/
def sed : Utility := fun run arguments =>
  match read sedKnown arguments with
  | .error complaint => do
    complain "sed" complaint
    sedUsage
  | .ok (found, operands) => do
    let trouble (status : Nat) (complaint : Octets) : Exec Nat := do
      complain "sed" complaint
      return status
    let isGiven := has found 'e' || has found 'f'
    if !isGiven && operands.isEmpty then return ← sedUsage
    match ← scriptPieces found with
    | .error (path, why) =>
      trouble 4 ("couldn't open file ".toList ++ path ++ ": ".toList ++ why.message)
    | .ok pieces =>
      let isExtended := has found 'E' || has found 'r'
      let pieces := if isGiven then pieces else [⟨.option 1, operands.headD [], isExtended⟩]
      let operands := if isGiven then operands else operands.drop 1
      match readScript pieces with
      | .error complaint => trouble 1 complaint
      | .ok script =>
        let missing := script.steps.findSome? fun s => match s.action with
          | .jump _ name => if (Edits.labelPlace? script.steps name).isNone then some name else none
          | _ => none
        let width := (argument? found 'l').map Octets.natural?
        match missing, width with
        | some name, _ =>
          trouble 4 ("can't find label for jump to ".toList ++ Char.ofNat 96 :: name ++ ['\''])
        | none, some none =>
          trouble 1 ("invalid line length: ".toList ++ (argument? found 'l').getD [])
        | none, width => do
          let inPlace := argument? found 'i'
          if inPlace.isSome && operands.isEmpty then return ← trouble 4 "no input files".toList
          match ← openSinks script.steps with
          | .error (path, why) =>
            trouble 4 ("couldn't open file ".toList ++ path ++ ": ".toList ++ why.message)
          | .ok sinks =>
            let m : EditManner :=
              { script := script.steps
                isQuiet := has found 'n' || script.isQuiet
                separates := has found 's' || inPlace.isSome
                inPlace
                lineEnd := lineEnd found
                width := (width.getD none).getD 70 }
            Edits.edit run m { files := inputs operands, sinks }

end Interpolation.Shell.Utility
