import Interpolation.Shell.Regex.Perl
import Interpolation.Shell.Utility.Options

/-!
# Searching in files

Lines that match a regular expression are printed, or those that match none, with what is asked for
around them.
-/

namespace Interpolation.Shell.Utility

/-! ### Matching -/

structure Search where
  expressions : List Regex
  takesFirst : Bool := false
  ignoresCase : Bool := false
  isWord : Bool := false
  isLine : Bool := false

def Search.matchAt (s : Search) (p : Regex.Place) : Option Regex.Match :=
  let isOutside (o : Octets) : Bool := !s.isWord || !o.head?.any Regex.isWordChar
  if !isOutside p.before || (s.isLine && !p.before.isEmpty) then none
  else
    let fits (q : Regex.Place) : Bool := isOutside q.after && (!s.isLine || q.after.isEmpty)
    let found := s.expressions.flatMap fun r => (Regex.ends s.ignoresCase r p).filter fits
    let best :=
      if s.takesFirst then found.head?
      else
        found.foldl (fun best q =>
          match best with
          | some b => if b.index < q.index then some q else best
          | none => some q) none
    best.map (Regex.Match.between p)

def Search.isIn (s : Search) (line : Octets) : Bool :=
  (Regex.scan s.matchAt [] line).isSome

def Search.matches (s : Search) : Nat → Octets → Octets → List (Octets × Octets)
  | 0, _, _ => []
  | n + 1, before, after =>
    let wanted (p : Regex.Place) : Option Regex.Match :=
      (s.matchAt p).filter fun m => !m.text.isEmpty
    match Regex.scan wanted before after with
    | none => []
    | some m =>
      (m.before.drop before.length, m.text) :: s.matches n m.place.before m.place.after

def expressionsOf (found : Given) (patterns : List Octets) : Except Octets (List Regex) :=
  let readAs (form : Regex.Form) (p : Octets) : Except Octets Regex :=
    (Regex.read { form } p).mapError fun complaint =>
      (if complaint == "Invalid regular expression" then Regex.openBracket else complaint).toList
  patterns.mapM fun p =>
    match lastOf found "FEGP" with
    | some ('F', _) => .ok (Regex.ofText p)
    | some ('P', _) => (Regex.readPerl p).mapError String.toList
    | some ('E', _) => readAs .extended p
    | _ => readAs .basic p

/-! ### Lines and what is printed of them -/

structure Candidate where
  number : Nat
  offset : Nat
  text : Octets
  isChosen : Bool

def candidatesOf (chooses : Octets → Bool) : Nat → Nat → List Octets → List Candidate
  | _, _, [] => []
  | number, offset, line :: rest =>
    ⟨number, offset, line, chooses line⟩ ::
      candidatesOf chooses (number + 1) (offset + line.length + 1) rest

def upToChosen : Nat → List Candidate → List Candidate
  | 0, all => all.map fun c => { c with isChosen := false }
  | _, [] => []
  | n + 1, c :: rest => c :: upToChosen (if c.isChosen then n else n + 1) rest

inductive Showing where
  | lines
  | matches
  | count
  | name (ifChosen : Bool)
  | nothing
  deriving DecidableEq

structure Report where
  search : Search
  showing : Showing
  inverts : Bool
  limit : Option Nat
  before : Nat
  after : Nat
  separator : Option Octets
  hasName : Bool
  hasNumber : Bool
  hasOffset : Bool
  aligns : Bool
  isColored : Bool
  nameEnd : Option Char
  lineEnd : Char

def Report.paint (r : Report) (color : String) (o : Octets) : Octets :=
  if r.isColored then
    let escape := Char.ofNat 27
    escape :: '[' :: color.toList ++ 'm' :: escape :: "[K".toList ++ o ++
      escape :: "[m".toList ++ escape :: "[K".toList
  else o

def Report.leadName (r : Report) (label : Octets) (separator : Char) : Octets :=
  if r.hasName then
    r.paint "35" label ++
      match r.nameEnd with
      | some c => [c]
      | none => r.paint "36" [separator]
  else []

def Report.lead (r : Report) (label : Octets) (separator : Char) (c : Candidate) (offset : Nat)
    (isEmpty : Bool) : Octets :=
  let number (shown : Bool) (n : Nat) : Octets :=
    if shown then r.paint "32" (Text.ofNat n) ++ r.paint "36" [separator] else []
  let all := r.leadName label separator ++ number r.hasNumber c.number ++ number r.hasOffset offset
  if r.aligns && !isEmpty && !all.isEmpty then all ++ ['\t'] else all

def Report.line (r : Report) (label : Octets) (separator : Char) (c : Candidate) : Octets :=
  let hasMatches := (separator == ':') != r.inverts
  let matches_ : List (Octets × Octets) :=
    if hasMatches && (r.isColored || r.showing == .matches) then
      r.search.matches (c.text.length + 1) [] c.text
    else []
  if r.showing == .matches then
    (matches_.foldl (fun (offset, out) (gap, text) =>
      let offset := offset + gap.length
      (offset + text.length, out ++ r.lead label separator c offset false ++
        r.paint "01;31" text ++ [r.lineEnd])) (c.offset, ([] : Octets))).2
  else
    let shown := matches_.flatMap fun (gap, text) => gap ++ r.paint "01;31" text
    let length := Text.total (matches_.map fun (gap, text) => gap.length + text.length)
    r.lead label separator c c.offset c.text.isEmpty ++ shown ++ c.text.drop length ++ [r.lineEnd]

structure Printed where
  held : List Candidate := []
  pending : Nat := 0
  last : Option Nat := none
  isUsed : Bool
  output : List Octets := []

def Report.step (r : Report) (label : Octets) (s : Printed) (c : Candidate) : Printed :=
  if c.isChosen then
    let lead := (s.held.take r.before).reverse
    let start := ((lead.head?.map Candidate.number).getD c.number)
    let isGap := s.isUsed && s.last.all fun n => n + 1 != start
    let gap := match r.separator with
      | some text => if isGap then r.paint "36" text ++ ['\n'] else []
      | none => []
    let lines := lead.map (r.line label '-') ++ [r.line label ':' c]
    { held := [], pending := r.after, last := some c.number, isUsed := true
      output := lines.reverse ++ gap :: s.output }
  else if s.pending != 0 then
    { s with
      pending := s.pending - 1
      last := some c.number
      output := r.line label '-' c :: s.output }
  else { s with held := c :: s.held.take (r.before - 1) }

def Report.linesOf (r : Report) (text : Octets) : List Octets :=
  let lines := text.splitOn r.lineEnd
  if lines.getLast? == some [] then lines.dropLast else lines

def Report.candidates (r : Report) (text : Octets) : List Candidate :=
  let all := candidatesOf (fun line => r.search.isIn line != r.inverts) 1 0 (r.linesOf text)
  match r.limit with
  | some n => upToChosen n all
  | none => all

def Report.file (r : Report) (label : Octets) (isUsed : Bool) (text : Octets) :
    Octets × Bool × Bool :=
  let all := r.candidates text
  let count := (all.filter Candidate.isChosen).length
  let isFound := count != 0
  match r.showing with
  | .nothing => ([], isFound, isUsed)
  | .name ifChosen =>
    let shown := r.paint "35" label ++ [r.nameEnd.getD '\n']
    (if ifChosen == isFound then shown else [], isFound, isUsed)
  | .count => (r.leadName label ':' ++ Text.ofNat count ++ ['\n'], isFound, isUsed)
  | _ =>
    let s := all.foldl (r.step label) { isUsed }
    (s.output.reverse.flatten, isFound, s.isUsed)

/-! ### Files -/

structure Choice where
  includes : List Pattern
  excludes : List Pattern
  excludesFolders : List Pattern

def matchesEnd (p : Pattern) (path : Octets) : Bool :=
  let ends (o : Octets) : List Octets :=
    o :: (Pattern.suffixes o).filterMap fun
      | '/' :: rest => some rest
      | _ => none
  (ends path).any (Pattern.isMatch p)

def Choice.omits (c : Choice) (isFolder : Bool) (path : Octets) : Bool :=
  if isFolder then c.excludesFolders.any fun p => matchesEnd p path
  else
    (!c.includes.isEmpty && !c.includes.any fun p => matchesEnd p path) ||
      c.excludes.any fun p => matchesEnd p path

def filesBelow (c : Choice) (followsLinks : Bool) : Nat → Octets → Nat → Exec (List Octets)
  | 0, _, _ => return []
  | depth + 1, path, n => do
    let volume ← Exec.observe World.volume
    if !volume.isFolder n then return [path]
    let parts ← (volume.entries n).mapM fun (name, m) => do
      let below := inside path name
      let m := match volume.body? m with
        | some (.link _) =>
          if followsLinks then
            match volume.locate true (inside (volume.path n) name) with
            | .ok { node := some m, .. } => some m
            | _ => none
          else none
        | _ => some m
      match m with
      | none => return []
      | some m =>
        if c.omits (volume.isFolder m) below then return []
        else filesBelow c followsLinks depth below m
    return parts.flatten

/-! ### The utility -/

def contextDigits (found : Given) : Given :=
  let step (state : Bool × Given) (option : Char × Octets) : Bool × Given :=
    match state, option.1.isDigit with
    | (true, (_, digits) :: rest), true => (true, ('C', digits ++ [option.1]) :: rest)
    | (_, rest), true => (true, ('C', [option.1]) :: rest)
    | (_, rest), false => (false, option :: rest)
  (found.foldl step (false, [])).2.reverse

def grepKnown (name : String) : Known :=
  { name, letters := "0123456789EFGPX:e:f:ivwxclLqsnHhorRm:A:B:C:zZabyUuITd:D:V", wrong := 2
    hidden := "=::+:<:>:&:%:~:@!:"
    words := [("extended-regexp", 'E'), ("fixed-strings", 'F'), ("fixed-regexp", 'F'),
      ("basic-regexp", 'G'), ("perl-regexp", 'P'), ("regexp", 'e'), ("file", 'f'),
      ("ignore-case", 'i'), ("no-ignore-case", '?'), ("invert-match", 'v'), ("word-regexp", 'w'),
      ("line-regexp", 'x'), ("count", 'c'), ("files-with-matches", 'l'),
      ("files-without-match", 'L'), ("quiet", 'q'), ("silent", 'q'), ("no-messages", 's'),
      ("line-number", 'n'), ("with-filename", 'H'), ("no-filename", 'h'), ("only-matching", 'o'),
      ("recursive", 'r'), ("dereference-recursive", 'R'), ("max-count", 'm'),
      ("after-context", 'A'), ("before-context", 'B'), ("context", 'C'), ("text", 'a'),
      ("byte-offset", 'b'), ("color", '='), ("colour", '='), ("include", '+'), ("exclude", '<'),
      ("exclude-dir", '>'), ("exclude-from", '&'), ("label", '%'), ("binary-files", '!'),
      ("group-separator", '~'), ("no-group-separator", '@'), ("null", 'Z'), ("null-data", 'z'),
      ("initial-tab", 'T'), ("line-buffered", '*'), ("binary", 'U'), ("directories", 'd'),
      ("devices", 'D'), ("unix-byte-offsets", 'u')] }

def grepUsage (name : String) : Exec Nat := do
  Exec.complainLine ("Usage: " ++ name ++ " [OPTION]... PATTERNS [FILE]...").toList
  Exec.complainLine ("Try '" ++ name ++ " --help' for more information.").toList
  return 2

def patternLines (text : Octets) : List Octets :=
  text.splitOn '\n'

def grepPatterns (found : Given) : Exec (Except (Octets × FileError) (List Octets)) := do
  let mut patterns : List Octets := []
  for (c, a) in found do
    if c == 'e' then patterns := patterns ++ patternLines a
    if c == 'f' then
      match ← content a with
      | .ok text =>
        patterns := patterns ++
          if text.isEmpty then []
          else patternLines (if text.getLast? == some '\n' then text.dropLast else text)
      | .error why => return .error (a, why)
  return .ok patterns

def grepNumber (found : Given) (c : Char) (otherwise : Option Nat) (complaint : Octets → Octets) :
    Except Octets (Option Nat) :=
  match argument? found c with
  | none => .ok otherwise
  | some a =>
    match a with
    | '-' :: digits => if c == 'm' && (Octets.natural? digits).isSome then .ok none
      else .error (complaint a)
    | a => match Octets.natural? a with
      | some n => .ok (some n)
      | none => .error (complaint a)

def reportOf (found : Given) (hasName : Bool) (patterns : List Octets) :
    Except Octets Report := do
  let wrongContext (a : Octets) : Octets := a ++ ": invalid context length argument".toList
  let around ← grepNumber found 'C' none wrongContext
  let before ← grepNumber found 'B' around wrongContext
  let after ← grepNumber found 'A' around wrongContext
  let limit ← grepNumber found 'm' none fun _ => "invalid max count".toList
  let isPerl := (lastOf found "FEGP").any fun (c, _) => c == 'P'
  if isPerl && 1 < patterns.length then
    throw "the -P option only supports a single pattern".toList
  let expressions ← expressionsOf found patterns
  let color := ((argument? found '=').map String.ofList).getD "never"
  let showing : Showing :=
    if has found 'q' then .nothing
    else
      match lastOf found "lL" with
      | some (c, _) => .name (c == 'l')
      | none => if has found 'c' then .count else if has found 'o' then .matches else .lines
  .ok
    { search :=
        { expressions
          takesFirst := isPerl
          ignoresCase := (lastOf found "iy?").any fun (c, _) => c != '?'
          isWord := has found 'w'
          isLine := has found 'x' }
      showing
      inverts := has found 'v'
      limit := if showing == .nothing || showing == .name true || showing == .name false then some 1
        else limit
      before := before.getD 0
      after := after.getD 0
      separator :=
        if before.isNone && after.isNone then none
        else
          match lastOf found "~@" with
          | some ('~', text) => some text
          | some _ => none
          | none => some "--".toList
      hasName
      hasNumber := has found 'n'
      hasOffset := has found 'b'
      aligns := has found 'T'
      isColored := ["always", "yes", "force"].contains color
      nameEnd := if has found 'Z' then some (Char.ofNat 0) else none
      lineEnd := if has found 'z' then Char.ofNat 0 else '\n' }

def Report.wanted (r : Report) (isPipe : Bool) (text : Octets) : Option Nat :=
  match r.limit with
  | none => none
  | some n =>
    let all := r.candidates text
    if (all.filter Candidate.isChosen).length < n then none
    else if isPipe then some text.length
    else
      let last := (all.filter Candidate.isChosen).getLast?
      some ((last.map fun c => c.offset + c.text.length + 1).getD 0)

def Report.read (r : Report) (operand : Octets) : Exec (Except FileError Octets) := do
  match ← openInput operand with
  | .error why => return .error why
  | .ok key =>
    match ← Exec.opened? key, r.limit with
    | some opened, some _ =>
      match opened.isReadable, opened.target with
      | true, .file node offset appends =>
        let rest := (← Exec.contentOf node).drop offset
        let isPart := r.showing == .lines || r.showing == .matches || r.showing == .count
        let taken := if isPart then (r.wanted false rest).getD rest.length else rest.length
        Exec.setTarget key opened (.file node (offset + taken) appends)
        return .ok rest
      | _, _ => Exec.takeKey key (r.wanted true)
    | _, _ => Exec.takeReady key

def writesInto (operand : Octets) : Exec Bool := do
  match ← Exec.stream? 1, ← Exec.find? true operand with
  | some (_, { target := .file node _ _, .. }), .ok n => return operand != ['-'] && node = n
  | _, _ => return false

def searchIn (name : String) (found : Given) (r : Report) (isUsed : Bool) (operand : Octets) :
    Exec (Bool × Bool × Bool) := do
  let label := if operand == ['-'] then (argument? found '%').getD "(standard input)".toList
    else operand
  let isSilent := has found 's'
  let showsLines := r.showing == .lines || r.showing == .matches || r.showing == .count
  if (showsLines && r.showing != .count && r.limit != some 1) && (← writesInto operand) then
    if !isSilent then complain name (label ++ ": input file is also the output".toList)
    return (false, isUsed, false)
  match ← r.read operand with
  | .error why =>
    if why == .isFolder && argument? found 'd' == some "skip".toList then
      return (false, isUsed, true)
    if !isSilent then complain name (label ++ ": ".toList ++ why.message)
    return (false, isUsed, false)
  | .ok text =>
    let nul := Char.ofNat 0
    let kind := (argument? found '!').map String.ofList
    let isText := r.lineEnd == nul || ((lastOf found "a!I").any fun (c, _) =>
      c == 'a' || (c == '!' && kind == some "text"))
    if isText || !text.contains nul then
      let (output, isFound, isUsed) := r.file label isUsed text
      Exec.print output
      return (isFound, isUsed, true)
    else if (lastOf found "a!I").any fun (c, _) =>
        c == 'I' || (c == '!' && kind == some "without-match") then
      return (false, isUsed, true)
    else
      let zapped := text.map fun c => if c == nul then '\n' else c
      if r.showing == .lines || r.showing == .matches then
        let r := { r with showing := .nothing, limit := some 1 }
        let (_, isFound, _) := r.file label isUsed zapped
        if isFound && !isSilent then complain name (label ++ ": binary file matches".toList)
        return (isFound, isUsed, true)
      else
        let (output, isFound, isUsed) := r.file label isUsed zapped
        Exec.print output
        return (isFound, isUsed, true)

def grepFiles (found : Given) (recurses : Bool) (operands : List Octets) : Exec (List Octets) := do
  let patterns (letter : Char) : List Pattern :=
    found.filterMap fun (c, a) => if c == letter then some (Pattern.ofOctets a) else none
  let mut fromFiles : List Pattern := []
  for (c, a) in found do
    if c == '&' then
      if let .ok text ← content a then
        fromFiles := fromFiles ++ (Octets.lines text).map Pattern.ofOctets
  let choice : Choice :=
    { includes := patterns '+'
      excludes := patterns '<' ++ fromFiles
      excludesFolders := patterns '>' }
  let paths := if recurses && operands.isEmpty then [['.']] else inputs operands
  let below ← paths.mapM fun path => do
    let node : Except FileError Nat ←
      if path == ['-'] then pure (.error .notFound) else Exec.find? true path
    match node with
    | .error _ => return if path != ['-'] && choice.omits false path then [] else [path]
    | .ok n => do
      let isFolder := (← Exec.observe World.volume).isFolder n
      if choice.omits isFolder path then return []
      else if !recurses then return [path]
      else
        let files ← filesBelow choice (has found 'R') 100 path n
        return files.map fun p => if operands.isEmpty then p.drop 2 else p
  return below.flatten

def grepAs (name : String) (always : Given) : Utility := fun _ arguments =>
  match read (grepKnown name) arguments with
  | .error complaint => do
    complain name complaint
    grepUsage name
  | .ok (found, operands) => do
    let trouble (complaint : Octets) : Exec Nat := do
      complain name complaint
      return 2
    let found := always ++ contextDigits found
    let matchers := (found.filterMap fun (c, _) =>
      if "EFGP".toList.contains c then some c else none).eraseDups
    if 1 < matchers.length then return ← trouble "conflicting matchers specified".toList
    if (argument? found '!').any fun a =>
        !(["binary", "text", "without-match"].contains (String.ofList a)) then
      return ← trouble "unknown binary-files type".toList
    match ← grepPatterns found with
    | .error (path, why) => trouble (path ++ ": ".toList ++ why.message)
    | .ok given =>
      let isGiven := has found 'e' || has found 'f'
      if !isGiven && operands.isEmpty then return ← grepUsage name
      let (patterns, operands) := if isGiven then (given, operands)
        else (patternLines (operands.headD []), operands.drop 1)
      let recurses := has found 'r' || has found 'R' ||
        argument? found 'd' == some "recurse".toList
      let hasName := match lastOf found "Hh" with
        | some (c, _) => c == 'H'
        | none =>
          1 < operands.length || (recurses && operands.isEmpty)
      let isFolder ← (operands.take 1).anyM Exec.isFolder
      let hasName := hasName || (recurses && isFolder && (lastOf found "Hh").isNone)
      match reportOf found hasName patterns with
      | .error complaint => trouble complaint
      | .ok r =>
        if r.limit == some 0 && r.showing != .name false then return 1
        let mut isUsed := false
        let mut anyFound := false
        let mut hasFailed := false
        for operand in ← grepFiles found recurses operands do
          let (isFound, nowUsed, isFine) ← searchIn name found r isUsed operand
          isUsed := nowUsed
          if !isFine then hasFailed := true
          if isFound then
            anyFound := true
            if r.showing == .nothing then return 0
        return if hasFailed then 2 else status anyFound

def grep : Utility :=
  grepAs "grep" []

def egrep : Utility :=
  grepAs "grep" [('E', [])]

/-- Search for plain texts. -/
def fgrep : Utility :=
  grepAs "grep" [('F', [])]

end Interpolation.Shell.Utility
