import Std.Data.HashMap
import Interpolation.Shell.Regex.Reading
import Interpolation.Shell.Utility.Difference.Report
import Interpolation.Shell.Utility.Listing

/-!
# Differences between files

Two files are compared line by line, and what differs is reported. Lines may count as equal that
differ in case or in white space only. Of two folders, the files of the same names are compared.
-/

namespace Interpolation.Shell.Utility

namespace Difference

inductive Spacing where
  | all
  | someKind (ignoresTabs ignoresEnds : Bool)
  | amount
  | nothing
  deriving DecidableEq

def Spacing.ignoresEnds : Spacing → Bool
  | all => false
  | someKind _ ends => ends
  | amount | nothing => true

structure Plan where
  manner : Manner
  isBrief : Bool
  tellsIdentical : Bool
  isRecursive : Bool
  addsFirst : Bool
  addsSecond : Bool
  isText : Bool
  isMinimal : Bool
  ignoresCase : Bool
  spacing : Spacing
  ignoresEmpty : Bool
  ignored : List Regex
  dropsReturns : Bool
  isExcluded : Octets → Bool
  startName : Option Octets
  horizon : Nat
  zone : Zone
  words : List Octets

def Plan.isExact (p : Plan) : Bool :=
  match p.manner.style with
  | .commands _ => false
  | _ => true

def Plan.keyOf (p : Plan) (line : Octets) : Octets :=
  let hasEnd := line.getLast? == some '\n'
  let bare := if hasEnd then line.dropLast else line
  let trim (o : Octets) : Octets := (o.reverse.dropWhile Octets.isSpace).reverse
  let spaced := match p.spacing with
    | .all => bare
    | .nothing => bare.filter fun c => !Octets.isSpace c
    | .amount =>
      (((trim bare).splitBy fun a b => Octets.isSpace a && Octets.isSpace b).flatMap fun group =>
        if group.head?.any Octets.isSpace then [' '] else group)
    | .someKind ignoresTabs ignoresEnds =>
      let o := if ignoresTabs then Report.expanded p.manner.tabSize [] 0 bare else bare
      if ignoresEnds then trim o else o
  let folded := if p.ignoresCase then spaced.map Char.toLower else spaced
  if hasEnd || p.spacing.ignoresEnds then folded ++ ['\n'] else folded

def Plan.isIdle (p : Plan) (line : Octets) : Bool :=
  let bare := Text.dropTrailing '\n' line
  (p.ignoresEmpty && if p.spacing.ignoresEnds then bare.all Octets.isSpace else bare.isEmpty) ||
    p.ignored.any fun regex => (regex.find? p.ignoresCase bare).isSome

def Plan.linesOf (p : Plan) (o : Octets) : Array Octets :=
  let lines := Octets.linesWithEnds o
  let ended (line : Octets) : Octets :=
    if p.isExact || line.getLast? == some '\n' then line else line ++ ['\n']
  let dropped (line : Octets) : Octets :=
    if p.dropsReturns && "\r\n".toList.isSuffixOf line then line.dropLast.dropLast ++ ['\n']
    else line
  (lines.map fun line => dropped (ended line)).toArray

def numbered (keys : List Octets) (seen : Std.HashMap String Nat) :
    Array Nat × Std.HashMap String Nat :=
  keys.foldl (fun (numbers, seen) key =>
    let key := String.ofList key
    match seen[key]? with
    | some n => (numbers.push n, seen)
    | none => (numbers.push seen.size, seen.insert key seen.size)) (#[], seen)

def common : List Octets → List Octets → Nat
  | a :: as, b :: bs => if a = b then common as bs + 1 else 0
  | _, _ => 0

def Plan.changes (p : Plan) (one two : Array Octets) : List Change :=
  let front := common one.toList two.toList - p.horizon
  let (one, two) := (one.toList.drop front, two.toList.drop front)
  let back := common one.reverse two.reverse - p.horizon
  let middle (lines : List Octets) : List Octets :=
    (lines.take (lines.length - back)).map p.keyOf
  let (xs, seen) := numbered (middle one) {}
  let (ys, seen) := numbered (middle two) seen
  (Difference.changes p.isMinimal seen.size xs ys).map fun c =>
    { c with first := c.first + front, second := c.second + front }

/-! ### Files -/

def known : Known :=
  { name := "diff", wrong := 2, hintIsNamed := true
    letters := "0123456789abBcC:dD:eEfF:hHiI:lL:nNpPqrsS:tTuU:vwW:x:X:yZ"
    hidden := "OJQRA::G::KM:VY:j:k:"
    words := [("ignore-case", 'i'), ("ignore-tab-expansion", 'E'), ("ignore-trailing-space", 'Z'),
      ("ignore-space-change", 'b'), ("ignore-all-space", 'w'), ("ignore-blank-lines", 'B'),
      ("ignore-matching-lines", 'I'), ("text", 'a'), ("brief", 'q'), ("ed", 'e'),
      ("forward-ed", 'f'), ("rcs", 'n'), ("normal", 'O'), ("unified", 'G'), ("context", 'A'),
      ("side-by-side", 'y'), ("width", 'W'), ("left-column", 'J'), ("suppress-common-lines", 'Q'),
      ("report-identical-files", 's'), ("recursive", 'r'), ("new-file", 'N'),
      ("unidirectional-new-file", 'P'), ("exclude", 'x'), ("starting-file", 'S'),
      ("show-c-function", 'p'), ("show-function-line", 'F'), ("label", 'L'), ("expand-tabs", 't'),
      ("initial-tab", 'T'), ("tabsize", 'M'), ("suppress-blank-empty", 'V'),
      ("strip-trailing-cr", 'R'), ("minimal", 'd'), ("horizon-lines", 'Y'),
      ("speed-large-files", 'H'), ("no-dereference", 'K'), ("from-file", 'j'), ("to-file", 'k')] }

structure Subject where
  name : Octets
  node : Option Node
  number : Option Nat := none
  time : Int := 0

def Subject.isFolder (s : Subject) : Bool :=
  match s.node.map Node.body with
  | some (.folder ..) => true
  | _ => false

def subject (name : Octets) : Exec (Except FileError Subject) := do
  let seen ←
    if name == ['-'] then
      match (← Exec.ask Process.streams).lookup 0 with
      | none => pure (.error FileError.badStream)
      | some key => do
        match ← Exec.opened? key with
        | some opened => pure (.ok (Exec.Seen.ofStream opened))
        | none => pure (.error FileError.badStream)
    else Exec.look true name
  match seen with
  | .error why => return .error why
  | .ok seen =>
    let node ← Exec.nodeOf seen
    let number := match seen with
      | .node n => some n
      | .stream _ => none
    let time ← if name == ['-'] then Exec.now else pure node.modified
    return .ok { name, node := some node, number, time }

def headName (name : Octets) : Octets :=
  let inner := name.flatMap fun c =>
    if c == '"' || c == '\\' then ['\\', c] else if c.toNat < 32 then escaped c else [c]
  if inner.length = name.length && !name.contains ' ' then name else '"' :: inner ++ ['"']

def Plan.head (p : Plan) (index : Nat) (s : Subject) : Octets :=
  match p.manner.labels[index]?, p.manner.style with
  | some label, _ => label
  | none, .context _ =>
    headName s.name ++ '\t' ::
      (Calendar.ofTime p.zone s.time).format p.zone "%a %b %e %T %Y".toList
  | none, _ => headName s.name ++ '\t' :: fullTime p.zone s.time

def Plan.called (p : Plan) (index : Nat) (s : Subject) : Octets :=
  p.manner.labels.getD index s.name

def Plan.say (p : Plan) (before : String) (a b : Subject) (after : String) : Exec Unit :=
  Exec.printLine (before.toList ++ p.called 0 a ++ " and ".toList ++ p.called 1 b ++ after.toList)

def Plan.compareTexts (p : Plan) (isInside : Bool) (a b : Subject) (one two : Octets) :
    Exec Nat := do
  let isBinary (o : Octets) : Bool := (o.take 4096).contains (Char.ofNat 0)
  if !p.isText && (isBinary one || isBinary two) then
    if one = two then return 0
    p.say (if p.isBrief then "Files " else "Binary files ") a b " differ"
    return if p.isBrief then 1 else 2
  let (left, right) := (p.linesOf one, p.linesOf two)
  let changes := p.changes left right
  let isIdle (c : Change) : Bool :=
    (p.ignoresEmpty || !p.ignored.isEmpty) &&
      ((left.extract c.first (c.first + c.removed)) ++
        right.extract c.second (c.second + c.added)).all p.isIdle
  let differs := changes.any fun c => !isIdle c
  if p.isBrief then
    if differs then p.say "Files " a b " differ"
    return status !differs
  let report : Report :=
    { manner := p.manner, first := ⟨left, p.head 0 a⟩, second := ⟨right, p.head 1 b⟩ }
  let text := report.text isIdle changes
  if isInside && (differs || (p.manner.style == .columns && !p.manner.hidesCommon)) then
    let name (index : Nat) (s : Subject) : Octets :=
      (p.manner.labels[index]?).getD (headName s.name)
    Exec.printLine (Octets.spaced ("diff".toList :: p.words.map shown ++ [name 0 a, name 1 b]))
  if differs || p.manner.style == .columns then Exec.print text
  let mut result := status !differs
  if !p.isExact then
    for (s, o) in [(a, one), (b, two)] do
      if o.getLast?.any (· != '\n') then
        complain "diff" (s.name ++ ": No newline at end of file\n".toList)
        result := 2
  return result

def read (s : Subject) : Exec (Except FileError Octets) :=
  if s.node.isNone then return .ok [] else content s.name

def Plan.namesIn (p : Plan) (isTop : Bool) (s : Subject) : Exec (List Octets) := do
  match s.number with
  | none => return []
  | some n =>
    let names := (← Exec.namesIn n).filter fun name =>
      !p.isExcluded name && !(isTop && p.startName.any fun start => Octets.before name start)
    return names.mergeSort fun a b => !Octets.before b a

def paired : Nat → List Octets → List Octets → List (Octets × Bool × Bool)
  | 0, _, _ => []
  | _, [], bs => bs.map fun b => (b, false, true)
  | _, as, [] => as.map fun a => (a, true, false)
  | n + 1, a :: as, b :: bs =>
    if a = b then (a, true, true) :: paired n as bs
    else if Octets.before a b then (a, true, false) :: paired n as (b :: bs)
    else (b, false, true) :: paired n (a :: as) bs

def Plan.compare (p : Plan) : Nat → Option (Octets × Octets) → Subject → Subject → Exec Nat
  | 0, _, _, _ => return 2
  | depth + 1, folders, a, b => do
    let isInside := folders.isSome
    let onlyIn (s other : Subject) : Exec Nat := do
      let folder := match folders with
        | some (x, y) => if other.node.isNone && s.name == a.name then x else y
        | none => []
      Exec.printLine ("Only in ".toList ++ folder ++ ": ".toList ++ nameOf s.name)
      return 1
    if a.node.isNone && b.node.isNone then return 0
    if a.node.isNone && !p.addsFirst then return ← onlyIn b a
    if b.node.isNone && !p.addsSecond then return ← onlyIn a b
    let isSame := a.number.isSome && a.number == b.number
    let needsNothing := p.manner.style != .columns || p.manner.hidesCommon
    let result ←
      if isSame && needsNothing then pure 0
      else if (a.isFolder || a.node.isNone) && (b.isFolder || b.node.isNone) then
        if (a.node.isNone || b.node.isNone) && !p.isRecursive then
          if a.node.isNone then onlyIn b a else onlyIn a b
        else if isInside && !p.isRecursive then do
          Exec.printLine ("Common subdirectories: ".toList ++ a.name ++ " and ".toList ++ b.name)
          pure 0
        else do
          let (one, two) := (← p.namesIn (!isInside) a, ← p.namesIn (!isInside) b)
          let names := paired (one.length + two.length) one two
          let mut worst := 0
          for (name, inA, inB) in names do
            let (x, y) := (inside a.name name, inside b.name name)
            let one ← if inA then subject x else pure (.ok { name := x, node := none })
            let two ← if inB then subject y else pure (.ok { name := y, node := none })
            let n ← match one, two with
              | .ok one, .ok two => Plan.compare p depth (some (a.name, b.name)) one two
              | one, two => do
                if let .error why := one then complain "diff" (x ++ ": ".toList ++ why.message)
                if let .error why := two then complain "diff" (y ++ ": ".toList ++ why.message)
                pure 2
            worst := max worst n
          pure worst
      else
        let isPlain (s : Subject) : Bool := match s.node.map Node.body with
          | some (.file _) | none => true
          | _ => false
        if a.isFolder || b.isFolder || (isInside && !(isPlain a && isPlain b)) then do
          let kind (s : Subject) : Octets := (s.node.map fun n => kindWords n.body).getD []
          Exec.printLine ("File ".toList ++ p.called 0 a ++ " is a ".toList ++ kind a ++
            " while file ".toList ++ p.called 1 b ++ " is a ".toList ++ kind b)
          pure 1
        else do
          match ← read a, ← if isSame then pure (.ok []) else read b with
          | .ok one, .ok two => p.compareTexts isInside a b one (if isSame then one else two)
          | one, two => do
            if let .error why := one then complain "diff" (a.name ++ ": ".toList ++ why.message)
            if let .error why := two then complain "diff" (b.name ++ ": ".toList ++ why.message)
            pure 2
    if result = 0 && p.tellsIdentical && !a.isFolder then p.say "Files " a b " are identical"
    return result

def Plan.compareOperands (p : Plan) (x y : Octets) : Exec Nat := do
  let one ← subject x
  let two ← if x == y then pure one else subject y
  let isMissing (s : Except FileError Subject) : Bool := match s with
    | .error .notFound | .error .badStream => true
    | _ => false
  let isThere (s : Except FileError Subject) : Bool := match s with
    | .ok _ => true
    | _ => false
  let settled (adds : Bool) (name : Octets) (s other : Except FileError Subject) :
      Except FileError Subject :=
    if adds && isMissing s && isThere other then .ok { name, node := none } else s
  match settled p.addsFirst x one two, settled p.addsSecond y two one with
  | .ok a, .ok b =>
    let depth := (← Exec.observe World.volume).nodes.size + 2
    if a.node.isSome && b.node.isSome && a.isFolder != b.isFolder then
      let (file, folder) := if a.isFolder then (b, a) else (a, b)
      if file.name == ['-'] then
        complain "diff" "cannot compare '-' to a directory".toList
        return 2
      let path := inside folder.name (nameOf file.name)
      match ← subject path with
      | .error why =>
        complain "diff" (path ++ ": ".toList ++ why.message)
        return 2
      | .ok s => if a.isFolder then p.compare depth none s b else p.compare depth none a s
    else p.compare depth none a b
  | one, two =>
    if let .error why := one then complain "diff" (x ++ ": ".toList ++ why.message)
    if let .error why := two then complain "diff" (y ++ ": ".toList ++ why.message)
    return 2

/-! ### Options -/

def optionWords : Bool → List Octets → List Octets
  | _, [] => []
  | true, w :: rest => w :: optionWords false rest
  | false, w :: rest =>
    if w == "--".toList then [w]
    else if w.head? == some '-' && w != ['-'] then
      let needsNext := match Utility.read known [w] with
        | .error _ => true
        | .ok _ => false
      w :: optionWords needsNext rest
    else optionWords false rest

def number (what : String) (o : Octets) : Except Octets Nat :=
  match Octets.takeInteger o with
  | (true, n, []) => if 0 ≤ n then .ok n.toNat else .error (what.toList ++ ' ' :: quote o)
  | _ => .error (what.toList ++ ' ' :: quote o)

def choose (chosen : Option Style) (style : Style) : Except Octets (Option Style) :=
  let kind : Style → Nat := fun s => match s with
    | .plain => 0
    | .context _ => 1
    | .unified _ => 2
    | .commands false => 3
    | .commands true => 4
    | .counted => 5
    | .columns => 6
  match chosen, style with
  | none, s => .ok (some s)
  | some (.context a), .context b => .ok (some (.context (max a b)))
  | some (.unified a), .unified b => .ok (some (.unified (max a b)))
  | some a, b =>
    if kind a = kind b then .ok (some a) else .error "conflicting output style options".toList

def styleOf (found : Given) : Except Octets Style := do
  let around (o : Octets) : Except Octets Nat :=
    if o.isEmpty then .ok 3 else number "invalid context length" o
  let chosen ← found.foldlM (fun (chosen : Option Style) (c, o) => do
    match c with
    | 'c' | 'A' => choose chosen (.context (← around o))
    | 'C' => choose chosen (.context (← number "invalid context length" o))
    | 'u' | 'G' => choose chosen (.unified (← around o))
    | 'U' => choose chosen (.unified (← number "invalid context length" o))
    | 'e' => choose chosen (.commands false)
    | 'f' => choose chosen (.commands true)
    | 'n' => choose chosen .counted
    | 'y' => choose chosen .columns
    | 'O' => choose chosen .plain
    | _ => .ok chosen) none
  let style := chosen.getD (if has found 'p' then .context 3 else .plain)
  let digits := (found.map Prod.fst).filter Char.isDigit
  let isExplicit := found.any fun (c, o) => "CUAG".toList.contains c && !o.isEmpty
  let change (n : Nat) : Nat :=
    let given := (Octets.takeDigits 10 digits).2.1
    if digits.isEmpty then n
    else if n < given || !isExplicit then given else n
  match style with
  | .context n => return .context (change n)
  | .unified n => return .unified (change n)
  | style => return style

def spacingOf (found : Given) : Spacing :=
  if has found 'w' then .nothing
  else if has found 'b' then .amount
  else if has found 'E' || has found 'Z' then .someKind (has found 'E') (has found 'Z')
  else .all

def allOf (found : Given) (c : Char) : List Octets :=
  found.filterMap fun (d, o) => if d == c then some o else none

def regexes (all : List Octets) : Except Octets (List Regex) :=
  all.mapM fun o =>
    match Regex.read {} o with
    | .ok r => .ok r
    | .error why => .error (o ++ ": ".toList ++ why.toList)

def plan (zone : Zone) (words : List Octets) (found : Given) : Except (Octets × Bool) Plan := do
  let hinted {α : Type} (r : Except Octets α) : Except (Octets × Bool) α := match r with
    | .ok a => .ok a
    | .error complaint => .error (complaint, true)
  let bare {α : Type} (r : Except Octets α) : Except (Octets × Bool) α := match r with
    | .ok a => .ok a
    | .error complaint => .error (complaint, false)
  let style ← hinted (styleOf found)
  let positive (what : String) (c : Char) (usual : Nat) : Except Octets Nat :=
    match argument? found c with
    | none => .ok usual
    | some o => do
      let n ← number what o
      if n = 0 then .error (what.toList ++ ' ' :: quote o) else .ok n
  let width ← hinted (positive "invalid width" 'W' 130)
  let tabSize ← hinted (positive "invalid tabsize" 'M' 8)
  let given ← hinted (match argument? found 'Y' with
    | none => .ok 0
    | some o => number "invalid horizon length" o)
  let ignored ← bare (regexes (allOf found 'I'))
  let heads ← bare (regexes
    (allOf found 'F' ++ if has found 'p' then ["^[[:alpha:]$_]".toList] else []))
  let labels := allOf found 'L'
  if 2 < labels.length then .error ("too many file label options".toList, false)
  let around := match style with
    | .context n | .unified n => n
    | _ => 0
  let patterns := (allOf found 'x').map Pattern.ofOctets
  return {
    manner := {
      style, width, tabSize, labels
      beginsWithTab := has found 'T', expandsTabs := has found 't', isLeftOnly := has found 'J'
      hidesCommon := has found 'Q', leavesEmpty := has found 'V'
      heads := heads.foldl (fun all r => some ((all.map fun a => Regex.either a r).getD r)) none }
    isBrief := has found 'q', tellsIdentical := has found 's', isRecursive := has found 'r'
    addsFirst := has found 'N' || has found 'P', addsSecond := has found 'N'
    isText := has found 'a', isMinimal := has found 'd', ignoresCase := has found 'i'
    spacing := spacingOf found, ignoresEmpty := has found 'B', ignored
    dropsReturns := has found 'R'
    isExcluded := fun name => patterns.any fun p => p.isMatch name
    startName := argument? found 'S', horizon := max given around, zone, words }

end Difference

/-- Compare files and folders. -/
def diff : Utility := fun run arguments =>
  withOptions Difference.known (fun _ found operands => do
    match Difference.plan (← zone) (Difference.optionWords false arguments) found with
    | .error (complaint, true) => misuse Difference.known complaint
    | .error (complaint, false) =>
      complain "diff" complaint
      return 2
    | .ok p =>
      let each (pairs : List (Octets × Octets)) : Exec Nat :=
        pairs.foldlM (fun worst (x, y) => do return max worst (← p.compareOperands x y)) 0
      match argument? found 'j', argument? found 'k', operands with
      | some _, some _, _ =>
        complain "diff" "--from-file and --to-file both specified".toList
        return 2
      | some x, none, ys => each (ys.map fun y => (x, y))
      | none, some y, xs => each (xs.map fun x => (x, y))
      | none, none, [x, y] => p.compareOperands x y
      | none, none, _ :: _ :: extra :: _ => tooMany Difference.known extra
      | none, none, operands => do
        let last := (operands.getLast?.or arguments.getLast?).getD (← calledName "diff")
        misuse Difference.known ("missing operand after ".toList ++ quote last)) run arguments

end Interpolation.Shell.Utility
