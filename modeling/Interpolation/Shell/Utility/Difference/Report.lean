import Interpolation.Shell.Regex
import Interpolation.Shell.Utility.Difference.Script

/-!
# Reports of changes

Changes between two files are written change by change, with the lines around them, as commands that
make them, or in two columns. Lines are counted from one in a report; a range of no lines is named
by the line before it.
-/

namespace Interpolation.Shell.Utility.Difference

/-- The way changes are written. -/
inductive Style where
  | plain
  | context (around : Nat)
  | unified (around : Nat)
  | commands (isForward : Bool)
  | counted
  | columns
  deriving DecidableEq, Repr

/-- What else is chosen for a report. -/
structure Manner where
  style : Style := .plain
  beginsWithTab : Bool := false
  expandsTabs : Bool := false
  tabSize : Nat := 8
  width : Nat := 130
  isLeftOnly : Bool := false
  hidesCommon : Bool := false
  leavesEmpty : Bool := false
  heads : Option Regex := none
  labels : List Octets := []

structure Side where
  lines : Array Octets
  head : Octets

/-- Two files, and how they are reported on. -/
structure Report where
  manner : Manner
  first : Side
  second : Side

namespace Report

variable (r : Report)

def expanded (size : Nat) (lead : Octets) : Nat → Octets → Octets
  | _, [] => []
  | column, c :: rest =>
    let next (text : Octets) (column : Nat) : Octets := text ++ expanded size lead column rest
    match c with
    | '\t' =>
      let spaces := size - column % size
      next (List.replicate spaces ' ') (column + spaces)
    | '\r' => next (c :: if rest.isEmpty || rest.head? == some '\n' then [] else lead) 0
    | _ =>
      if c.toNat = 8 then if column = 0 then next [] 0 else next [c] (column - 1)
      else next [c] (if 32 ≤ c.toNat && c.toNat < 127 then column + 1 else column)

def textOf (lead line : Octets) : Octets :=
  if r.manner.expandsTabs then expanded r.manner.tabSize lead 0 line else line

def noEnd (line : Octets) : Octets :=
  if line.getLast? == some '\n' then [] else "\n\\ No newline at end of file\n".toList

def flagged (flag : String) (line : Octets) : Octets :=
  let lead :=
    if r.manner.leavesEmpty && line == ['\n'] then
      (if flag == " " then [] else flag.toList)
    else flag.toList ++ [if r.manner.beginsWithTab then '\t' else ' ']
  lead ++ r.textOf lead line ++ noEnd line

def marked (mark : Char) (line : Octets) : Octets :=
  let isBare := r.manner.leavesEmpty && line == ['\n']
  let lead := if mark == ' ' then
      if isBare then [] else [if r.manner.beginsWithTab then '\t' else ' ']
    else mark :: if r.manner.beginsWithTab && !isBare then ['\t'] else []
  lead ++ r.textOf [] line ++ noEnd line

def range (separator : Char) (start count : Nat) : Octets :=
  if 1 < count then Text.ofNat (start + 1) ++ separator :: Text.ofNat (start + count)
  else Text.ofNat (start + count)

def letter (c : Change) : Char :=
  if c.removed = 0 then 'a' else if c.added = 0 then 'd' else 'c'

def Side.slice (s : Side) (start count : Nat) : List Octets :=
  (s.lines.extract start (start + count)).toList

def removed (c : Change) : List Octets :=
  Side.slice r.first c.first c.removed

def added (c : Change) : List Octets :=
  Side.slice r.second c.second c.added

def plain (c : Change) : Octets :=
  range ',' c.first c.removed ++ letter c :: range ',' c.second c.added ++ '\n' ::
    (r.removed c).flatMap (r.flagged "<") ++
    (if c.removed != 0 && c.added != 0 then "---\n".toList else []) ++
    (r.added c).flatMap (r.flagged ">")

/-! ### Commands -/

def insertion : Bool → List Octets → Octets
  | isOpen, [] => if isOpen then ".\n".toList else []
  | isOpen, line :: rest =>
    (if isOpen then [] else "a\n".toList) ++
      if line == ".\n".toList then "..\n.\ns/.//\n".toList ++ insertion false rest
      else line ++ insertion true rest

def command (c : Change) : Octets :=
  range ',' c.first c.removed ++ letter c :: '\n' ::
    if c.added = 0 then [] else insertion true ((r.added c).map (r.textOf []))

def forwardCommand (c : Change) : Octets :=
  letter c :: range ' ' c.first c.removed ++ '\n' ::
    if c.added = 0 then [] else (r.added c).flatMap (r.textOf []) ++ ".\n".toList

def countedCommand (c : Change) : Octets :=
  (if c.removed = 0 then []
    else 'd' :: Text.ofNat (c.first + 1) ++ ' ' :: Text.ofNat c.removed ++ ['\n']) ++
  if c.added = 0 then []
  else
    'a' :: Text.ofNat (c.first + c.removed) ++ ' ' :: Text.ofNat c.added ++ '\n' ::
      (r.added c).flatMap (r.textOf [])

/-! ### Lines around changes -/

def hunks (around : Nat) (isIdle : Change → Bool) : List Change → List (List Change)
  | [] => []
  | c :: rest =>
    match hunks around isIdle rest with
    | (next :: more) :: others =>
      let most := if isIdle c || isIdle next then around else 2 * around + 1
      if next.first - (c.first + c.removed) < most then (c :: next :: more) :: others
      else [c] :: (next :: more) :: others
    | others => [c] :: others

def extent (around : Nat) (hunk : List Change) : (Nat × Nat) × (Nat × Nat) :=
  match hunk.head?, hunk.getLast? with
  | some a, some b =>
    let cut (size start stop : Nat) : Nat × Nat :=
      let from_ := start - around
      (from_, min size (stop + around) - from_)
    (cut r.first.lines.size a.first (b.first + b.removed),
      cut r.second.lines.size a.second (b.second + b.added))
  | _, _ => ((0, 0), (0, 0))

def headOf (start : Nat) : Octets :=
  match r.manner.heads with
  | none => []
  | some regex =>
    let before := (Side.slice r.first 0 start).reverse
    let bare (line : Octets) : Octets := Text.dropTrailing '\n' line
    match before.find? fun line => (regex.find? false (bare line)).isSome with
    | none => []
    | some line =>
      let kept := (line.dropWhile fun c => Octets.isSpace c && c != '\n').takeWhile (· != '\n')
      ' ' :: ((kept.take 40).reverse.dropWhile Octets.isSpace).reverse

def span (start count : Nat) : Octets :=
  match count with
  | 0 => Text.ofNat start ++ ",0".toList
  | 1 => Text.ofNat (start + 1)
  | n => Text.ofNat (start + 1) ++ ',' :: Text.ofNat n

def together (stop : Nat) : Nat → List Change → Octets
  | start, [] => (Side.slice r.first start (stop - start)).flatMap (r.marked ' ')
  | start, c :: rest =>
    (Side.slice r.first start (c.first - start)).flatMap (r.marked ' ') ++
      (r.removed c).flatMap (r.marked '-') ++ (r.added c).flatMap (r.marked '+') ++
      together stop (c.first + c.removed) rest

def unified (around : Nat) (hunk : List Change) : Octets :=
  let (a, b) := r.extent around hunk
  "@@ -".toList ++ span a.1 a.2 ++ " +".toList ++ span b.1 b.2 ++ " @@".toList ++ r.headOf a.1 ++
    '\n' :: r.together (a.1 + a.2) a.1 hunk

def flagAt (isFirst : Bool) (hunk : List Change) (i : Nat) : String :=
  let found := hunk.find? fun c =>
    if isFirst then c.first ≤ i && i < c.first + c.removed
    else c.second ≤ i && i < c.second + c.added
  match found with
  | none => " "
  | some c => if c.removed != 0 && c.added != 0 then "!" else if isFirst then "-" else "+"

def oneSide (isFirst : Bool) (hunk : List Change) (start count : Nat) : Octets :=
  let side := if isFirst then r.first else r.second
  (List.range count).flatMap fun i =>
    r.flagged (flagAt isFirst hunk (start + i)) (side.lines.getD (start + i) [])

def context (around : Nat) (hunk : List Change) : Octets :=
  let (a, b) := r.extent around hunk
  "***************".toList ++ r.headOf a.1 ++ "\n*** ".toList ++ range ',' a.1 a.2 ++
    " ****\n".toList ++
    (if hunk.any fun c => c.removed != 0 then r.oneSide true hunk a.1 a.2 else []) ++
    "--- ".toList ++ range ',' b.1 b.2 ++ " ----\n".toList ++
    if hunk.any fun c => c.added != 0 then r.oneSide false hunk b.1 b.2 else []

/-! ### Columns -/

def columnsOf : Nat × Nat :=
  let step := if r.manner.expandsTabs then 1 else r.manner.tabSize
  let w := r.manner.width
  let loose := w / 2 + (step + 3) / 2 + (if w % 2 = 1 && (step + 3) % 2 = 1 then 1 else 0)
  let off := loose - loose % step
  let half := if off ≤ 3 || w ≤ off then 0 else min (off - 3) (w - off)
  (half, if half = 0 then w else off)

def gap (size : Nat) : Nat → Nat → Nat → Octets
  | 0, _, _ => []
  | n + 1, start, stop =>
    let tab := start + size - start % size
    if size != 0 && tab ≤ stop then '\t' :: gap size n tab stop
    else List.replicate (stop - start) ' '

def lead (start stop : Nat) : Octets :=
  gap (if r.manner.expandsTabs then 0 else r.manner.tabSize) (stop + 1) start stop

def half (indent bound : Nat) : Nat → Nat → Octets → Octets × Nat
  | _, out, [] => ([], out)
  | place, out, c :: rest =>
    let next (text : Octets) (place out : Nat) : Octets × Nat :=
      let (more, last) := half indent bound place out rest
      (text ++ more, last)
    match c with
    | '\n' => ([], out)
    | '\t' =>
      let spaces := r.manner.tabSize - place % r.manner.tabSize
      if place = out then
        if r.manner.expandsTabs then
          let stop := min bound (out + spaces)
          next (List.replicate (stop - out) ' ') (place + spaces) (max out stop)
        else if out + spaces < bound then next [c] (place + spaces) (out + spaces)
        else next [] (place + spaces) out
      else next [] (place + spaces) out
    | '\r' => next (c :: r.lead 0 indent) 0 0
    | _ =>
      if c.toNat = 8 then
        if place = 0 then next [] place out
        else if bound ≤ place - 1 then next [] (place - 1) out
        else if out ≤ place - 1 then
          next (List.replicate (place - 1 - out) ' ') (place - 1) (place - 1)
        else next [c] (place - 1) (place - 1)
      else if 32 ≤ c.toNat && c.toNat < 127 then
        if place < bound then next [c] (place + 1) (place + 1) else next [] (place + 1) out
      else next (if place < bound then [c] else []) place out

def beside (left right : Option Octets) (between : Char) : Octets :=
  let (bound, start) := r.columnsOf
  let hasEnd (line : Option Octets) : Bool := line.any fun l => l.getLast? == some '\n'
  let (text, column) := (left.map (r.half 0 bound 0 0)).getD ([], 0)
  let (middle, column) :=
    if between == ' ' then ([], column)
    else
      let place := (bound + start - 1) / 2
      let sign :=
        if between == '|' && hasEnd left != hasEnd right then if hasEnd left then '/' else '\\'
        else between
      (r.lead column place ++ [sign], max column place + 1)
  let last := match right with
    | none | some ('\n' :: _) => []
    | some line => r.lead column start ++ (r.half start bound 0 0 line).1
  text ++ middle ++ last ++ if hasEnd left || hasEnd right then ['\n'] else []

def commonLines (i j countLeft countRight : Nat) : Octets :=
  let left := (Side.slice r.first i countLeft).map some
  let right := (Side.slice r.second j countRight).map some
  let both := min countLeft countRight
  if r.manner.hidesCommon then []
  else if r.manner.isLeftOnly then left.flatMap fun a => r.beside a none '('
  else
    ((left.zip right).flatMap fun (a, b) => r.beside a b ' ') ++
      ((right.drop both).flatMap fun b => r.beside none b ')') ++
      (left.drop both).flatMap fun a => r.beside a none '('

def changedLines (c : Change) : Octets :=
  let (removed, added) := (r.removed c, r.added c)
  let both := min c.removed c.added
  ((removed.zip added).flatMap fun (a, b) => r.beside (some a) (some b) '|') ++
    ((added.drop both).flatMap fun b => r.beside none (some b) '>') ++
    (removed.drop both).flatMap fun a => r.beside (some a) none '<'

def columns : Nat → Nat → List Change → Octets
  | i, j, [] => r.commonLines i j (r.first.lines.size - i) (r.second.lines.size - j)
  | i, j, c :: rest =>
    r.commonLines i j (c.first - i) (c.second - j) ++ r.changedLines c ++
      columns (c.first + c.removed) (c.second + c.added) rest

/-! ### The whole report -/

def text (isIdle : Change → Bool) (changes : List Change) : Octets :=
  let real := changes.filter fun c => !isIdle c
  let near (around : Nat) (shown : List Change → Octets) (one two : String) : Octets :=
    let all := (hunks around isIdle changes).filter fun hunk => hunk.any fun c => !isIdle c
    if all.isEmpty then []
    else
      one.toList ++ r.first.head ++ '\n' :: two.toList ++ r.second.head ++ '\n' :: all.flatMap shown
  match r.manner.style with
  | .plain => real.flatMap r.plain
  | .context around => near around (r.context around) "*** " "--- "
  | .unified around => near around (r.unified around) "--- " "+++ "
  | .commands false => real.reverse.flatMap r.command
  | .commands true => real.flatMap r.forwardCommand
  | .counted => real.flatMap r.countedCommand
  | .columns => r.columns 0 0 real

end Report

end Interpolation.Shell.Utility.Difference
