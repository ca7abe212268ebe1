import Interpolation.Shell.Utility.Columns

/-!
# Utilities for neighbours and widths

These utilities find lines that are like their neighbours, break lines that are too wide, and turn
tabs into blanks or blanks into tabs.
-/

namespace Interpolation.Shell.Utility

/-! ### Neighbours that are alike -/

def groupsOf (same : Octets → Octets → Bool) (lines : List Octets) : List (List Octets) :=
  let step (state : List (List Octets)) (line : Octets) : List (List Octets) :=
    match state with
    | group :: groups =>
      if same (group.headD []) line then (line :: group) :: groups else [line] :: group :: groups
    | [] => [[line]]
  ((lines.foldl step []).map List.reverse).reverse

def dropFields : Nat → Octets → Octets
  | 0, line => line
  | n + 1, line =>
    let isGap (c : Char) : Bool := c == ' ' || c == '\t' || c == '\n'
    dropFields n ((line.dropWhile isGap).dropWhile fun c => !isGap c)

inductive Separation where
  | none
  | before
  | after
  | between
  | around
  deriving DecidableEq

def separation? (names : List (String × Separation)) (usual : Separation) (word : Octets) :
    Option Separation :=
  if word.isEmpty then some usual
  else
    match names.find? fun (n, _) => n.toList == word with
    | some (_, s) => some s
    | Option.none =>
      match names.filter fun (n, _) => word.isPrefixOf n.toList with
      | [(_, s)] => some s
      | _ => Option.none

def uniqKnown : Known :=
  { name := "uniq", letters := "cdDuif:s:w:z", hidden := "A::G::"
    words := [("count", 'c'), ("repeated", 'd'), ("unique", 'u'), ("ignore-case", 'i'),
      ("skip-fields", 'f'), ("skip-chars", 's'), ("check-chars", 'w'), ("all-repeated", 'A'),
      ("group", 'G'), ("zero-terminated", 'z')] }

structure Uniqueness where
  found : Given
  skippedFields : Nat := 0
  skippedChars : Nat := 0
  compared : Option Nat := none
  showsAll : Bool := false
  showsGroups : Bool := false
  separation : Separation := .none

def Uniqueness.key (u : Uniqueness) (line : Octets) : Octets :=
  let rest := (dropFields u.skippedFields line).drop u.skippedChars
  let rest := match u.compared with
    | some n => rest.take n
    | none => rest
  if has u.found 'i' then rest.map Char.toLower else rest

def Uniqueness.chosen (u : Uniqueness) (group : List Octets) : List Octets :=
  let isRepeated := 1 < group.length
  if u.showsGroups then group
  else if u.showsAll then
    if !isRepeated then [] else if has u.found 'u' then group.dropLast else group
  else if (has u.found 'd' && !isRepeated) || (has u.found 'u' && isRepeated) then []
  else
    let lead :=
      if has u.found 'c' then Text.padLeft ' ' 7 (Text.ofNat group.length) ++ [' '] else []
    (group.take 1).map (lead ++ ·)

def Uniqueness.lines (u : Uniqueness) (lines : List Octets) : List Octets :=
  let groups := ((groupsOf (fun a b => u.key a == u.key b) lines).map u.chosen).filter
    fun g => !g.isEmpty
  match u.separation with
  | .none => groups.flatten
  | .before => groups.flatMap fun g => [] :: g
  | .after => groups.flatMap fun g => g ++ [[]]
  | .between => List.flatten (List.intersperse [[]] groups)
  | .around => if groups.isEmpty then [] else [] :: groups.flatMap fun g => g ++ [[]]

def skipped? (found : Given) (c : Char) : Except (Char × Octets) (Option Nat) :=
  match argument? found c with
  | none => .ok none
  | some w =>
    match Octets.natural? w with
    | some n => .ok (some n)
    | none => .error (c, w)

def uniq : Utility := fun run arguments =>
  let modern (w : Octets) : List Octets := match w with
    | '-' :: c :: digits =>
      if c.isDigit && digits.all Char.isDigit then ['-' :: 'f' :: c :: digits] else [w]
    | '+' :: c :: digits =>
      if c.isDigit && digits.all Char.isDigit then ['-' :: 's' :: c :: digits] else [w]
    | w => [w]
  withOptions uniqKnown (fun _ found operands => do
    let repeats : List (String × Separation) :=
      [("none", .none), ("prepend", .before), ("separate", .between)]
    let groups : List (String × Separation) :=
      [("prepend", .before), ("append", .after), ("separate", .between), ("both", .around)]
    let named := found.filterMap fun (c, a) =>
      if c == 'A' then some (true, a) else if c == 'G' then some (false, a) else none
    for (isRepeat, word) in named do
      let names := if isRepeat then repeats else groups
      if (separation? names .between word).isNone then
        return ← misuseOf uniqKnown (if isRepeat then "--all-repeated" else "--group").toList word
          (names.map Prod.fst)
    let numbers : Except (Char × Octets) Uniqueness := do
      let fields ← skipped? found 'f'
      let chars ← skipped? found 's'
      let compared ← skipped? found 'w'
      let separation := (named.map fun (isRepeat, word) =>
        if isRepeat then (separation? repeats .none word).getD .none
        else (separation? groups .between word).getD .between).getLast?
      return { found, skippedFields := fields.getD 0, skippedChars := chars.getD 0, compared
               showsAll := has found 'D' || has found 'A', showsGroups := has found 'G'
               separation := separation.getD .none }
    match numbers with
    | .error (c, w) =>
      let what := match c with
        | 'f' => "fields to skip"
        | 's' => "bytes to skip"
        | _ => "bytes to compare"
      refuse "uniq" (w ++ ": invalid number of ".toList ++ what.toList)
    | .ok u =>
      if let _ :: _ :: extra :: _ := operands then return ← tooMany uniqKnown extra
      if u.showsGroups && (has found 'c' || has found 'd' || has found 'u' || u.showsAll) then
        return ← misuse uniqKnown "--group is mutually exclusive with -c/-d/-D/-u".toList
      if has found 'c' && u.showsAll then
        return ← misuse uniqKnown
          "printing all duplicated lines and repeat counts is meaningless".toList
      let last := lineEnd found
      let input := operands.headD ['-']
      match ← flow input with
      | .error why =>
        if why == .isFolder then
          refuse "uniq" ("error reading ".toList ++ quote input ++ ": ".toList ++ why.message)
        else refuse "uniq" (shown input ++ ": ".toList ++ why.message)
      | .ok text =>
        let unique := endedBy last (u.lines (linesBy last text))
        match operands with
        | [_, output] =>
          if output == ['-'] then
            Exec.print unique
            return 0
          match ← Exec.save? output false unique with
          | none => return 0
          | some why => refuse "uniq" (shown output ++ ": ".toList ++ why.message)
        | _ =>
          Exec.print unique
          return 0) run (arguments.flatMap modern)

/-! ### Widths -/

def columnBehind (countsBytes : Bool) (column : Nat) (c : Char) : Nat :=
  if countsBytes then column + 1
  else if c == Char.ofNat 8 then column - 1
  else if c == '\r' then 0
  else if c == '\t' then (column / 8 + 1) * 8
  else column + 1

structure Folding where
  done : List Octets := []
  line : Octets := []
  column : Nat := 0

def Folding.step (countsBytes atBlanks : Bool) (width : Nat) (c : Char) :
    Nat → Folding → Folding
  | 0, f => f
  | fuel + 1, f =>
    if c == '\n' then { done := (c :: f.line).reverse :: f.done }
    else
      let column := columnBehind countsBytes f.column c
      if column ≤ width then { f with line := c :: f.line, column }
      else
        let isGap (c : Char) : Bool := c == ' ' || c == '\t'
        let rest := f.line.takeWhile fun c => !isGap c
        let kept := f.line.drop rest.length
        if atBlanks && !kept.isEmpty then
          let column := rest.reverse.foldl (columnBehind countsBytes) 0
          Folding.step countsBytes atBlanks width c fuel
            { done := ('\n' :: kept).reverse :: f.done, line := rest, column }
        else if f.line.isEmpty then { f with line := [c], column }
        else
          Folding.step countsBytes atBlanks width c fuel
            { done := ('\n' :: f.line).reverse :: f.done }

def fold : Utility := fun run arguments =>
  let modern (w : Octets) : Octets := match w with
    | '-' :: c :: digits => if c.isDigit then '-' :: 'w' :: c :: digits else w
    | w => w
  let known : Known :=
    { name := "fold", letters := "bsw:",
      words := [("width", 'w'), ("spaces", 's'), ("bytes", 'b')] }
  withOptions known (fun _ found operands => do
    let wanted := (argument? found 'w').getD "80".toList
    let wrong := "invalid number of columns: ".toList ++ quote wanted
    match Octets.natural? wanted with
    | none => refuse "fold" wrong
    | some 0 => refuse "fold" (wrong ++ ": Numerical result out of range".toList)
    | some width =>
      if Nat.pow 2 64 - 10 < width then
        return ← refuse "fold" (wrong ++ ": Value too large for defined data type".toList)
      let mut isFine := true
      for operand in inputs operands do
        match ← flow operand with
        | .ok text =>
          let f := text.foldl (fun f c =>
            Folding.step (has found 'b') (has found 's') width c (f.line.length + 3) f)
            ({} : Folding)
          Exec.print (f.done.reverse.flatten ++ f.line.reverse)
        | .error why =>
          complainOf "fold" operand why
          isFine := false
      return status isFine) run (arguments.map modern)

/-! ### Tabs -/

structure Tabs where
  places : List Nat := []
  step : Option Nat := some 8
  isCounted : Bool := false

def Tabs.next? (t : Tabs) (column : Nat) : Option Nat :=
  match t.places.find? (column < ·) with
  | some place => some place
  | none =>
    t.step.map fun step =>
      let start := if t.isCounted then t.places.getLastD 0 else 0
      start + ((column - start) / step + 1) * step

def Tabs.read (lists : List Octets) : Except Octets Tabs := do
  let items := (lists.flatMap fun list =>
    list.splitOnP fun c => c == ',' || c == ' ' || c == '\t').filter fun w => !w.isEmpty
  let mut places : List Nat := []
  let mut tabs : Tabs := { step := none }
  for item in items do
    let (mark, digits) := match item with
      | '/' :: digits => (some '/', digits)
      | '+' :: digits => (some '+', digits)
      | digits => (none, digits)
    if digits.isEmpty || !digits.all Char.isDigit then
      let bad := digits.dropWhile Char.isDigit
      .error ("tab size contains invalid character(s): ".toList ++ quote bad)
    let n := (Octets.natural? digits).getD 0
    if Nat.pow 2 64 ≤ n then .error ("tab stop is too large ".toList ++ quote digits)
    match mark with
    | some mark =>
      if tabs.step.isSome then
        .error (if mark == '/' then "'/' specifier only allowed with the last value".toList
          else "'+' specifier only allowed with the last value".toList)
      tabs := { tabs with step := if n = 0 then none else some n, isCounted := mark == '+' }
    | none =>
      if n = 0 then .error "tab size cannot be 0".toList
      if places.getLast?.any fun before => n ≤ before then
        .error "tab sizes must be ascending".toList
      if tabs.step.isSome then
        .error "'/' specifier only allowed with the last value".toList
      places := places ++ [n]
  match places, tabs.step with
  | [n], none => return { places := [], step := some n }
  | [], none => return {}
  | _, _ => return { tabs with places }

structure Widening where
  out : Octets := []
  column : Nat := 0
  isOn : Bool := true

def Widening.step (t : Tabs) (onlyFirst : Bool) (w : Widening) (c : Char) : Widening :=
  if c == '\n' then { out := c :: w.out }
  else if !w.isOn then { w with out := c :: w.out }
  else
    let isOn := !onlyFirst || c == ' ' || c == '\t'
    if c == '\t' then
      let next := (t.next? w.column).getD (w.column + 1)
      { out := List.replicate (next - w.column) ' ' ++ w.out, column := next, isOn }
    else
      let column := if c == Char.ofNat 8 then w.column - 1 else w.column + 1
      { out := c :: w.out, column, isOn }

def modernTabs (arguments : List Octets) : List Octets :=
  arguments.map fun w =>
    match w with
    | '-' :: c :: rest => if c.isDigit then '-' :: 't' :: c :: rest else w
    | w => w

def retab (name : String) (change : Given → Tabs → Octets → Octets) : Utility := fun run arguments
=> let known : Known :=
    if name == "expand" then
      { name, letters := "it:", words := [("tabs", 't'), ("initial", 'i')] }
    else
      { name, letters := "at:", hidden := "F"
        words := [("tabs", 't'), ("all", 'a'), ("first-only", 'F')] }
  withOptions known (fun _ found operands => do
    let lists := found.filterMap fun (c, a) => if c == 't' then some a else none
    match Tabs.read lists with
    | .error complaint => refuse name complaint
    | .ok tabs =>
      let mut isFine := true
      for operand in inputs operands do
        match ← flow operand with
        | .ok text => Exec.print (change found tabs text)
        | .error why =>
          complainOf name operand why
          isFine := false
      return status isFine) run (modernTabs arguments)

def expand : Utility :=
  retab "expand" fun found tabs text =>
    (text.foldl (Widening.step tabs (has found 'i')) {}).out.reverse

structure Narrowing where
  out : Octets := []
  column : Nat := 0
  pending : Octets := []
  isSingle : Bool := false
  afterBlank : Bool := true
  isOn : Bool := true

def Narrowing.flush (w : Narrowing) : Narrowing :=
  let pending :=
    if 1 < w.pending.length && w.isSingle then w.pending.dropLast ++ ['\t'] else w.pending
  if pending.isEmpty then w
  else { w with out := pending ++ w.out, pending := [], isSingle := false }

def Narrowing.step (t : Tabs) (onlyFirst : Bool) (w : Narrowing) (c : Char) : Narrowing :=
  let isBlank := c == ' ' || c == '\t'
  let put (w : Narrowing) (c : Char) : Narrowing :=
    let w := w.flush
    { w with out := c :: w.out, afterBlank := isBlank, isOn := w.isOn && (!onlyFirst || isBlank) }
  if c == '\n' then { out := c :: w.flush.out }
  else if !w.isOn then { w with out := c :: w.out }
  else if isBlank then
    match t.next? w.column with
    | none => put { w with isOn := false } c
    | some next =>
      let replaced (column : Nat) : Narrowing :=
        put { w with column, pending := if w.isSingle then ['\t'] else [] } '\t'
      if c == '\t' then replaced next
      else
        let column := w.column + 1
        if w.afterBlank && column = next then replaced column
        else
          { w with
            column, pending := c :: w.pending, afterBlank := true
            isSingle := w.isSingle || column = next }
  else if c == Char.ofNat 8 then put { w with column := w.column - 1 } c
  else put { w with column := w.column + 1 } c

/-- Write blanks as tabs. -/
def unexpand : Utility :=
  retab "unexpand" fun found tabs text =>
    let all := (has found 'a' || has found 't') && !has found 'F'
    (text.foldl (Narrowing.step tabs (!all)) {}).flush.out.reverse

end Interpolation.Shell.Utility
