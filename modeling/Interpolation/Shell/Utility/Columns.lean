import Interpolation.Shell.Utility.Options

/-!
# Columns

These utilities print parts of lines, put lines side by side, and compare or join the lines of two
files that are in order.
-/

namespace Interpolation.Shell.Utility

/-- The lines of a text by the character that ends them; the last one may lack it. -/
def linesBy (last : Char) (text : Octets) : List Octets :=
  if last == '\n' then Octets.lines text
  else
    let pieces := text.splitOn last
    if pieces.getLast? == some [] then pieces.dropLast else pieces

def lineEnd (found : Given) : Char :=
  if has found 'z' then Char.ofNat 0 else '\n'

def endedBy (last : Char) (lines : List Octets) : Octets :=
  lines.flatMap fun line => line ++ [last]

/-! ### Parts of lines -/

/-- A range of places in a line, counted from one. -/
structure Range where
  first : Nat
  last : Option Nat
  deriving DecidableEq

def isIn (ranges : List Range) (n : Nat) : Bool :=
  ranges.any fun r => r.first ≤ n && r.last.all (n ≤ ·)

structure RangeWords where
  zero : String
  wrong : String
  range : String
  large : String

def fieldWords : RangeWords :=
  ⟨"fields are numbered from 1", "invalid field value ", "invalid field range", "field number "⟩

def byteWords : RangeWords :=
  ⟨"byte/character positions are numbered from 1", "invalid byte/character position ",
    "invalid byte or character range", "byte/character offset "⟩

structure RangeItem where
  left : Option Nat := none
  hasDash : Bool := false
  right : Option Nat := none

def RangeItem.finish (words : RangeWords) (item : RangeItem) : Except Octets Range :=
  match item.left, item.hasDash, item.right with
  | some 0, _, _ | none, false, _ | none, true, some 0 => .error words.zero.toList
  | some n, false, _ => .ok ⟨n, some n⟩
  | none, true, none => .error "invalid range with no endpoint: -".toList
  | left, true, none => .ok ⟨left.getD 1, none⟩
  | left, true, some right =>
    if right < left.getD 1 then .error "invalid decreasing range".toList
    else .ok ⟨left.getD 1, some right⟩

def readRanges (words : RangeWords) : Nat → RangeItem → Octets → Except Octets (List Range)
  | 0, _, _ => .ok []
  | _ + 1, item, [] => (item.finish words).map fun r => [r]
  | n + 1, item, c :: rest =>
    if c == '-' then
      if item.hasDash then .error words.range.toList
      else if item.left == some 0 then .error words.zero.toList
      else readRanges words n { item with hasDash := true } rest
    else if c == ',' || c == ' ' || c == '\t' then do
      let r ← item.finish words
      return r :: (← readRanges words n {} rest)
    else if c.isDigit then
      let digits := c :: rest.takeWhile Char.isDigit
      let (_, value, rest) := Octets.takeDigits 10 (c :: rest)
      if Nat.pow 2 64 - 1 ≤ value then
        .error (words.large.toList ++ quote digits ++ " is too large".toList)
      else if item.hasDash then readRanges words n { item with right := some value } rest
      else readRanges words n { item with left := some value } rest
    else .error (words.wrong.toList ++ quote (c :: rest))

def mergeRanges : List Range → List Range
  | a :: rest =>
    match mergeRanges rest with
    | b :: more =>
      if a.last.all (b.first ≤ ·) then
        let last := match a.last, b.last with
          | some m, some n => some (max m n)
          | _, _ => none
        ⟨a.first, last⟩ :: more
      else a :: b :: more
    | [] => [a]
  | [] => []

def gapsFrom (n : Nat) : List Range → List Range
  | [] => [⟨n, none⟩]
  | r :: rest =>
    let more := match r.last with
      | some last => gapsFrom (last + 1) rest
      | none => []
    if n < r.first then ⟨n, some (r.first - 1)⟩ :: more else more

def ranges? (words : RangeWords) (list : Octets) (leavesOut : Bool) :
    Except Octets (List Range) := do
  let ranges ← readRanges words (2 * list.length + 2) {} list
  let ranges := mergeRanges (mergeRanges (ranges.mergeSort fun a b => a.first ≤ b.first))
  return if leavesOut then gapsFrom 1 ranges else ranges

def cutKnown : Known :=
  { name := "cut", letters := "b:c:f:d:snz", hidden := "CO:"
    words := [("bytes", 'b'), ("characters", 'c'), ("fields", 'f'), ("delimiter", 'd'),
      ("only-delimited", 's'), ("complement", 'C'), ("output-delimiter", 'O'),
      ("zero-terminated", 'z')] }

def cut : Utility :=
  withOptions cutKnown fun _ found operands => do
    let lists := found.filter fun (c, _) => "bcf".toList.contains c
    let ofFields := has found 'f'
    let delimiter := (argument? found 'd').getD ['\t']
    let last := lineEnd found
    match lists, delimiter with
    | _, _ :: _ :: _ => misuse cutKnown "the delimiter must be a single character".toList
    | _ :: _ :: _, _ => misuse cutKnown "only one list may be specified".toList
    | [], _ => misuse cutKnown "you must specify a list of bytes, characters, or fields".toList
    | [(_, list)], _ =>
      if !ofFields && has found 'd' then
        misuse cutKnown "an input delimiter may be specified only when operating on fields".toList
      else if !ofFields && has found 's' then
        misuse cutKnown
          "suppressing non-delimited lines makes sense\n\tonly when operating on fields".toList
      else
        match ranges? (if ofFields then fieldWords else byteWords) list (has found 'C') with
        | .error complaint => misuse cutKnown complaint
        | .ok ranges =>
          let separator := delimiter.headD (Char.ofNat 0)
          let written := (argument? found 'O').map fun o => if o.isEmpty then [Char.ofNat 0] else o
          let fields (line : Octets) : List Octets :=
            if !line.contains separator then if has found 's' then [] else [line]
            else
              let chosen := (line.splitOn separator).zipIdx.filterMap fun (field, i) =>
                if isIn ranges (i + 1) then some field else none
              [(written.getD [separator]).intercalate chosen]
          let bytes (line : Octets) : List Octets :=
            let chosen := line.zipIdx.filter fun (_, i) => isIn ranges (i + 1)
            let front := (chosen.head?.map Prod.snd).getD 0
            [chosen.flatMap fun (c, i) =>
              if i != front && ranges.any fun r => r.first = i + 1 then written.getD [] ++ [c]
              else [c]]
          let mut isFine := true
          for operand in inputs operands do
            match ← flow operand with
            | .ok text =>
              Exec.print (endedBy last
                ((linesBy last text).flatMap (if ofFields then fields else bytes)))
            | .error why =>
              complainOf "cut" operand why
              isFine := false
          return status isFine

/-! ### Lines side by side -/

def delimitersOf : Octets → Option (List Octets)
  | [] => some []
  | ['\\'] => none
  | '\\' :: c :: rest =>
    let text : Octets := match c with
      | '0' => []
      | 'b' => [Char.ofNat 8]
      | 'f' => [Char.ofNat 12]
      | 'n' => ['\n']
      | 'r' => ['\r']
      | 't' => ['\t']
      | 'v' => [Char.ofNat 11]
      | c => [c]
    (delimitersOf rest).map (text :: ·)
  | c :: rest => (delimitersOf rest).map ([c] :: ·)

def joined (delimiters : List Octets) (columns : List Octets) : Octets :=
  columns.zipIdx.flatMap fun (column, i) =>
    if i = 0 then column else delimiters.getD ((i - 1) % max 1 delimiters.length) [] ++ column

def rowsOf (sources : List Nat) : Nat → List (List Octets) → List (List Octets)
  | 0, _ => []
  | fuel + 1, texts =>
    let take (state : List Octets × List (List Octets) × Bool) (i : Nat) :
        List Octets × List (List Octets) × Bool :=
      let (row, texts, isFound) := state
      match texts.getD i [] with
      | line :: rest => (line :: row, texts.set i rest, true)
      | [] => ([] :: row, texts, isFound)
    let (row, texts, isFound) := sources.foldl take ([], texts, false)
    if isFound then row.reverse :: rowsOf sources fuel texts else []

def paste : Utility :=
  let known : Known :=
    { name := "paste", letters := "d:sz"
      words := [("delimiters", 'd'), ("serial", 's'), ("zero-terminated", 'z')] }
  withOptions known fun _ found operands => do
    let last := lineEnd found
    let list := (argument? found 'd').getD ['\t']
    match delimitersOf (if list.isEmpty then ['\\', '0'] else list) with
    | none =>
      refuse "paste" ("delimiter list ends with an unescaped backslash: ".toList ++ shown list)
    | some delimiters =>
      let names := inputs operands
      if has found 's' then
        let mut isFine := true
        for name in names do
          match ← content name with
          | .ok text =>
            let lines := linesBy last text
            Exec.print (joined delimiters lines ++ [last])
          | .error why =>
            complainOf "paste" name why
            isFine := false
        return status isFine
      else
        let distinct := names.eraseDups
        let mut texts : List (List Octets) := []
        for name in distinct do
          match ← content name with
          | .ok text => texts := texts ++ [linesBy last text]
          | .error why =>
            complainOf "paste" name why
            return 1
        let again := names.zipIdx.filter fun (name, i) => name != ['-'] && names.idxOf name != i
        let copies := again.map fun (name, _) => texts.getD (distinct.idxOf name) []
        let source (name : Octets) (i : Nat) : Nat :=
          match again.findIdx? fun (_, j) => j == i with
          | some k => distinct.length + k
          | none => distinct.idxOf name
        let all := texts ++ copies
        let sources := names.zipIdx.map fun (name, i) => source name i
        let height := Text.total (all.map List.length) + 1
        Exec.print (endedBy last ((rowsOf sources height all).map (joined delimiters)))
        return 0

/-! ### Lines in order -/

structure Ordered where
  rest : List Octets
  current : Option Octets := none
  previous : Option Octets := none
  number : Nat := 0
  hasWarned : Bool := false

/-- When lines out of order are complained about. -/
inductive OrderCheck where
  | never
  | always
  | afterMissing
  deriving DecidableEq

def orderCheck (found : Given) : OrderCheck :=
  match lastOf found "KN" with
  | some ('K', _) => .always
  | some _ => .never
  | none => .afterMissing

def checkLines (check : OrderCheck) (hasMissing : Bool) (before after : Octets) : Bool :=
  check == .never || (check == .afterMissing && !hasMissing) || !Octets.before after before

def inColumn (hidden : List Char) (separator : Octets) (column : Nat) (line : Octets) : Octets :=
  let isShown (c : Char) : Bool := !hidden.contains c
  let lead (c : Char) (n : Nat) : Octets := if n < column && isShown c then separator else []
  if isShown (Char.ofNat (48 + column)) then
    lead '1' 1 ++ (if column = 3 then lead '2' 2 else []) ++ line
  else []

def comm : Utility :=
  let known : Known :=
    { name := "comm", letters := "123z", hidden := "KNO:T"
      words := [("check-order", 'K'), ("nocheck-order", 'N'), ("output-delimiter", 'O'),
        ("total", 'T'), ("zero-terminated", 'z')] }
  withOptions known fun _ found operands => do
    match operands with
    | [] => misuse known "missing operand".toList
    | [one] => misuse known ("missing operand after ".toList ++ quote one)
    | _ :: _ :: extra :: _ => tooMany known extra
    | [a, b] =>
      let last := lineEnd found
      let separator := match argument? found 'O' with
        | some [] => [Char.ofNat 0]
        | some o => o
        | none => ['\t']
      let hidden := found.map Prod.fst
      let check := orderCheck found
      match ← content a, ← content b with
      | .error why, _ =>
        complainOf "comm" a why
        return 1
      | _, .error why =>
        complainOf "comm" b why
        return 1
      | .ok left, .ok right =>
        let say (column : Nat) (line : Octets) : Exec Unit :=
          Exec.print (inColumn hidden separator column (line ++ [last]))
        let step (isFirst hasMissing : Bool) (o : Ordered) : Exec (Except Unit Ordered) := do
          let name := if isFirst then "file 1" else "file 2"
          let (next, rest) : Option Octets × List Octets := match o.rest with
            | line :: rest => (some line, rest)
            | [] => (none, [])
          let pair := match next with
            | some line => o.current.map fun c => (c, line)
            | none => o.previous.bind fun p => o.current.map fun c => (p, c)
          let isBad := pair.any fun (x, y) => !checkLines check hasMissing x y
          if isBad && !o.hasWarned then
            complain "comm" (name.toList ++ " is not in sorted order".toList)
            if check == .always then return .error ()
          return .ok { o with
            rest, current := next, previous := o.current, hasWarned := o.hasWarned || isBad }
        let open_ (text : Octets) : Ordered :=
          match linesBy last text with
          | line :: rest => { rest, current := some line }
          | [] => { rest := [] }
        let total := left.length + right.length + 2
        let rec run (hasMissing : Bool) (counts : Nat × Nat × Nat) (x y : Ordered) :
            Nat → Exec Nat
          | 0 => return 1
          | fuel + 1 => do
            let order : Option Ordering := match x.current, y.current with
              | none, none => none
              | none, some _ => some .gt
              | some _, none => some .lt
              | some l, some m =>
                some (if l = m then .eq else if Octets.before l m then .lt else .gt)
            match order with
            | none =>
              if has found 'T' then
                let (n, m, k) := counts
                Exec.print (separator.intercalate
                  [Text.ofNat n, Text.ofNat m, Text.ofNat k, "total".toList] ++ [last])
              if x.hasWarned || y.hasWarned then refuse "comm" "input is not in sorted order".toList
              else return 0
            | some order =>
              let (n, m, k) := counts
              let hasMissing := hasMissing || order != .eq
              match order with
              | .eq => say 3 (y.current.getD [])
              | .lt => say 1 (x.current.getD [])
              | .gt => say 2 (y.current.getD [])
              let counts := match order with
                | .eq => (n, m, k + 1)
                | .lt => (n + 1, m, k)
                | .gt => (n, m + 1, k)
              let x' ← if order == .gt then pure (.ok x) else step true hasMissing x
              match x' with
              | .error () => return 1
              | .ok x =>
                let y' ← if order == .lt then pure (.ok y) else step false hasMissing y
                match y' with
                | .error () => return 1
                | .ok y => run hasMissing counts x y fuel
        run false (0, 0, 0) (open_ left) (open_ right) total

end Interpolation.Shell.Utility
