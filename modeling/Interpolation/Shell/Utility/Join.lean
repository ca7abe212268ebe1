import Interpolation.Shell.Utility.Columns

/-!
# Joining lines

The lines of two files that have the same field are joined. Both files have to be in the order of
that field; lines out of order are complained about once they may have been missed.
-/

namespace Interpolation.Shell.Utility

namespace Join

structure Row where
  line : Octets
  fields : List Octets

inductive Column where
  | key
  | field (isFirst : Bool) (index : Nat)

structure Plan where
  found : Given
  tab : Option Char
  keys : Nat × Nat
  columns : Option (List Column)
  counts : Option (Nat × Nat) := none
  filler : Octets
  last : Char
  check : OrderCheck

def blankFields : Nat → Octets → List Octets
  | 0, _ => []
  | n + 1, o =>
    let field := o.takeWhile fun c => !Octets.isBlank c
    match o.drop field.length with
    | [] => [field]
    | rest =>
      let next := rest.dropWhile Octets.isBlank
      if next.isEmpty then [field, []] else field :: blankFields n next

def Plan.row (p : Plan) (line : Octets) : Row :=
  let fields := match p.tab with
    | some '\n' => if line.isEmpty then [] else [line]
    | some tab => if line.isEmpty then [] else line.splitOn tab
    | none =>
      let bare := line.dropWhile Octets.isBlank
      if bare.isEmpty then [] else blankFields (line.length + 1) bare
  ⟨line, fields⟩

def Plan.key (p : Plan) (isFirst : Bool) (r : Row) : Octets :=
  let field := r.fields.getD (if isFirst then p.keys.1 else p.keys.2) []
  if has p.found 'i' then field.map Char.toUpper else field

def order (a b : Octets) : Ordering :=
  if a = b then .eq else if Octets.before a b then .lt else .gt

def Plan.shown (p : Plan) (r : Option Row) (i : Nat) : Octets :=
  let field := ((r.bind fun r => r.fields[i]?)).getD []
  if field.isEmpty then p.filler else field

def Plan.joined (p : Plan) (a b : Option Row) : Octets :=
  let separator := p.tab.getD ' '
  let (mainRow, mainKey) := match a with
    | some _ => (a, p.keys.1)
    | none => (b, p.keys.2)
  let others (r : Option Row) (key : Nat) (count : Option Nat) : List Octets :=
    let n := count.getD ((r.map fun r => r.fields.length).getD 0)
    ((List.range n).filter (· != key)).map (p.shown r)
  let fields := match p.columns with
    | some columns => columns.map fun column =>
      match column with
      | .key => p.shown mainRow mainKey
      | .field true i => p.shown a i
      | .field false i => p.shown b i
    | none =>
      p.shown mainRow mainKey :: others a p.keys.1 (p.counts.map Prod.fst) ++
        others b p.keys.2 (p.counts.map Prod.snd)
  [separator].intercalate fields ++ [p.last]

structure Source where
  name : Octets
  rest : List Row
  previous : Option Row := none
  number : Nat := 0
  hasWarned : Bool := false

structure State where
  first : Source
  second : Source
  hasMissing : Bool := false
  isStopped : Bool := false

def State.source (s : State) (isFirst : Bool) : Source :=
  if isFirst then s.first else s.second

def next (p : Plan) (isFirst : Bool) (s : State) : Exec (Option Row × State) := do
  let source := s.source isFirst
  let put (source : Source) (s : State) : State :=
    if isFirst then { s with first := source } else { s with second := source }
  match source.rest with
  | [] => return (none, s)
  | row :: rest =>
    let number := source.number + 1
    let isBad := source.previous.any fun before =>
      (p.check == .always || (p.check == .afterMissing && s.hasMissing)) && !source.hasWarned &&
        order (p.key isFirst before) (p.key isFirst row) == .gt
    if isBad then
      complain "join" (source.name ++ ':' :: Text.ofNat number ++ ": is not sorted: ".toList ++
        row.line)
    let next : Source :=
      { source with rest, previous := some row, number, hasWarned := source.hasWarned || isBad }
    if isBad && p.check == .always then return (none, { put next s with isStopped := true })
    else return (some row, put next s)

def run (p : Plan) (isFirst : Bool) (key : Octets) :
    Nat → List Row → State → Exec (List Row × Option Row × State)
  | 0, rows, s => return (rows.reverse, none, s)
  | n + 1, rows, s => do
    let (row, s) ← next p isFirst s
    match row with
    | none => return (rows.reverse, none, s)
    | some row =>
      if p.key isFirst row = key then run p isFirst key n (row :: rows) s
      else return (rows.reverse, some row, s)

def drain (p : Plan) (isFirst prints : Bool) : Nat → Option Row → State → Exec State
  | 0, _, s => return s
  | _ + 1, none, s => return s
  | n + 1, some row, s => do
    if prints then
      Exec.print (if isFirst then p.joined (some row) none else p.joined none (some row))
    if (s.source isFirst).hasWarned && !prints then return s
    let (row, s) ← next p isFirst s
    drain p isFirst prints n row s

def Plan.printsAlone (p : Plan) (isFirst : Bool) : Bool :=
  p.found.any fun (c, a) => (c == 'a' || c == 'v') && a == [if isFirst then '1' else '2']

def merge (p : Plan) : Nat → Option Row → Option Row → State → Exec State
  | n + 1, some a, some b, s => do
    if s.isStopped then return s
    match order (p.key true a) (p.key false b) with
    | .lt =>
      if p.printsAlone true then Exec.print (p.joined (some a) none)
      let (a, s) ← next p true s
      merge p n a (some b) { s with hasMissing := true }
    | .gt =>
      if p.printsAlone false then Exec.print (p.joined none (some b))
      let (b, s) ← next p false s
      merge p n (some a) b { s with hasMissing := true }
    | .eq =>
      let (left, a', s) ← run p true (p.key true a) (n + 1) [a] s
      let (right, b', s) ← run p false (p.key false b) (n + 1) [b] s
      if s.isStopped then return s
      if !has p.found 'v' then
        for x in left do
          for y in right do Exec.print (p.joined (some x) (some y))
      merge p n a' b' s
  | n, a, b, s => do
    if s.isStopped then return s
    let checks := p.check != .never
    let s ←
      if p.printsAlone true || checks then
        drain p true (p.printsAlone true) (n + s.first.rest.length + 2) a
          { s with hasMissing := s.hasMissing || (a.isSome && b.isSome) }
      else pure s
    if s.isStopped then return s
    if p.printsAlone false || checks then
      drain p false (p.printsAlone false) (n + s.second.rest.length + 2) b s
    else return s

def fieldNumber (o : Octets) : Except Octets Nat :=
  match Octets.natural? o with
  | some (n + 1) => .ok n
  | _ => .error ("invalid field number: ".toList ++ quote o)

def columns (o : Octets) : Except Octets (List Column) :=
  let items := (o.splitOnP fun c => c == ',' || c == ' ' || c == '\t').filter fun i => !i.isEmpty
  items.mapM fun item =>
    let bad : Except Octets Column := .error ("invalid field specifier: ".toList ++ quote item)
    match item with
    | ['0'] => .ok .key
    | '0' :: _ => bad
    | c :: rest =>
      if c != '1' && c != '2' then
        .error ("invalid file number in field spec: ".toList ++ quote item)
      else
        match rest with
        | '.' :: digits => (fieldNumber digits).map fun n => .field (c == '1') n
        | _ => bad
    | [] => bad

def plan (found : Given) : Except Octets Plan := do
  for (c, a) in found do
    if (c == 'a' || c == 'v') && a != ['1'] && a != ['2'] then
      .error ("invalid field number: ".toList ++ quote a)
  let key (c : Char) : Except Octets (Option Nat) :=
    match argument? found c with
    | some a => (fieldNumber a).map some
    | none => .ok none
  let both ← key 'j'
  let one ← key '1'
  let two ← key '2'
  for given in [one, two] do
    if let (some n, some m) := (both, given) then
      if n != m then
        .error ("incompatible join fields ".toList ++ Text.ofNat n ++ ", ".toList ++ Text.ofNat m)
  let tab ← match argument? found 't' with
    | none => .ok none
    | some [] => .ok (some '\n')
    | some ['\\', '0'] => .ok (some (Char.ofNat 0))
    | some [c] => .ok (some c)
    | some o => .error ("multi-character tab ".toList ++ quote o)
  let lists := found.filterMap fun (c, a) => if c == 'o' then some a else none
  let isAuto := lists == ["auto".toList]
  let columns ←
    if lists.isEmpty || isAuto then .ok none
    else (columns ([','].intercalate lists)).map some
  return { found, tab, columns
           keys := ((one.or both).getD 0, (two.or both).getD 0)
           counts := if isAuto then some (0, 0) else none
           filler := (argument? found 'e').getD [], last := lineEnd found
           check := orderCheck found }

end Join

def joinKnown : Known :=
  { name := "join", letters := "a:e:1:2:j:o:t:v:iz", hidden := "KNH"
    words := [("ignore-case", 'i'), ("check-order", 'K'), ("nocheck-order", 'N'),
      ("zero-terminated", 'z'), ("header", 'H')] }

/-- Join the lines of two files. -/
def join : Utility :=
  withOptions joinKnown fun _ found operands => do
    let isColumn (o : Octets) : Bool := match Join.columns o with
      | .ok _ => has found 'o'
      | .error _ => false
    let extra := (operands.take (operands.length - 2)).takeWhile isColumn
    let found := found ++ extra.map fun o => ('o', o)
    match Join.plan found with
    | .error complaint => refuse "join" complaint
    | .ok p =>
      match operands.drop extra.length with
      | [] => misuse joinKnown "missing operand".toList
      | [one] => misuse joinKnown ("missing operand after ".toList ++ quote one)
      | _ :: _ :: more :: _ => tooMany joinKnown more
      | [a, b] =>
        if a == ['-'] && b == ['-'] then
          return ← refuse "join" "both files cannot be standard input".toList
        match ← content a, ← content b with
        | .error why, _ =>
          complainOf "join" a why
          return 1
        | _, .error why =>
          complainOf "join" b why
          return 1
        | .ok left, .ok right =>
          let rows (text : Octets) : List Join.Row := (linesBy p.last text).map p.row
          let s : Join.State :=
            { first := { name := a, rest := rows left }
              second := { name := b, rest := rows right } }
          let (x, s) ← Join.next p true s
          let (y, s) ← Join.next p false s
          let width (r : Option Join.Row) : Nat := (r.map fun r => r.fields.length).getD 0
          let p := { p with counts := p.counts.map fun _ => (width x, width y) }
          let (x, y, s) ←
            if has found 'H' && (x.isSome || y.isSome) then do
              Exec.print (p.joined x y)
              let fresh (source : Join.Source) : Join.Source := { source with previous := none }
              let s := { s with first := fresh s.first, second := fresh s.second }
              let (x, s) ← Join.next p true s
              let (y, s) ← Join.next p false s
              pure (x, y, s)
            else pure (x, y, s)
          let s ← Join.merge p (left.length + right.length + 4) x y s
          if s.isStopped then return 1
          if s.first.hasWarned || s.second.hasWarned then
            refuse "join" "input is not in sorted order".toList
          else return 0

end Interpolation.Shell.Utility
