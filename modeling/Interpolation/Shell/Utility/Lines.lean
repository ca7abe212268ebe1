import Interpolation.Shell.Regex.Reading
import Interpolation.Shell.Utility.Amount
import Interpolation.Shell.Utility.Columns

/-!
# Utilities that choose and show lines

These utilities print files as they are or from their ends, with numbers or marks, count what is in
them, or print some of their lines.
-/

namespace Interpolation.Shell.Utility

/-! ### Whole files -/

structure View where
  numbersAll : Bool
  numbersFull : Bool
  squeezes : Bool
  showsEnds : Bool
  showsTabs : Bool
  showsOthers : Bool

structure Viewed where
  number : Nat := 0
  blanks : Nat := 0
  isOpen : Bool := false

def View.marked (v : View) (line : Octets) : Octets :=
  let isEnded := line.getLast? == some '\n'
  let body := if isEnded then line.dropLast else line
  let last : Octets := if !isEnded then [] else if v.showsEnds then ['$', '\n'] else ['\n']
  let (body, last) : Octets × Octets :=
    if isEnded && v.showsEnds && !v.showsOthers && body.getLast? == some '\r' then
      (body.dropLast, '^' :: 'M' :: last)
    else (body, last)
  (body.flatMap fun c =>
    if c == '\t' then (if v.showsTabs then ['^', 'I'] else [c])
    else if v.showsOthers then caret c
    else [c]) ++ last

def View.line (v : View) (s : Viewed) (line : Octets) : Viewed × Octets :=
  let isOpen := line.getLast? != some '\n'
  if s.isOpen then ({ s with isOpen, blanks := 0 }, v.marked line)
  else
    let isBlank := line == ['\n']
    if isBlank && v.squeezes && 0 < s.blanks then (s, [])
    else
      let isNumbered := v.numbersAll || (v.numbersFull && !isBlank)
      let number := if isNumbered then s.number + 1 else s.number
      let lead := if isNumbered then Text.padLeft ' ' 6 (Text.ofNat number) ++ ['\t'] else []
      ({ number, blanks := if isBlank then s.blanks + 1 else 0, isOpen }, lead ++ v.marked line)

def isOutput (operand : Octets) : Exec Bool := do
  match ← Exec.stream? 1 with
  | some (_, { target := .file n offset appends, .. }) =>
    let source ←
      if operand == ['-'] then
        match ← Exec.stream? 0 with
        | some (_, { target := .file m .., .. }) => pure (some m)
        | _ => pure none
      else
        match ← Exec.find? true operand with
        | .ok m => pure (some m)
        | .error _ => pure none
    let size := (← Exec.observe World.volume).size n
    return source == some n && size != 0 && (appends || offset < size)
  | _ => return false

def cat : Utility :=
  withOptions { name := "cat", letters := "AbeEnstTuv", words := [("number", 'n'),
      ("number-nonblank", 'b'), ("squeeze-blank", 's'), ("show-ends", 'E'), ("show-tabs", 'T'),
      ("show-all", 'A'), ("show-nonprinting", 'v')] } fun _ found operands => do
    let hasOne (letters : String) : Bool := found.any fun (c, _) => letters.toList.contains c
    let view : View :=
      { numbersAll := has found 'n' && !has found 'b', numbersFull := has found 'b'
        squeezes := has found 's', showsEnds := hasOne "eEA", showsTabs := hasOne "tTA"
        showsOthers := hasOne "veAt" }
    let isPlain := found.all fun (c, _) => c == 'u'
    if (← Exec.stream? 1).isNone then
      complain "cat" "standard output: Bad file descriptor".toList
      return 1
    let mut state : Viewed := {}
    let mut isFine := true
    for operand in inputs operands do
      if ← isOutput operand then
        complain "cat" (shown operand ++ ": input file is output file".toList)
        isFine := false
      else
        match ← flow operand with
        | .ok text =>
          if isPlain then Exec.print text
          else
            let step (s : Viewed × List Octets) (line : Octets) : Viewed × List Octets :=
              let (next, text) := view.line s.1 line
              (next, text :: s.2)
            let (next, texts) := (Octets.linesWithEnds text).foldl step (state, [])
            state := next
            Exec.print texts.reverse.flatten
        | .error why =>
          complainOf "cat" operand why
          isFine := false
    if (inputs operands).contains ['-'] && (← Exec.stream? 0).isNone then
      complain "cat" "closing standard input: Bad file descriptor".toList
    return status isFine

def piecesAt (before : Bool) (places : List (Nat × Nat)) (text : Octets) : List Octets :=
  let cuts := places.map fun (start, length) => if before then start else start + length
  let ends := cuts ++ [text.length]
  (((0 :: cuts).zip ends).map fun (a, b) => (text.drop a).take (b - a)).filter (!·.isEmpty)

def separators (separator : Octets) : Nat → Nat → Octets → List (Nat × Nat)
  | 0, _, _ => []
  | _, _, [] => []
  | n + 1, i, c :: rest =>
    if separator.isPrefixOf (c :: rest) then
      (i, separator.length) ::
        separators separator n (i + separator.length) ((c :: rest).drop separator.length)
    else separators separator n (i + 1) rest

def tac : Utility :=
  let known : Known :=
    { name := "tac", letters := "brs:"
      words := [("before", 'b'), ("regex", 'r'), ("separator", 's')] }
  withOptions known fun _ found operands => do
    let separator := (argument? found 's').getD ['\n']
    let separator := if separator.isEmpty then [Char.ofNat 0] else separator
    let places (text : Octets) : Option (List (Nat × Nat)) :=
      if has found 'r' then
        match Regex.read { form := .editor } separator with
        | .error _ => none
        | .ok regex => some (regexPlaces regex text)
      else
        let back := separators separator.reverse (text.length + 1) 0 text.reverse
        some (back.reverse.map fun (start, length) => (text.length - start - length, length))
    let mut isFine := true
    for operand in inputs operands do
      match ← content operand with
      | .ok text =>
        match places text with
        | none => return ← refuse "tac" "invalid regular expression".toList
        | some places => Exec.print (piecesAt (has found 'b') places text).reverse.flatten
      | .error why =>
        if why == .isFolder then
          complain "tac" (shown operand ++ ": read error: Invalid argument".toList)
        else
          complain "tac" ("failed to open ".toList ++ quote operand ++ " for reading: ".toList ++
            why.message)
        isFine := false
    return status isFine
where
  regexPlaces (regex : Regex) (text : Octets) : List (Nat × Nat) :=
    let step (state : Nat × List (Nat × Nat)) (i : Nat) : Nat × List (Nat × Nat) :=
      let (limit, places) := state
      if limit ≤ i then state
      else
        let here : Regex.Place := .between (text.take i).reverse ((text.drop i).take (limit - i))
        match Regex.longestAt false regex here with
        | some m => if m.text.isEmpty then state else (i, (i, m.text.length) :: places)
        | none => state
    ((List.range text.length).reverse.foldl step (text.length, [])).2

def rev : Utility :=
  withOptions { name := "rev" } fun _ _ operands => do
    let mut isFine := true
    for operand in inputs operands do
      match ← flow operand with
      | .ok text =>
        let lines := Octets.linesWithEnds text
        let isText (line : Octets) : Bool := line.all fun c => c.toNat < 128
        let good := lines.takeWhile isText
        Exec.print (good.flatMap fun line =>
          if line.getLast? == some '\n' then line.dropLast.reverse ++ ['\n'] else line.reverse)
        if good.length < lines.length then
          let name := if operand == ['-'] then "stdin".toList else operand
          Exec.complainLine ("rev: ".toList ++ name ++
            ": Invalid or incomplete multibyte or wide character".toList)
          isFine := false
      | .error why =>
        Exec.complainLine (if why == .isFolder then
            "rev: ".toList ++ operand ++ ": ".toList ++ why.message
          else "rev: cannot open ".toList ++ operand ++ ": ".toList ++ why.message)
        isFine := false
    return status isFine

/-! ### Numbers of lines -/

inductive Numbering where
  | all
  | full
  | none
  | matching (regex : Regex)

structure Numbered where
  header : Numbering := .none
  body : Numbering := .full
  footer : Numbering := .none
  mark : Octets := ['\\', ':']
  start : Int := 1
  step : Int := 1
  joins : Nat := 1
  isLeft : Bool := false
  hasZeros : Bool := false
  goesOn : Bool := false
  separator : Octets := ['\t']
  width : Nat := 6

structure Numbers where
  style : Numbering
  next : Int
  blanks : Nat := 0

def Numbered.text (f : Numbered) (n : Int) : Octets :=
  if f.isLeft then Text.padRight f.width (Text.ofInt n)
  else if f.hasZeros then
    let digits := Text.ofNat n.natAbs
    if n < 0 then '-' :: Text.padLeft '0' (f.width - 1) digits else Text.padLeft '0' f.width digits
  else Text.padLeft ' ' f.width (Text.ofInt n)

def Numbered.line (f : Numbered) (s : Numbers) (line : Octets) : Numbers × Octets :=
  let times (n : Nat) : Octets := (List.replicate n f.mark).flatten
  let turn (style : Numbering) (resets : Bool) : Numbers × Octets :=
    ({ s with style, next := if resets && !f.goesOn then f.start else s.next }, ['\n'])
  if f.mark.length = 2 && line == times 3 then turn f.header true
  else if f.mark.length = 2 && line == times 2 then turn f.body true
  else if f.mark.length = 2 && line == times 1 then turn f.footer true
  else
    let plain : Octets := List.replicate (f.width + f.separator.length) ' ' ++ line ++ ['\n']
    let numbered : Numbers × Octets :=
      ({ s with next := s.next + f.step, blanks := 0 },
        f.text s.next ++ f.separator ++ line ++ ['\n'])
    match s.style with
    | .none => (s, plain)
    | .full => if line.isEmpty then (s, plain) else numbered
    | .all =>
      if 1 < f.joins && line.isEmpty && s.blanks + 1 < f.joins then
        ({ s with blanks := s.blanks + 1 }, plain)
      else numbered
    | .matching regex => if (Regex.find? false regex line).isSome then numbered else (s, plain)

def numbering? (style : Octets) : Option Numbering :=
  match style with
  | ['a'] => some .all
  | ['t'] => some .full
  | ['n'] => some .none
  | 'p' :: text =>
    match Regex.read {} text with
    | .ok regex => some (.matching regex)
    | .error _ => none
  | _ => none

def nlKnown : Known :=
  { name := "nl", letters := "b:d:f:h:i:l:n:ps:v:w:"
    words := [("body-numbering", 'b'), ("section-delimiter", 'd'), ("footer-numbering", 'f'),
      ("header-numbering", 'h'), ("line-increment", 'i'), ("join-blank-lines", 'l'),
      ("number-format", 'n'), ("no-renumber", 'p'), ("number-separator", 's'),
      ("starting-line-number", 'v'), ("number-width", 'w')] }

def numberedBy (f : Numbered) (option : Char × Octets) : Except (Octets × Bool) Numbered :=
  let (c, a) := option
  let style (part : String) (set : Numbering → Numbered) : Except (Octets × Bool) Numbered :=
    match numbering? a with
    | some n => .ok (set n)
    | none =>
      .error ("invalid ".toList ++ part.toList ++ " numbering style: ".toList ++ quote a, true)
  let number (what : String) (least : Int) (set : Int → Numbered) :
      Except (Octets × Bool) Numbered :=
    match Octets.integer? a with
    | some n =>
      if least ≤ n then .ok (set n)
      else .error ("invalid ".toList ++ what.toList ++ ": ".toList ++ quote a ++
        ": Numerical result out of range".toList, false)
    | none => .error ("invalid ".toList ++ what.toList ++ ": ".toList ++ quote a, false)
  match c with
  | 'b' => style "body" fun n => { f with body := n }
  | 'h' => style "header" fun n => { f with header := n }
  | 'f' => style "footer" fun n => { f with footer := n }
  | 'd' => .ok { f with mark := match a with
      | [c] => [c, ':']
      | a => a }
  | 'i' => number "line number increment" Octets.least fun n => { f with step := n }
  | 'v' => number "starting line number" Octets.least fun n => { f with start := n }
  | 'l' => number "line number of blank lines" 1 fun n => { f with joins := n.toNat }
  | 'w' => number "line number field width" 1 fun n => { f with width := n.toNat }
  | 'p' => .ok { f with goesOn := true }
  | 's' => .ok { f with separator := a }
  | _ =>
    match String.ofList a with
    | "ln" => .ok { f with isLeft := true, hasZeros := false }
    | "rn" => .ok { f with isLeft := false, hasZeros := false }
    | "rz" => .ok { f with isLeft := false, hasZeros := true }
    | _ => .error ("invalid line numbering format: ".toList ++ quote a, true)

def nl : Utility :=
  withOptions nlKnown fun _ found operands => do
    match found.foldlM numberedBy {} with
    | .error (complaint, true) => misuse nlKnown complaint
    | .error (complaint, false) => refuse "nl" complaint
    | .ok f =>
      let mut state : Numbers := { style := f.body, next := f.start }
      let mut isFine := true
      for operand in inputs operands do
        match ← flow operand with
        | .ok text =>
          let step (s : Numbers × List Octets) (line : Octets) : Numbers × List Octets :=
            let (next, text) := f.line s.1 line
            (next, text :: s.2)
          let (next, texts) := (Octets.lines text).foldl step (state, [])
          state := next
          Exec.print texts.reverse.flatten
        | .error why =>
          complainOf "nl" operand why
          isFine := false
      return status isFine

/-! ### Counting -/

structure Counts where
  lines : Nat := 0
  words : Nat := 0
  bytes : Nat := 0
  chars : Nat := 0
  widest : Nat := 0

def widthOf (line : Octets) : Nat :=
  line.foldl (fun n c =>
    if c == '\t' then (n / 8 + 1) * 8 else if isShowable c then n + 1 else n) 0

def countsOf (text : Octets) : Counts where
  lines := text.count '\n'
  words := (text.splitOnP Octets.isSpace).countP fun w => w.any isShowable
  bytes := text.length
  chars := text.length
  widest := ((text.splitOnP fun c => c == '\n' || c == '\r' || c == Char.ofNat 12).map
    widthOf).foldl max 0

def Counts.add (a b : Counts) : Counts :=
  ⟨a.lines + b.lines, a.words + b.words, a.bytes + b.bytes, a.chars + b.chars,
    max a.widest b.widest⟩

def sizeOf? (name : Octets) : Exec (Option (Option Nat)) := do
  let volume ← Exec.observe World.volume
  let sizeAt (n : Nat) : Option Nat := match volume.body? n with
    | some (.file content) => some content.length
    | _ => none
  if name == ['-'] then
    match ← Exec.stream? 0 with
    | some (_, { target := .file n .., .. }) => return some (sizeAt n)
    | _ => return some none
  else
    match ← Exec.find? true name with
    | .error _ => return none
    | .ok n => return some (sizeAt n)

def wcKnown : Known :=
  { name := "wc", letters := "clmwL", hidden := "F:"
    words := [("bytes", 'c'), ("lines", 'l'), ("chars", 'm'), ("words", 'w'),
      ("max-line-length", 'L'), ("files0-from", 'F')] }

def wc : Utility :=
  withOptions wcKnown fun _ found operands => do
    let names? ← match argument? found 'F' with
      | none => pure (Except.ok operands)
      | some list =>
        match ← content list with
        | .error why =>
          complain "wc" ("cannot open ".toList ++ quote list ++ " for reading: ".toList ++
            why.message)
          pure (.error ())
        | .ok text => pure (.ok (linesBy (Char.ofNat 0) text))
    let .ok names := names? | return 1
    let kinds := (found.map Prod.fst).filter (· != 'F')
    let kinds := if kinds.isEmpty then ['l', 'w', 'c'] else kinds
    let sizes ← (inputs names).mapM sizeOf?
    let total := Text.total (sizes.filterMap (Option.bind · id))
    let width :=
      if sizes.length = 1 && kinds.eraseDups.length = 1 then 1
      else if argument? found 'F' == some ['-'] then 1
      else max (if sizes.contains (some none) then 7 else 1) (Text.ofNat total).length
    let say (counts : Counts) (name : Octets) : Exec Unit :=
      let numbers := [('l', counts.lines), ('w', counts.words), ('m', counts.chars),
        ('c', counts.bytes), ('L', counts.widest)].filterMap fun (c, n) =>
          if kinds.contains c then some (Text.padLeft ' ' width (Text.ofNat n)) else none
      Exec.printLine (Octets.spaced (numbers ++ if name.isEmpty then [] else [shown name]))
    let mut sum : Counts := {}
    let mut isFine := true
    for operand in inputs names do
      match ← content operand with
      | .ok text =>
        let counts := countsOf text
        sum := sum.add counts
        say counts (if names.isEmpty then [] else operand)
      | .error why =>
        if operand.isEmpty then complain "wc" "invalid zero-length file name".toList
        else complainOf "wc" operand why
        isFine := false
        if why == .isFolder then say {} operand
    if 1 < names.length then say sum "total".toList
    return status isFine

/-! ### The first and the last lines -/

inductive Measure where
  | lines
  | bytes
  deriving DecidableEq

def Measure.count (m : Measure) (last : Char) (text : Octets) : Nat :=
  match m with
  | .bytes => text.length
  | .lines =>
    text.count last + if text.isEmpty || text.getLast? == some last then 0 else 1

def Measure.front (m : Measure) (last : Char) (n : Nat) (text : Octets) : Nat × Nat :=
  match m with
  | .bytes =>
    let length := (text.take n).length
    (length, n - length)
  | .lines => go n 0 text
where
  go : Nat → Nat → Octets → Nat × Nat
    | 0, length, _ => (length, 0)
    | n + 1, length, [] => (length, n + 1)
    | n + 1, length, c :: rest =>
      if c == last then go n (length + 1) rest else go (n + 1) (length + 1) rest

def titleOf (operand : Octets) (isFirst : Bool) : Octets :=
  let name := if operand == ['-'] then "standard input".toList else operand
  (if isFirst then [] else ['\n']) ++ "==> ".toList ++ name ++ " <==\n".toList

structure Part where
  measure : Measure := .lines
  count : Nat := 10
  sign : Option Char := none
  last : Char := '\n'
  entitled : Option Bool := none

def partOf (name : String) (found : Given) : Except Octets Part :=
  found.foldlM (fun p (c, value) =>
    match c with
    | 'q' => .ok { p with entitled := some false }
    | 'v' => .ok { p with entitled := some true }
    | 'z' => .ok { p with last := Char.ofNat 0 }
    | 'n' | 'c' =>
      let measure : Measure := if c == 'c' then .bytes else .lines
      let (sign, digits) := match value.dropWhile Octets.isSpace with
        | '-' :: digits => (some '-', digits)
        | '+' :: digits => if name == "tail" then (some '+', digits) else (none, digits)
        | digits => (none, digits)
      let unit := if c == 'c' then "bytes" else "lines"
      let wrong := "invalid number of ".toList ++ unit.toList ++ ": ".toList ++ quote digits
      match if digits.head?.any Char.isDigit then amount "bkKmMGTPEZY0" digits else .invalid with
      | .invalid => .error wrong
      | .overflow => .error (wrong ++ ": Value too large for defined data type".toList)
      | .number n => .ok { p with measure, count := n, sign }
    | _ => .ok p) {}

def printParts (name : String) (p : Part) (read : Octets → Exec (Except FileError Octets))
    (operands : List Octets) : Exec Nat := do
  let entitled := p.entitled.getD (1 < operands.length)
  let mut isFine := true
  let mut isFirst := true
  for operand in inputs operands do
    match ← read operand with
    | .ok text =>
      if entitled then Exec.print (titleOf operand isFirst)
      isFirst := false
      Exec.print text
    | .error why =>
      isFine := false
      if why == .isFolder then
        if entitled then Exec.print (titleOf operand isFirst)
        isFirst := false
        complain name ("error reading ".toList ++ quote operand ++ ": ".toList ++ why.message)
      else
        complain name ("cannot open ".toList ++ quote operand ++ " for reading: ".toList ++
          why.message)
  return status isFine

def partKnown (name letters : String) : Known :=
  { name, letters := "c:n:qvz" ++ letters, hidden := "P:"
    words := [("bytes", 'c'), ("lines", 'n'), ("quiet", 'q'), ("silent", 'q'), ("verbose", 'v'),
      ("zero-terminated", 'z')] }

def digitOption (name : String) (sign : Octets) (o : Octets) : Except Char (List Octets) :=
  let (number, letters) := o.span Char.isDigit
  let step (state : Char × Octets × List Octets) (c : Char) :
      Except Char (Char × Octets × List Octets) :=
    let (unit, size, others) := state
    if c == 'c' then .ok ('c', size, others)
    else if c == 'l' then .ok ('n', size, others)
    else if name == "tail" && c == 'f' then .ok (unit, size, ['-', 'f'] :: others)
    else if c == 'b' then .ok ('c', ['b'], others)
    else if name == "head" && (c == 'k' || c == 'm') then .ok ('c', [c], others)
    else if name == "head" && (c == 'q' || c == 'v' || c == 'z') then
      .ok (unit, size, ['-', c] :: others)
    else .error c
  (letters.foldlM step ('n', [], [])).map fun (unit, size, others) =>
    others.reverse ++ [['-', unit], sign ++ number ++ size]

def head : Utility := fun run arguments => do
  let first := arguments.headD []
  let arguments ← match first with
    | '-' :: c :: rest =>
      if c.isDigit then
        match digitOption "head" [] (c :: rest) with
        | .ok words => pure (words ++ arguments.tail)
        | .error wrong => do
          complain "head" ("invalid trailing option -- ".toList ++ [wrong])
          hint "head"
          return 1
      else pure arguments
    | _ => pure arguments
  withOptions (partKnown "head" "") (fun _ found operands => do
    match partOf "head" found with
    | .error complaint => refuse "head" complaint
    | .ok p =>
      let isPiped := match ← Exec.stream? 0 with
        | some (_, { target := .pipe _, .. }) => p.measure == .lines
        | _ => false
      let wanted (operand : Octets) : Exec.Wanted := fun text =>
        let (length, missing) := p.measure.front p.last p.count text
        if p.sign.isSome || missing != 0 then none
        else if operand == ['-'] && isPiped then some ((length + 8191) / 8192 * 8192)
        else some length
      let read (operand : Octets) : Exec (Except FileError Octets) := do
        match ← openInput operand with
        | .error why => return .error why
        | .ok key =>
          match ← Exec.takeKey key (wanted operand) with
          | .error why => return .error why
          | .ok text =>
            let n := if p.sign.isSome then p.measure.count p.last text - p.count else p.count
            return .ok (text.take (p.measure.front p.last n text).1)
      printParts "head" p read operands) run arguments

def tail : Utility := fun run arguments => do
  let first := arguments.headD []
  let mayBeOld := match arguments with
    | [_] => true
    | [_, second] => second.head? != some '-' || second == ['-'] || second == ['-', '-']
    | [_, second, _] => second == ['-', '-']
    | _ => false
  let old : Option (Octets × Octets) := match first with
    | '-' :: c :: rest => if c.isDigit then some ([], c :: rest) else none
    | '+' :: c :: rest => if c.isDigit then some (['+'], c :: rest) else none
    | _ => none
  let arguments ← match old with
    | some (sign, o) =>
      match mayBeOld, digitOption "tail" sign o with
      | true, .ok words => pure (words ++ arguments.tail)
      | _, _ =>
        if sign.isEmpty then do
          complain "tail" ("option used in invalid context -- ".toList ++ o.take 1)
          return 1
        else pure arguments
    | none => pure arguments
  let known := { partKnown "tail" "fFs:" with
    words := (partKnown "tail" "").words ++
      [("follow", 'f'), ("sleep-interval", 's'), ("pid", 'P')] }
  withOptions known (fun _ found operands => do
    match partOf "tail" found with
    | .error complaint => refuse "tail" complaint
    | .ok p =>
      let isFront := p.sign == some '+'
      let read (operand : Octets) : Exec (Except FileError Octets) := do
        match ← (if isFront then flow operand else content operand) with
        | .error why => return .error why
        | .ok text =>
          let n := if isFront then p.count - 1 else p.measure.count p.last text - p.count
          return .ok (text.drop (p.measure.front p.last n text).1)
      printParts "tail" p read operands) run arguments

/-- Print the input and write it to files as well. -/
def tee : Utility :=
  let known : Known :=
    { name := "tee", letters := "aip", words := [("append", 'a'), ("ignore-interrupts", 'i')] }
  withOptions known fun _ found operands => do
    let appends := has found 'a'
    let mut keys : List (Octets × Nat) := []
    let mut isFine := true
    for operand in operands do
      match ← Exec.openPath operand (.writing (!appends) appends false) with
      | .ok key => keys := keys ++ [(operand, key)]
      | .error why =>
        complainOf "tee" operand why
        isFine := false
    match ← flow ['-'] with
    | .error why =>
      complain "tee" ("read error: ".toList ++ why.message)
      return 1
    | .ok text =>
      Exec.print text
      for (operand, key) in keys do
        if let some why := ← Exec.writeKey key text then
          complainOf "tee" operand why
          isFine := false
      return status isFine

end Interpolation.Shell.Utility
