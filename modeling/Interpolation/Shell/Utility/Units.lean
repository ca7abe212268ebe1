import Interpolation.Shell.Real
import Interpolation.Shell.Utility.Columns

/-!
# Numbers with units

Numbers in the fields of lines are read with units and written with others. They are counted with 64
binary digits; what is left over where digits are cut off goes away from zero if nothing else is
chosen.
-/

namespace Interpolation.Shell.Utility

open Decimal (Fraction)

namespace Units

inductive Scale where
  | plain
  | any
  | thousands
  | binary
  | marked
  deriving DecidableEq

def Scale.base : Scale → Nat
  | .binary | .marked => 1024
  | _ => 1000

inductive Rounding where
  | up
  | down
  | away
  | toZero
  | nearest
  deriving DecidableEq

inductive Blame where
  | stop
  | fail
  | warn
  | silent
  deriving DecidableEq

structure Quantity where
  isNegative : Bool := false
  size : Fraction := ⟨0, 1⟩

def Quantity.times (q : Quantity) (n : Nat) : Quantity :=
  { q with size := Real.kept ⟨q.size.numerator * n, q.size.denominator⟩ }

def Quantity.over (q : Quantity) (n : Nat) : Quantity :=
  { q with size := Real.kept ⟨q.size.numerator, q.size.denominator * n⟩ }

def Quantity.reaches (q : Quantity) (n : Nat) : Bool :=
  n * q.size.denominator ≤ q.size.numerator

def Quantity.reduce (base : Nat) : Nat → Quantity → Nat × Quantity
  | 0, q => (0, q)
  | n + 1, q =>
    if q.reaches base then
      let (count, q) := Quantity.reduce base n (q.over base)
      (count + 1, q)
    else (0, q)

def Quantity.whole (r : Rounding) (q : Quantity) : Quantity :=
  let below := q.size.numerator / q.size.denominator
  let isWhole := q.size.numerator % q.size.denominator = 0
  let above := if isWhole then below else below + 1
  let n := match r with
    | .up => if q.isNegative then below else above
    | .down => if q.isNegative then above else below
    | .away => above
    | .toZero => below
    | .nearest =>
      let half := Real.kept ⟨2 * q.size.numerator + q.size.denominator, 2 * q.size.denominator⟩
      half.numerator / half.denominator
  { isNegative := q.isNegative && n != 0, size := ⟨n, 1⟩ }

def letters : Octets :=
  "KMGTPEZY".toList

inductive Fault where
  | overflow
  | invalid
  | forbidden
  | suffix
  | missingMark
  | more (rest : Octets)

def Fault.message (text : Octets) : Fault → Octets
  | .overflow => "value too large to be converted: ".toList ++ quote text
  | .invalid => "invalid number: ".toList ++ quote text
  | .forbidden =>
    "rejecting suffix in input: ".toList ++ quote text ++ " (consider using --from)".toList
  | .suffix => "invalid suffix in input: ".toList ++ quote text
  | .missingMark => "missing 'i' suffix in input: ".toList ++ quote text ++ " (e.g Ki/Mi/Gi)".toList
  | .more rest => "invalid suffix in input ".toList ++ quote text ++ ": ".toList ++ quote rest

def mostDigits : Nat :=
  27

def takeWhole (o : Octets) : Except Fault (Nat × Nat × Octets) :=
  let (count, n, rest) := Octets.takeDigits 10 o
  if count = 0 && rest.head? != some '.' then .error .invalid
  else if mostDigits < (Text.ofNat n).length then .error .overflow
  else .ok (count, n, rest)

def takeNumber (o : Octets) : Except Fault (Quantity × Nat × Octets) := do
  let (isNegative, o) := match o with
    | '-' :: rest => (true, rest)
    | o => (false, o)
  let (_, n, rest) ← takeWhole o
  match rest with
  | '.' :: rest =>
    let (places, m, rest) ← takeWhole rest
    let part := Real.kept ⟨m, Nat.pow 10 places⟩
    let size := Real.kept ⟨n * part.denominator + part.numerator, part.denominator⟩
    return ({ isNegative, size }, places, rest)
  | rest => return ({ isNegative, size := Real.kept ⟨n, 1⟩ }, 0, rest)

def read (scale : Scale) (o : Octets) : Except Fault (Quantity × Nat) := do
  let (q, places, rest) ← takeNumber o
  let finish (q : Quantity) (places : Nat) (rest : Octets) : Except Fault (Quantity × Nat) :=
    match scale, rest with
    | .marked, 'i' :: rest => if rest.isEmpty then .ok (q, places) else .error (.more rest)
    | .marked, _ => .error .missingMark
    | _, [] => .ok (q, places)
    | _, rest => .error (.more rest)
  if rest.isEmpty then finish q places rest
  else
    match rest.dropWhile Octets.isBlank with
    | [] => .error .suffix
    | c :: more =>
      match letters.idxOf? c with
      | none => .error .suffix
      | some i =>
        if scale = .plain then .error .forbidden
        else
          let (base, more) := match scale, more with
            | .any, 'i' :: more => (1024, more)
            | _, more => (scale.base, more)
          finish (q.times (Nat.pow base (i + 1))) 0 more

structure Plan where
  source : Scale := .plain
  target : Scale := .plain
  sourceUnit : Nat := 1
  targetUnit : Nat := 1
  rounding : Rounding := .away
  blame : Blame := .stop
  places : Option Nat := none
  width : Nat := 0
  isLeft : Bool := false
  zeroWidth : Nat := 0
  suffix : Octets := []
  before : Octets := []
  after : Octets := []
  delimiter : Option Char := none
  fields : List Range := [⟨1, some 1⟩]

def Plan.digits (p : Plan) (places : Nat) (q : Quantity) : Octets :=
  let text := q.size.fixed places false
  if q.isNegative then '-' :: Text.padLeft '0' (p.zeroWidth - 1) text
  else Text.padLeft '0' p.zeroWidth text

def Plan.text (p : Plan) (places : Nat) (q : Quantity) : Octets :=
  if p.target = .plain then
    p.digits places (((q.times (Nat.pow 10 places)).whole p.rounding).over (Nat.pow 10 places))
  else
    let base := p.target.base
    let (power, q) := q.reduce base 64
    let extra := match p.places with
      | some n => min (3 * power) n
      | none => if q.reaches 10 then 0 else 1
    let q := ((q.times (Nat.pow 10 extra)).whole p.rounding).over (Nat.pow 10 extra)
    let (power, q) := if q.reaches base then (power + 1, q.over base) else (power, q)
    let showsPoint := q.size.numerator != 0 && !q.reaches 10 && 0 < power
    let unit := if power = 0 then [] else
      letters.getD (power - 1) '?' :: if p.target = .marked then ['i'] else []
    p.digits (p.places.getD (if showsPoint then 1 else 0)) q ++ unit

def Plan.field (p : Plan) (width places : Nat) (q : Quantity) : Except Octets Octets :=
  let places := p.places.getD places
  let (power, _) := q.reduce 10 5000
  let shown := q.size.general 6 false
  let shown := if q.isNegative then '-' :: shown else shown
  if p.target = .plain && 18 < power + places then
    .error (if places = 0 then
        "value too large to be printed: '".toList ++ shown ++ "' (consider using --to)".toList
      else
        "value/precision too large to be printed: '".toList ++ shown ++ '/' :: Text.ofNat places ++
          "' (consider using --to)".toList)
  else if mostDigits - 1 < power then
    .error ("value too large to be printed: '".toList ++ shown ++
      "' (cannot handle values > 999Y)".toList)
  else
    let text := p.text places q ++ p.suffix
    let text := if p.isLeft then Text.padRight width text else Text.padLeft ' ' width text
    .ok (p.before ++ text ++ p.after)

def Plan.change (p : Plan) (index : Nat) (field : Octets) : Octets × Option Octets :=
  let bare := if p.suffix.isEmpty || field.length ≤ p.suffix.length then field
    else if p.suffix.isSuffixOf field then field.take (field.length - p.suffix.length) else field
  let text := bare.dropWhile Octets.isBlank
  let isAuto := p.width = 0 && p.delimiter.isNone
  let width := if !isAuto then p.width
    else if text.length < bare.length || 1 < index then bare.length else 0
  match read p.source text with
  | .error fault => (bare, some (fault.message text))
  | .ok (q, places) =>
    let q := if p.sourceUnit = 1 && p.targetUnit = 1 then q
      else (q.times p.sourceUnit).over p.targetUnit
    match p.field width places q with
    | .ok text => (text, none)
    | .error complaint => (bare, some complaint)

def blankFields : Nat → Octets → List Octets
  | 0, _ => []
  | n + 1, o =>
    let lead := o.takeWhile fun c => Octets.isBlank c
    let rest := o.drop lead.length
    let word := rest.takeWhile fun c => !Octets.isBlank c
    match rest.drop word.length with
    | [] => [lead ++ word]
    | _ :: more => (lead ++ word) :: blankFields n more

def Plan.fieldsOf (p : Plan) (line : Octets) : List Octets :=
  match p.delimiter with
  | some d => line.splitOn d
  | none => blankFields (line.length + 1) line

def known : Known :=
  { name := "numfmt", letters := "d:z", hidden := "f:t:u:v:r:s:p:F:i:GDH::l:"
    words := [("from", 'f'), ("to", 't'), ("from-unit", 'u'), ("to-unit", 'v'), ("round", 'r'),
      ("suffix", 's'), ("padding", 'p'), ("format", 'F'), ("invalid", 'i'), ("grouping", 'G'),
      ("header", 'H'), ("delimiter", 'd'), ("field", 'l'), ("zero-terminated", 'z'),
      ("debug", 'D')] }

def Plan.line (p : Plan) (last : Octets) (line : Octets) : Exec (Option Bool) := do
  let separator := p.delimiter.getD ' '
  let mut isFine := true
  let mut isFirst := true
  for (field, i) in (p.fieldsOf line).zipIdx 1 do
    if !isFirst then Exec.print [separator]
    isFirst := false
    if isIn p.fields i then
      let (text, complaint) := p.change i field
      if let some complaint := complaint then
        isFine := false
        if p.blame != .silent then complain known.name complaint
        if p.blame = .stop then return none
      Exec.print text
    else Exec.print field
  Exec.print last
  return some isFine

/-! ### Options -/

def plainLength : Octets → Option (Nat × Nat)
  | '%' :: '%' :: rest => (plainLength rest).map fun (a, b) => (a + 1, b + 2)
  | '%' :: _ => some (0, 0)
  | _ :: rest => (plainLength rest).map fun (a, b) => (a + 1, b + 1)
  | [] => none

def Plan.withFormat (p : Plan) (format : Octets) : Except Octets Plan := do
  let named := "format ".toList ++ quote format
  match plainLength format with
  | none => .error (named ++ " has no % directive".toList)
  | some (printed, length) =>
    let o := format.drop (length + 1)
    let flags := o.takeWhile fun c => c == ' ' || c == '\'' || c == '0'
    let fillsZero := flags.contains '0'
    let o := o.drop flags.length
    let (isLeft, digits) := match o with
      | '-' :: rest => (true, rest)
      | o => (false, o)
    let (count, width, rest) := Octets.takeDigits 10 digits
    let o := if count = 0 then o else rest
    let p := if width = 0 then p
      else if isLeft then { p with isLeft := true, width }
      else if fillsZero then { p with zeroWidth := width }
      else { p with width }
    if o.isEmpty then .error (named ++ " ends in %".toList)
    let (p, o) ← match o with
      | '.' :: rest =>
        if rest.head?.any fun c => Octets.isBlank c || c == '+' || c == '-' then
          .error ("invalid precision in format ".toList ++ quote format)
        else
          let (_, places, more) := Octets.takeDigits 10 rest
          .ok ({ p with places := some places }, more)
      | o => .ok (p, o)
    match o with
    | 'f' :: after =>
      if (plainLength after).isSome then .error (named ++ " has too many % directives".toList)
      else return { p with before := format.take printed, after }
    | _ =>
      .error ("invalid format ".toList ++ quote format ++
        ", directive must be %[0]['][-][N][.][N]f".toList)

def unitSize? (o : Octets) : Option Nat :=
  let (count, n, rest) := Octets.takeDigits 10 o
  let n := if count = 0 then 1 else n
  let size := match rest with
    | [] => if count = 0 then none else some n
    | [c] => (letters.idxOf? c).map fun i => n * Nat.pow 1000 (i + 1)
    | [c, 'i'] => (letters.idxOf? c).map fun i => n * Nat.pow 1024 (i + 1)
    | _ => none
  size.filter fun n => n != 0 && n < Nat.pow 2 64

def scales : List (String × Scale) :=
  [("none", .plain), ("auto", .any), ("si", .thousands), ("iec", .binary), ("iec-i", .marked)]

def roundings : List (String × Rounding) :=
  [("up", .up), ("down", .down), ("from-zero", .away), ("towards-zero", .toZero),
    ("nearest", .nearest)]

def blames : List (String × Blame) :=
  [("abort", .stop), ("fail", .fail), ("warn", .warn), ("ignore", .silent)]

inductive Wrong where
  | plain (complaint : Octets)
  | hinted (complaint : Octets)
  | word (option : String) (word : Octets) (names : List String)

def named {α : Type} (option : String) (names : List (String × α)) (word : Octets) :
    Except Wrong α :=
  let near := names.filter fun (name, _) => word.isPrefixOf name.toList
  match near.find? fun (name, _) => name.toList == word, near with
  | some (_, a), _ | none, [(_, a)] => .ok a
  | _, _ => .error (.word option word (names.map Prod.fst))

def Plan.take (p : Plan) (option : Char × Octets) : Except Wrong Plan :=
  let (c, o) := option
  let unit (o : Octets) : Except Wrong Nat := match unitSize? o with
    | some n => .ok n
    | none => .error (.plain ("invalid unit size: ".toList ++ quote o))
  match c with
  | 'f' => (named "--from" scales o).map fun source => { p with source }
  | 't' =>
    (named "--to" (scales.filter fun (_, s) => s != .any) o).map fun target => { p with target }
  | 'u' => (unit o).map fun sourceUnit => { p with sourceUnit }
  | 'v' => (unit o).map fun targetUnit => { p with targetUnit }
  | 'r' => (named "--round" roundings o).map fun rounding => { p with rounding }
  | 'i' => (named "--invalid" blames o).map fun blame => { p with blame }
  | 's' => .ok { p with suffix := o }
  | 'p' =>
    match Octets.takeInteger o with
    | (true, n, []) =>
      if n = 0 then .error (.plain ("invalid padding value ".toList ++ quote o))
      else .ok { p with width := n.natAbs, isLeft := n < 0 }
    | _ => .error (.plain ("invalid padding value ".toList ++ quote o))
  | 'd' =>
    match o with
    | [] => .ok { p with delimiter := some (Char.ofNat 0) }
    | [c] => .ok { p with delimiter := some c }
    | _ => .error (.plain "the delimiter must be a single character".toList)
  | 'l' =>
    if o == ['-'] then .ok { p with fields := [⟨1, none⟩] }
    else
      match ranges? fieldWords o false with
      | .ok fields => .ok { p with fields }
      | .error complaint => .error (.hinted complaint)
  | _ => .ok p

def plan (found : Given) : Except Wrong (Plan × Nat) := do
  let p ← found.foldlM Plan.take {}
  let head ← match argument? found 'H' with
    | none => .ok 0
    | some [] => .ok 1
    | some o =>
      match Octets.natural? o with
      | some (n + 1) => .ok (n + 1)
      | _ => .error (.plain ("invalid header value ".toList ++ quote o))
  let groups := has found 'G'
  match argument? found 'F' with
  | some format =>
    if groups then .error (.plain "--grouping cannot be combined with --format".toList)
    match p.withFormat format with
    | .ok p => return (p, head)
    | .error complaint => .error (.plain complaint)
  | none =>
    if groups && p.target != .plain then
      .error (.plain "grouping cannot be combined with --to".toList)
    return (p, head)

end Units

/-- Read numbers with units, and write them with others. -/
def numfmt : Utility :=
  withOptions Units.known fun _ found operands => do
    match Units.plan found with
    | .error (.plain complaint) => refuse "numfmt" complaint
    | .error (.hinted complaint) => misuse Units.known complaint
    | .error (.word option word names) => misuseOf Units.known option.toList word names
    | .ok (p, head) =>
      let last := lineEnd found
      let lines ←
        if !operands.isEmpty then pure (operands.map fun o => (o, [last]))
        else
          match ← content ['-'] with
          | .error why =>
            complain "numfmt" ("error reading input: ".toList ++ why.message)
            pure []
          | .ok text =>
            let all := linesBy last text
            let isEnded := text.getLast? == some last
            pure (all.zipIdx.map fun (line, i) =>
              (line, if i + 1 < all.length || isEnded then [last] else []))
      let head := if operands.isEmpty then head else 0
      for (line, ending) in lines.take head do Exec.print (line ++ ending)
      let mut isFine := true
      for (line, ending) in lines.drop head do
        match ← p.line ending line with
        | none => return 2
        | some isGood => if !isGood then isFine := false
      return if isFine || p.blame == .warn || p.blame == .silent then 0 else 2

end Interpolation.Shell.Utility
