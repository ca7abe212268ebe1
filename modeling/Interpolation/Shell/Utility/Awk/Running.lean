import Interpolation.Shell.Calendar
import Interpolation.Shell.Utility.Awk.State

/-!
# Running programs for records

An expression has a value, and a statement runs to its end or leaves what is around it: a loop, a
function, the rules for a record or the program. Functions call each other to a depth.
-/

namespace Interpolation.Shell.Utility.Awk

/-- What a program runs with. -/
structure Context where
  run : Runner
  functions : Std.HashMap String Function
  call : Function → Array Slot → Run Value

namespace Run

/-! ### Calculation -/

def calculate (operation : Operation) (x y : Float) : Float :=
  match operation with
  | .add => x + y
  | .subtract => x - y
  | .multiply => x * y
  | .divide => x / y
  | .remainder => floatRemainder x y
  | .power => x ^ y

def holds (relation : Relation) (isLess isEqual : Bool) : Bool :=
  match relation with
  | .less => isLess
  | .atMost => isLess || isEqual
  | .equal => isEqual
  | .different => !isEqual
  | .more => !isLess && !isEqual
  | .atLeast => !isLess

def compare (relation : Relation) (a b : Value) : Run Bool := do
  match a.asNumber?, b.asNumber? with
  | some x, some y => return holds relation (x < y) (x == y)
  | _, _ =>
    let (s, t) := (← textOf a, ← textOf b)
    return holds relation (Octets.before s t) (s == t)

/-! ### Functions of texts -/

def part (o : Octets) (start : Int) (count : Option Int) : Octets :=
  let stop := match count with
    | some n => start + n
    | none => o.length + 1
  let first := max start 1
  if stop ≤ first then [] else (o.drop (first - 1).toNat).take (stop - first).toNat

def indexOf (piece : Octets) : Nat → Octets → Nat
  | i, o =>
    if piece.isPrefixOf o then i + 1
    else
      match o with
      | [] => 0
      | _ :: rest => indexOf piece (i + 1) rest

def filled (text : Octets) : Octets → Octets
  | '\\' :: '&' :: rest => '&' :: filled text rest
  | '\\' :: '\\' :: '&' :: rest => '\\' :: text ++ filled text rest
  | '&' :: rest => text ++ filled text rest
  | c :: rest => c :: filled text rest
  | [] => []

def replace (r : Regex) (new : Octets) (isAll : Bool) :
    Nat → Octets → Octets → Bool → List Octets → Nat → Octets × Nat
  | 0, _, o, _, done, count => ((o :: done).reverse.flatten, count)
  | n + 1, before, o, mayBeEmpty, done, count =>
    let found := Regex.scan (fun p =>
      (Regex.longestAt false r p).filter fun m =>
        mayBeEmpty || !m.text.isEmpty || p.index != before.length) before o
    match found with
    | none => ((o :: done).reverse.flatten, count)
    | some m =>
      let skipped := m.before.drop before.length
      let done := filled m.text new :: skipped :: done
      let after := m.place.after
      if !isAll then ((after :: done).reverse.flatten, count + 1)
      else
        match m.text, after with
        | [], c :: after =>
          replace r new isAll n (c :: m.place.before) after true ([c] :: done) (count + 1)
        | [], [] => (done.reverse.flatten, count + 1)
        | _, after => replace r new isAll n m.place.before after false done (count + 1)

/-! ### Random numbers -/

def seeded (seed : Nat) : List Nat :=
  let seed := if seed % Nat.pow 2 32 = 0 then 1 else seed % Nat.pow 2 32
  let start := (List.range 30).foldl (fun all _ =>
    ((all.headD 1) * 16807 % 2147483647) :: all) [seed]
  let start := (List.range 3).foldl (fun all _ => all.getD 30 0 :: all) start
  (List.range 310).foldl (fun all _ =>
    ((all.getD 2 0 + all.getD 30 0) % Nat.pow 2 32 :: all).take 34) start

def nextRandom : Run Float := do
  let s ← get
  let all := if s.random.isEmpty then seeded 1 else s.random
  let n := (all.getD 2 0 + all.getD 30 0) % Nat.pow 2 32
  set { s with random := (n :: all).take 34 }
  return (n / 2).toFloat / 2147483647

/-! ### Functions of the language -/

def formatted (name : String) (values : List Value) (emits : Octets → Run Unit) : Run Octets := do
  let numberFormat := (← get).format
  let format := ((values.head?).map (Value.toText numberFormat)).getD []
  let shown := name.toList ++ "(\"".toList ++ format ++ "\")".toList
  match formatFrom (Value.toText numberFormat) (format.length + 1) 0 format (values.drop 1) [] with
  | .ok o => return o
  | .error (.missing printed) =>
    emits printed
    fail ("not enough arguments passed to ".toList ++ shown) true
  | .error (.improper printed n) =>
    emits printed
    fail ("improper conversion(number ".toList ++ Text.ofNat n ++ ") in ".toList ++ shown) true

def secondsOf (o : Octets) : Float :=
  match (words o).map fun w => (truncated (floatOf w)) with
  | [year, month, day, hour, minute, second] | [year, month, day, hour, minute, second, _] =>
    let months := year * 12 + (month - 1)
    let days := Calendar.dayNumber (months.fdiv 12) (months.fmod 12 + 1).toNat 1 + (day - 1)
    Float.ofInt (days * 86400 + hour * 3600 + minute * 60 + second)
  | _ => -1

def timeText (values : List Value) : Run Octets := do
  let format ← match values with
    | [] => pure "%c".toList
    | v :: _ => textOf v
  let time ← match values[1]? with
    | some v => pure (truncated v.toFloat)
    | none => return ← onMachine do
        return (Calendar.ofSeconds ((← Exec.now).fdiv 1000000000) 0).format {} format
  return (Calendar.ofSeconds time 0).format {} format

def apply (run : Runner) (name : String) (values : List Value) : Run Value := do
  let first := values.headD .unset
  let second := (values[1]?).getD .unset
  let real (f : Float → Float) : Value := .number (f first.toFloat)
  match name with
  | "length" =>
    if values.isEmpty then return .ofNat (← record).length
    else return .ofNat (← textOf first).length
  | "index" => return .ofNat (indexOf (← textOf second) 0 (← textOf first))
  | "substr" =>
    let count := (values[2]?).map fun v => truncated v.toFloat
    return .text (part (← textOf first) (truncated second.toFloat) count)
  | "sprintf" => return .text (← formatted "sprintf" values fun _ => pure ())
  | "toupper" => return .text ((← textOf first).map Char.toUpper)
  | "tolower" => return .text ((← textOf first).map Char.toLower)
  | "sin" => return real Float.sin
  | "cos" => return real Float.cos
  | "atan2" => return .number (Float.atan2 first.toFloat second.toFloat)
  | "exp" => return real Float.exp
  | "log" => return real Float.log
  | "sqrt" => return real Float.sqrt
  | "int" => return real fun x => if x < 0 then x.ceil else x.floor
  | "rand" => return .number (← nextRandom)
  | "srand" =>
    let old := (← get).seed
    let seed ← if values.isEmpty then
        onMachine do return Float.ofInt ((← Exec.now).fdiv 1000000000)
      else pure first.toFloat
    modify fun s => { s with seed, random := seeded (truncated seed % Nat.pow 2 32).toNat }
    return .number old
  | "system" =>
    let command ← textOf first
    flush
    return .ofNat (← runCommand run command none)
  | "close" =>
    match ← close run (← textOf first) with
    | some status => return .ofNat status
    | none => return .number (-1)
  | "fflush" =>
    flush
    return .ofNat 0
  | "systime" =>
    return .number (← onMachine do return Float.ofInt ((← Exec.now).fdiv 1000000000))
  | "mktime" => return .number (secondsOf (← textOf first))
  | _ => return .text (← timeText values)

/-! ### Expressions -/

def slotOf (e : Expr) (v : Run Value) : Run Slot := do
  match e with
  | .variable_ (.shared "NF") => return .scalar (← v)
  | .variable_ name =>
    let frame ← frame
    match ← slotIn frame name with
    | .unset => return .link frame name
    | slot => return slot
  | _ => return .scalar (← v)

def keyOf (values : List Value) : Run Table.Key := do
  let format := (← get).format
  match values with
  | [v] => return .ofValue format v
  | values =>
    let separator ← plainText "SUBSEP"
    return .name (separator.intercalate (values.map (Value.toText format)))

def received (place : Option Place) (found : Except Unit (Option Octets)) :
    Run Value := do
  match found with
  | .error () => return .number (-1)
  | .ok none => return .number 0
  | .ok (some o) =>
    match place with
    | none => setRecord o
    | some p => p.write (.input o)
    return .number 1

def fieldIndex (v : Value) : Run Nat := do
  let i := truncated v.toFloat
  if i < 0 then fail ("negative field index $".toList ++ Text.ofInt i) true
  return i.toNat

def regexFrom (e : Expr) (v : Run Value) : Run Regex := do
  match e with
  | .regex r => return r
  | _ => regexOf (← textOf (← v))

def cutterFrom (e : Expr) (v : Run Value) : Run Cutter := do
  match e with
  | .regex .nothing => return .chars
  | .regex r => return .regex r
  | _ => cutterOf (← textOf (← v))

def lengthFrom (e : Expr) (v : Run Value) : Run Value := do
  let ofText : Run Value := do return .ofNat (← textOf (← v)).length
  match e with
  | .variable_ n =>
    match ← slotIn (← frame) n with
    | .table i => return .ofNat (← withTable i fun t => (t.size, t))
    | _ => ofText
  | _ => ofText

def tableFrom (e : Expr) : Run Nat :=
  match e with
  | .variable_ name => tableOf name
  | _ => fail "no table".toList false

mutual

def eval (c : Context) : Expr → Run Value
  | .number x => return .number x
  | .text o => return .text o
  | .regex r => do return .ofBool (r.find? false (← record)).isSome
  | .variable_ name => Place.read (.variable_ name)
  | .field e => do field (← fieldIndex (← eval c e))
  | .element t keys => do
    let i ← tableOf t
    let key ← keyOf (← evalAll c keys)
    Place.read (.element i key)
  | .assign p operation e => do
    let p ← place c p
    let v ← eval c e
    let v ← match operation with
      | none => pure v
      | some operation =>
        pure (Value.number (calculate operation (← p.read).toFloat v.toFloat))
    p.write v
    return v
  | .count isBefore isUp p => do
    let p ← place c p
    let old := (← p.read).toFloat
    let new := if isUp then old + 1 else old - 1
    p.write (.number new)
    return .number (if isBefore then new else old)
  | .calculate operation a b => do
    let x ← eval c a
    let y ← eval c b
    return .number (calculate operation x.toFloat y.toFloat)
  | .plus e => do return .number (← eval c e).toFloat
  | .minus e => do return .number (-(← eval c e).toFloat)
  | .negate e => do return .ofBool !(← eval c e).isTrue
  | .conjunction a b => do
    if (← eval c a).isTrue then return .ofBool (← eval c b).isTrue else return .ofBool false
  | .disjunction a b => do
    if (← eval c a).isTrue then return .ofBool true else return .ofBool (← eval c b).isTrue
  | .choose e yes no => do if (← eval c e).isTrue then eval c yes else eval c no
  | .compare relation a b => do
    let x ← eval c a
    let y ← eval c b
    return .ofBool (← compare relation x y)
  | .matches_ isNegated a b => do
    let o ← textOf (← eval c a)
    let r ← regexFrom b (eval c b)
    return .ofBool ((r.find? false o).isSome != isNegated)
  | .concatenate a b => do
    let x ← textOf (← eval c a)
    let y ← textOf (← eval c b)
    return .text (x ++ y)
  | .isKey keys t => do
    let key ← keyOf (← evalAll c keys)
    let i ← tableOf t
    return .ofBool (← withTable i fun t => t.contains key)
  | .call name arguments => do
    match c.functions.get? name with
    | none => fail ("function ".toList ++ name.toList ++ " never defined".toList) false
    | some f =>
      let slots ← slots c arguments
      c.call f (slots.take f.count ++ List.replicate (f.count - slots.length) Slot.unset).toArray
  | .builtin name arguments => builtin c name arguments
  | .readRecord origin source target => do
    let p ← firstPlace c target
    match origin with
    | .main => received p (.ok (← nextMain))
    | origin =>
      let values ← evalAll c source
      let name ← textOf (values.headD .unset)
      received p (← nextOf c.run origin name)
  | .tuple es => do
    match ← evalAll c es with
    | [v] => return v
    | values =>
      match ← keyOf values with
      | .name o => return .text o
      | .number n => return .number (Float.ofInt n)

def evalAll (c : Context) : List Expr → Run (List Value)
  | [] => return []
  | e :: es => do
    let v ← eval c e
    return v :: (← evalAll c es)

def slots (c : Context) : List Expr → Run (List Slot)
  | [] => return []
  | e :: es => do
    let slot ← slotOf e (eval c e)
    return slot :: (← slots c es)

def place (c : Context) : Expr → Run Place
  | .variable_ name => return .variable_ name
  | .field e => do return .field (← fieldIndex (← eval c e))
  | .element t keys => do
    let i ← tableOf t
    let key ← keyOf (← evalAll c keys)
    withTable i fun t => ((), t.use key true)
    return .element i key
  | _ => fail "no place".toList false

def firstPlace (c : Context) : List Expr → Run (Option Place)
  | [] => return none
  | e :: _ => do return some (← place c e)

def builtin (c : Context) (name : String) : List Expr → Run Value
  | [] => apply c.run name []
  | e :: es => do
    match name with
    | "length" => lengthFrom e (eval c e)
    | "sub" =>
      let r ← regexFrom e (eval c e)
      replaced c false r es
    | "gsub" =>
      let r ← regexFrom e (eval c e)
      replaced c true r es
    | "match" =>
      let o ← textOf (← eval c e)
      let r ← firstRegex c es
      let (start, length) : Float × Float := match r.bind fun r => r.find? false o with
        | some m => ((m.before.length + 1).toFloat, m.text.length.toFloat)
        | none => (0, -1)
      setPlain "RSTART" (.number start)
      setPlain "RLENGTH" (.number length)
      return .number start
    | "split" =>
      let o ← textOf (← eval c e)
      splitInto c o es
    | name =>
      let v ← eval c e
      apply c.run name (v :: (← evalAll c es))

def firstRegex (c : Context) : List Expr → Run (Option Regex)
  | [] => return none
  | e :: _ => do return some (← regexFrom e (eval c e))

def splitInto (c : Context) (o : Octets) : List Expr → Run Value
  | [] => fail "no table".toList false
  | t :: es => do
    let cutter ← firstCutter c es
    let pieces := cut cutter o
    let i ← tableFrom t
    withTable i fun _ => ((), Table.ofList (pieces.map .input))
    return .ofNat pieces.length

def firstCutter (c : Context) : List Expr → Run Cutter
  | [] => do cutterOf (← plainText "FS")
  | e :: _ => cutterFrom e (eval c e)

def replaced (c : Context) (isAll : Bool) (r : Regex) : List Expr → Run Value
  | [] => return .ofNat 0
  | new :: target => do
    let new ← textOf (← eval c new)
    let p ← firstPlace c target
    let p := p.getD (.field 0)
    let old ← textOf (← p.read)
    let (o, count) := replace r new isAll (old.length + 2) [] old true [] 0
    if count != 0 then p.write (.text o)
    return .ofNat count

end

/-! ### Statements -/

def round (body : Run Unit) : Run Bool :=
  tryCatch (do body; return true) fun leave =>
    match leave with
    | .breakLoop => return false
    | .continueLoop => return true
    | leave => throw leave

def put (c : Context) (sink : Option (Sink × Expr)) (o : Octets) : Run Unit := do
  match sink with
  | none => emit o
  | some (kind, e) => emitTo kind (← textOf (← eval c e)) o

mutual

def exec (c : Context) : Statement → Run Unit
  | .expression e => do
    let _ ← eval c e
  | .print es sink => do
    let values ← evalAll c es
    let format ← plainText "OFMT"
    let texts := values.map (Value.toText format)
    let line ← if es.isEmpty then record else do pure ((← plainText "OFS").intercalate texts)
    put c sink (line ++ (← plainText "ORS"))
  | .printFormat es sink => do
    let values ← evalAll c es
    put c sink (← formatted "printf" values emit)
  | .block body => execAll c body
  | .branch e yes no => do if (← eval c e).isTrue then exec c yes else exec c no
  | .whileLoop e body =>
    loop (fun (_ : Unit) => do
      if !(← eval c e).isTrue then return .inr ()
      if ← round (exec c body) then return .inl () else return .inr ()) ()
  | .doLoop body e =>
    loop (fun (_ : Unit) => do
      if !(← round (exec c body)) then return .inr ()
      if (← eval c e).isTrue then return .inl () else return .inr ()) ()
  | .forLoop start e step body => do
    exec c start
    loop (fun (_ : Unit) => do
      let isTrue ← match e with
        | some e => do pure (← eval c e).isTrue
        | none => pure true
      if !isTrue then return .inr ()
      if !(← round (exec c body)) then return .inr ()
      exec c step
      return .inl ()) ()
  | .forEach name t body => do
    let i ← tableOf t
    let keys ← withTable i Table.keys
    loop (fun (keys : List Octets) => do
      match keys with
      | [] => return .inr ()
      | key :: keys =>
        Place.write (.variable_ name) (.text key)
        if ← round (exec c body) then return .inl keys else return .inr ()) keys
  | .breakLoop => throw .breakLoop
  | .continueLoop => throw .continueLoop
  | .nextRecord => throw .next
  | .nextFile => throw .nextFile
  | .exit status => do
    if let some e := status then
      let n := truncated (← eval c e).toFloat
      modify fun s => { s with status := (n % 256).toNat }
    throw .exit
  | .result e => do
    match e with
    | some e => throw (.result (← eval c e))
    | none => throw (.result .unset)
  | .delete t keys => do
    let i ← tableOf t
    if keys.isEmpty then withTable i fun _ => ((), {})
    else
      let key ← keyOf (← evalAll c keys)
      withTable i fun t => ((), t.erase key)

def execAll (c : Context) : List Statement → Run Unit
  | [] => return ()
  | s :: rest => do
    exec c s
    execAll c rest

end

def callUpTo (run : Runner) (functions : Std.HashMap String Function) :
    Nat → Function → Array Slot → Run Value
  | 0, _, _ => fail "function call nesting too deep".toList true
  | depth + 1, f, slots => do
    modify fun s => { s with frames := s.frames.push slots }
    let c : Context := { run, functions, call := callUpTo run functions depth }
    let v ← tryCatch (do exec c f.body; return Value.unset) fun leave =>
      match leave with
      | .result v => return v
      | leave => throw leave
    modify fun s => { s with frames := s.frames.pop }
    return v

/-! ### Programs -/

def selects (c : Context) (rule : Nat) : Pattern → Run Bool
  | .always => return true
  | .where_ e => do return (← eval c e).isTrue
  | .range first last => do
    let isOpen := (← get).ranges.contains rule
    if !isOpen then
      if !(← eval c first).isTrue then return false
    let ends := (← eval c last).isTrue
    modify fun s =>
      let others := s.ranges.filter (· != rule)
      { s with ranges := if ends then others else rule :: others }
    return true

def runRules (c : Context) (rules : List (Rule × Nat)) : Run Unit := do
  for (rule, i) in rules do
    if ← selects c i rule.pattern then exec c rule.action

def untilExit (body : Run Unit) : Run Bool :=
  tryCatch (do body; return false) fun leave =>
    match leave with
    | .exit => return true
    | leave => throw leave

def program (c : Context) (p : Program) : Run Unit := do
  let rules := p.rules.zipIdx
  let exits ← untilExit do
    execAll c p.before
    if !rules.isEmpty || !p.after.isEmpty then
      loop (fun (_ : Unit) => do
        match ← nextMain with
        | none => return .inr ()
        | some o =>
          setRecord o
          tryCatch (runRules c rules) fun leave =>
            match leave with
            | .next => return ()
            | .nextFile => modify fun s => { s with input := none }
            | leave => throw leave
          return .inl ()) ()
  let _ ← untilExit (execAll c p.after)
  let _ := exits
  closeAll c.run

end Run

end Interpolation.Shell.Utility.Awk
