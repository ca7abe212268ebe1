import Interpolation.Shell.Process
import Interpolation.Shell.Utility.Awk.Search
import Interpolation.Shell.Utility.Awk.Syntax
import Interpolation.Shell.Utility.Awk.Table
import Interpolation.Shell.Utility.Options

/-!
# What a program for records has come to

The record that has been read is cut into fields when a field is asked for, by the separator of the
time when it was read. When a field is changed, the record is joined anew.
-/

namespace Interpolation.Shell.Utility.Awk

/-- What a name stands for. -/
inductive Slot where
  | unset
  | scalar (v : Value)
  | table (index : Nat)
  | link (frame : Nat) (name : Name)
  deriving Inhabited

/-- How a text is cut into fields or records. -/
inductive Cutter where
  | blanks
  | char (c : Char)
  | regex (r : Regex)
  | chars
  | paragraphs

/-- Something that is printed to. -/
inductive Opened where
  | file (key : Nat)
  | command (text : List Octets)

/-- Why something does not come to its end. -/
inductive Leave where
  | next
  | nextFile
  | exit
  | breakLoop
  | continueLoop
  | result (v : Value)
  | fault (complaint : Octets) (tellsRecord : Bool)

/-- What a program has come to. -/
structure State where
  shared : Std.HashMap String Slot := {}
  frames : Array (Array Slot) := #[]
  tables : Array Table := #[]
  record : Octets := []
  fields : Array Value := #[]
  isSplit : Bool := false
  isStale : Bool := false
  cutter : Cutter := .blanks
  regexes : Std.HashMap String Regex := {}
  input : Option Octets := none
  operand : Nat := 1
  hasOpened : Bool := false
  readers : List ((Origin × Octets) × Octets × Nat) := []
  sinks : List (Octets × Opened) := []
  output : List Octets := []
  size : Nat := 0
  ranges : List Nat := []
  status : Nat := 0
  seed : Float := 0
  random : List Nat := []
  format : Octets := "%.6g".toList

/-- Runs a part of a program. -/
abbrev Run := ExceptT Leave (StateT State Exec)

namespace Run

def onMachine {α : Type} (run : Exec α) : Run α :=
  ExceptT.lift (StateT.lift run)

def loop {α β : Type} (step : α → Run (α ⊕ β)) (a : α) : Run β :=
  ExceptT.mk fun s => do
    let next (now : α × State) : Exec ((α × State) ⊕ (Except Leave β × State)) := do
      match ← ((step now.1).run).run now.2 with
      | (.ok (.inl a), s) => return .inl (a, s)
      | (.ok (.inr b), s) => return .inr (.ok b, s)
      | (.error leave, s) => return .inr (.error leave, s)
    Exec.loop next (a, s)

def fail {α : Type} (complaint : Octets) (tellsRecord : Bool) : Run α :=
  throw (.fault complaint tellsRecord)

/-! ### Names -/

def slotIn (frame : Nat) (name : Name) : Run Slot := do
  let s ← get
  match name with
  | .shared n => return (s.shared.get? n).getD .unset
  | .own i => return ((s.frames.getD frame #[]).getD i .unset)

def setSlotIn (frame : Nat) (name : Name) (slot : Slot) : Run Unit :=
  modify fun s =>
    match name with
    | .shared n => { s with shared := s.shared.insert n slot }
    | .own i => { s with frames := s.frames.modify frame fun f => f.setIfInBounds i slot }

def frame : Run Nat := do
  return (← get).frames.size - 1

def shownName : Name → Octets
  | .shared n => n.toList
  | .own i => "argument ".toList ++ Text.ofNat (i + 1)

def newTable : Run Nat := do
  let s ← get
  set { s with tables := s.tables.push {} }
  return s.tables.size

def tableIn : Nat → Nat → Name → Run Nat
  | 0, _, name => fail ("illegal reference to variable ".toList ++ shownName name) false
  | n + 1, frame, name => do
    match ← slotIn frame name with
    | .table i => return i
    | .scalar _ => fail ("illegal reference to variable ".toList ++ shownName name) false
    | .unset =>
      let i ← newTable
      setSlotIn frame name (.table i)
      return i
    | .link outer other =>
      let i ← tableIn n outer other
      setSlotIn frame name (.table i)
      return i

def tableOf (name : Name) : Run Nat := do
  tableIn ((← get).frames.size + 2) (← frame) name

def withTable {α : Type} (i : Nat) (use : Table → α × Table) : Run α := do
  let s ← get
  let t := s.tables.getD i {}
  set { s with tables := s.tables.setIfInBounds i {} }
  let (a, t) := use t
  modify fun s => { s with tables := s.tables.setIfInBounds i t }
  return a

def plain (name : String) : Run Value := do
  match (← get).shared.get? name with
  | some (.scalar v) => return v
  | _ => return .unset

def textOf (v : Value) : Run Octets := do
  return v.toText (← get).format

def plainText (name : String) : Run Octets := do
  textOf (← plain name)

def setPlain (name : String) (v : Value) : Run Unit :=
  setSlotIn 0 (.shared name) (.scalar v)

/-! ### Regular expressions -/

def regexOf (o : Octets) : Run Regex := do
  match (← get).regexes.get? (String.ofList o) with
  | some r => return r
  | none =>
    match readRegex o with
    | .error why =>
      fail (("regular expression compile failed (" ++ why ++ ")\n").toList ++ o) true
    | .ok r =>
      modify fun s => { s with regexes := s.regexes.insert (String.ofList o) r }
      return r

/-! ### Cutting -/

def cutAt (r : Regex) : Nat → Octets → List Octets
  | 0, o => [o]
  | n + 1, o =>
    let found := Regex.scan (fun p =>
      (Regex.longestAt false r p).filter fun m => !m.text.isEmpty) [] o
    match found with
    | none => [o]
    | some m => m.before :: cutAt r n m.place.after

def words (o : Octets) : List Octets :=
  (o.splitOnP fun c => c == ' ' || c == '\t' || c == '\n').filter fun w => !w.isEmpty

def cut (c : Cutter) (o : Octets) : List Octets :=
  if o.isEmpty then []
  else
    match c with
    | .blanks | .paragraphs => words o
    | .char c => o.splitOn c
    | .chars => o.map fun c => [c]
    | .regex r => cutAt r (o.length + 1) o

def cutterOf (o : Octets) : Run Cutter := do
  match o with
  | [' '] => return .blanks
  | [] => return .chars
  | [c] => return .char c
  | o => return .regex (← regexOf o)

def fieldCutter : Run Cutter := do
  let separator ← plainText "FS"
  let c ← cutterOf separator
  if (← plainText "RS").isEmpty then
    match c with
    | .char c => return .regex (.either (.char c) (.char '\n'))
    | .regex r => return .regex (.either r (.char '\n'))
    | c => return c
  else return c

/-! ### Records and fields -/

def setRecord (o : Octets) : Run Unit := do
  let cutter ← fieldCutter
  modify fun s =>
    { s with record := o, fields := #[], isSplit := false, isStale := false, cutter }

def split : Run Unit := do
  let s ← get
  if !s.isSplit then
    set { s with fields := ((cut s.cutter s.record).map Value.input).toArray, isSplit := true }

def record : Run Octets := do
  let s ← get
  if s.isStale then
    let separator ← plainText "OFS"
    let texts := s.fields.toList.map (Value.toText s.format)
    let record := separator.intercalate texts
    set { s with record, isStale := false }
    return record
  else return s.record

def field (i : Nat) : Run Value := do
  if i = 0 then return .input (← record)
  else
    split
    return ((← get).fields[i - 1]?).getD .unset

def setCount (n : Nat) : Run Unit := do
  split
  modify fun s =>
    let fields := (s.fields.extract 0 n) ++ Array.replicate (n - s.fields.size) Value.unset
    { s with fields, isStale := true }

def setField (i : Nat) (v : Value) : Run Unit := do
  if i = 0 then setRecord (← textOf v)
  else
    split
    if (← get).fields.size < i then setCount i
    modify fun s => { s with fields := s.fields.setIfInBounds (i - 1) v, isStale := true }

/-! ### Places -/

/-- A place that has a value. -/
inductive Place where
  | variable_ (name : Name)
  | field (i : Nat)
  | element (table : Nat) (key : Table.Key)

def Place.read : Place → Run Value
  | variable_ (.shared "NF") => do
    split
    return .ofNat (← get).fields.size
  | variable_ name => do
    match ← slotIn (← frame) name with
    | .scalar v => return v
    | .unset | .link .. => return .unset
    | .table _ => fail ("illegal reference to array ".toList ++ shownName name) false
  | field i => Run.field i
  | element t key => withTable t fun t => t.get key

def Place.write (p : Place) (v : Value) : Run Unit := do
  match p with
  | variable_ (.shared "NF") => setCount (truncated v.toFloat).toNat
  | variable_ name =>
    match ← slotIn (← frame) name with
    | .table _ => fail ("illegal reference to array ".toList ++ shownName name) false
    | _ =>
      setSlotIn (← frame) name (.scalar v)
      if name = .shared "CONVFMT" then
        let format ← textOf v
        modify fun s => { s with format }
  | field i => setField i v
  | element t key => withTable t fun t => ((), t.insert key v)

/-! ### Output -/

def flush : Run Unit := do
  let s ← get
  set { s with output := [], size := 0 }
  if !s.output.isEmpty then onMachine (Exec.print s.output.reverse.flatten)

def emit (o : Octets) : Run Unit := do
  modify fun s => { s with output := o :: s.output, size := s.size + o.length }
  if 4096 ≤ (← get).size then flush

def shellWords (command : Octets) : List Octets :=
  ["sh".toList, "-c".toList, command]

def runCommand (run : Runner) (command : Octets) (input : Option Octets) : Run Nat :=
  onMachine do
    let here ← Exec.ask id
    Exec.change fun p => { p with lastSignal := none }
    if let some text := input then
      Exec.connect 0 (← Exec.openTarget
        { target := .pipe { front := text }, isWritable := false })
    let result ← Exec.attempt (run (.utility "/bin/sh".toList (shellWords command)))
    let after ← Exec.ask id
    Exec.change fun _ => here
    Exec.resume result
    return match after.lastSignal with
      | some signal => 256 + signal
      | none => after.status

def emitTo (kind : Sink) (name : Octets) (o : Octets) : Run Unit := do
  if kind != .command && (name == "/dev/stdout".toList || name == ['-']) then emit o
  else if kind != .command && name == "/dev/stderr".toList then
    let _ ← onMachine (Exec.write 2 o)
  else
    let s ← get
    let opened ← match s.sinks.lookup name with
      | some opened => pure opened
      | none =>
        match kind with
        | .command =>
          flush
          pure (.command [])
        | .file appends =>
          match ← onMachine (Exec.openPath name (.writing (!appends) appends false)) with
          | .ok key => pure (.file key)
          | .error why =>
            fail ("cannot open \"".toList ++ name ++ "\" for output (".toList ++ why.message ++
              [')']) false
    let opened ← match opened with
      | .file key =>
        let _ ← onMachine (Exec.writeKey key o)
        pure opened
      | .command text => pure (.command (o :: text))
    modify fun s =>
      { s with sinks := (name, opened) :: s.sinks.filter fun (n, _) => n != name }

def closeSink (run : Runner) (name : Octets) : Run (Option Nat) := do
  let s ← get
  match s.sinks.lookup name with
  | none => return none
  | some opened =>
    set { s with sinks := s.sinks.filter fun (n, _) => n != name }
    match opened with
    | .file _ => return some 0
    | .command text => return some (← runCommand run name (some text.reverse.flatten))

def closeAll (run : Runner) : Run Unit := do
  for (name, _) in (← get).sinks do
    let _ ← closeSink run name
  flush

/-! ### Input -/

def takeRecord (c : Cutter) (o : Octets) : Option (Octets × Octets) :=
  match c with
  | .paragraphs =>
    let o := o.dropWhile (· == '\n')
    if o.isEmpty then none
    else
      let (text, rest) := paragraph [] o
      some (text, rest)
  | .char c => if o.isEmpty then none else some ((Text.cutFirst c o).getD (o, []))
  | .regex r =>
    if o.isEmpty then none
    else
      match Regex.scan (fun p =>
        (Regex.longestAt false r p).filter fun m => !m.text.isEmpty) [] o with
      | some m => some (m.before, m.place.after)
      | none => some (o, [])
  | .blanks => if o.isEmpty then none else some ((Text.cutFirst ' ' o).getD (o, []))
  | .chars => none
where
  paragraph : Octets → Octets → Octets × Octets
    | done, '\n' :: '\n' :: rest => (done.reverse, rest.dropWhile (· == '\n'))
    | done, ['\n'] => (done.reverse, [])
    | done, c :: rest => paragraph (c :: done) rest
    | done, [] => (done.reverse, [])

def recordCutter : Run Cutter := do
  match ← plainText "RS" with
  | [] => return .paragraphs
  | o => cutterOf o

def countRecord : Run Unit := do
  for name in ["NR", "FNR"] do setPlain name (.number ((← plain name).toFloat + 1))

def assignment? (o : Octets) : Option (String × Octets) :=
  match Text.cutFirst '=' o with
  | some (name, value) =>
    if Octets.isName name then some (String.ofList name, unescape value.length value) else none
  | none => none

def openMain (name : Octets) : Run Unit := do
  match ← onMachine (flow name) with
  | .ok text => modify fun s => { s with input := some text, hasOpened := true }
  | .error why =>
    fail ("cannot open ".toList ++ name ++ " (".toList ++ why.message ++ [')']) false

def nextOperand : Run Bool := do
  let s ← get
  let count := (truncated (← plain "ARGC").toFloat).toNat
  if s.operand < count then
    set { s with operand := s.operand + 1 }
    let t ← tableOf (.shared "ARGV")
    let v ← withTable t fun t =>
      (t.valueOf (Text.ofNat s.operand), t)
    let o ← textOf v
    if o.isEmpty then return true
    match assignment? o with
    | some (name, value) => Place.write (.variable_ (.shared name)) (.input value)
    | none =>
      setPlain "FILENAME" (.text o)
      setPlain "FNR" (.number 0)
      openMain o
    return true
  else if s.hasOpened then return false
  else
    setPlain "FILENAME" (.text ['-'])
    openMain ['-']
    return true

def nextMain : Run (Option Octets) :=
  loop (fun (_ : Unit) => do
    match (← get).input with
    | some text =>
      match takeRecord (← recordCutter) text with
      | some (record, rest) =>
        modify fun s => { s with input := some rest }
        countRecord
        return .inr (some record)
      | none =>
        modify fun s => { s with input := none }
        return .inl ()
    | none => if ← nextOperand then return .inl () else return .inr none) ()

def nextOf (run : Runner) (origin : Origin) (name : Octets) :
    Run (Except Unit (Option Octets)) := do
  let known := (origin, name)
  let s ← get
  let found ← match s.readers.lookup known with
    | some found => pure (some found)
    | none =>
      match origin with
      | .command =>
        flush
        let (text, status) ← onMachine
          (Exec.captured run (run (.utility "/bin/sh".toList (shellWords name))))
        pure (some (text, status))
      | _ =>
        let source := if name == "/dev/stdin".toList then ['-'] else name
        match ← onMachine (content source) with
        | .ok text => pure (some (text, 0))
        | .error _ => pure none
  match found with
  | none => return .error ()
  | some (text, status) =>
    let taken := takeRecord (← recordCutter) text
    let rest := (taken.map Prod.snd).getD []
    modify fun s =>
      { s with
        readers := (known, rest, status) :: s.readers.filter fun (k, _) => k != known }
    return .ok (taken.map Prod.fst)

def close (run : Runner) (name : Octets) : Run (Option Nat) := do
  let s ← get
  let reader := s.readers.find? fun (k, _) => k.2 == name
  modify fun s => { s with readers := s.readers.filter fun (k, _) => k.2 != name }
  match ← closeSink run name with
  | some status => return some status
  | none => return reader.map fun (_, _, status) => status

end Run

end Interpolation.Shell.Utility.Awk
