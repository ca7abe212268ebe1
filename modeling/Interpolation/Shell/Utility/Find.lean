import Interpolation.Shell.Calendar.Reading
import Interpolation.Shell.Utility.Files
import Interpolation.Shell.Utility.Find.Expression
import Interpolation.Shell.Utility.Listing

/-!
# Finding files

Folders are walked through, and an expression is worked out for each file in them. What the
expression does, such as printing the path, is done on the way.
-/

namespace Interpolation.Shell.Utility

/-! ### Reading the arguments -/

structure FindSetup where
  isDeep : Bool := false
  least : Nat := 0
  most : Option Nat := none
  follows : Bool := false
  followsFirst : Bool := false
  isToday : Bool := false
  form : Regex.Form := .editor
  commands : Nat := 0

abbrev ReadFind := StateT FindSetup (ExceptT Octets Exec)

namespace ReadFind

def fail {α : Type} (complaint : Octets) : ReadFind α :=
  StateT.lift (throw complaint)

def onMachine {α : Type} (run : Exec α) : ReadFind α :=
  StateT.lift (ExceptT.lift run)

def marked (o : Octets) : Octets :=
  Char.ofNat 96 :: o ++ ['\'']

def isExpression (argument : Octets) : Bool :=
  match argument with
  | '-' :: _ :: _ | ['('] | ['!'] => true
  | _ => false

def timeOf (n : Node) (c : Char) : Int :=
  if c == 'a' then n.accessed else if c == 'm' then n.modified else n.changed

def timeKind (c : Char) : FileTime :=
  if c == 'a' then .accessed else if c == 'm' then .modified else .changed

def referenceTime (path : Octets) (c : Char) : ReadFind Int := do
  match ← onMachine (Exec.node? true path) with
  | .ok node => return timeOf node c
  | .error why => fail (quote path ++ ": ".toList ++ why.message)

def sink (path : Octets) : ReadFind Nat := do
  match ← onMachine (Exec.openPath path (.writing true false false)) with
  | .ok key => return key
  | .error why => fail (quote path ++ ": ".toList ++ why.message)

def format (o : Octets) : ReadFind (List FilePiece) := do
  match filePieces (o.length + 1) o with
  | .ok (pieces, warnings) =>
    for warning in warnings do onMachine (complain "find" ("warning: ".toList ++ warning))
    return pieces
  | .error complaint => fail complaint

def regex (o : Octets) : ReadFind Regex := do
  match Regex.read { form := (← get).form } o with
  | .ok r => return r
  | .error complaint =>
    fail ("failed to compile regular expression '".toList ++ o ++ "': ".toList ++
      complaint.toList)

def amounts (word o : Octets) : ReadFind Amounts := do
  match amounts? o with
  | some a => return a
  | none => fail ("invalid argument ".toList ++ marked o ++ " to ".toList ++ marked word)

def command (word : Octets) (mayGather : Bool) (arguments : List Octets) :
    ReadFind (FileCommand × List Octets) := do
  let hasBraces (o : Octets) : Bool := (Pattern.suffixes o).any "\x7b\x7d".toList.isPrefixOf
  let rec split : Bool → List Octets → Option (List Octets × Bool × List Octets)
    | _, [] => none
    | _, [';'] :: rest => some ([], false, rest)
    | true, ['+'] :: rest => some ([], true, rest)
    | _, w :: rest =>
      (split (mayGather && hasBraces w) rest).map fun (ws, gathers, rest) =>
        (w :: ws, gathers, rest)
  match split false arguments with
  | none => fail ("missing argument to ".toList ++ marked word)
  | some ([], _, _) =>
    fail ("invalid argument ".toList ++ marked [';'] ++ " to ".toList ++ marked word)
  | some (words, gathers, rest) =>
    let kind := if word.contains 'd' then "dir" else ""
    if gathers && 1 < (words.filter hasBraces).length then
      fail ("Only one instance of \x7b\x7d is supported with -exec" ++ kind ++ " ... +").toList
    let last := words.getLastD []
    if gathers && last != "\x7b\x7d".toList then
      fail (("In '-exec" ++ kind ++ " ... \x7b\x7d +' the '\x7b\x7d' must appear by itself, " ++
        "but you specified '").toList ++ last ++ ['\''])
    let s ← get
    set { s with commands := s.commands + 1 }
    return ({
      number := s.commands
      name := words.headD []
      words
      isLocal := word.contains 'd'
      asks := word.contains 'k'
      gathers }, rest)

def newer (word : Octets) (which reference : Char) (o : Octets) : ReadFind FileTest := do
  if !"aBcm".toList.contains which || !"aBcmt".toList.contains reference then
    fail ("invalid predicate ".toList ++ marked word)
  if reference == 't' then
    let zone ← onMachine zone
    match Calendar.read? zone (← onMachine Exec.now) o with
    | some time => return .newer (timeKind which) time
    | none =>
      fail ("I cannot figure out how to interpret ".toList ++ quote o ++
        " as a date or time".toList)
  else return .newer (timeKind which) (← referenceTime o reference)

def test? (word o : Octets) : ReadFind (Option FileTest) := do
  let kinds (isOther : Bool) : ReadFind (Option FileTest) :=
    match kindsOf word o with
    | .ok letters => return some (.kind isOther letters)
    | .error complaint => fail complaint
  let age (time : FileTime) (seconds : Nat) : ReadFind (Option FileTest) := do
    return some (.age time (← amounts word o) seconds (← get).isToday)
  match String.ofList word with
  | "-name" => return some (.name false (namePattern false o))
  | "-iname" => return some (.name true (namePattern true o))
  | "-path" | "-wholename" => return some (.path false (namePattern false o))
  | "-ipath" | "-iwholename" => return some (.path true (namePattern true o))
  | "-lname" => return some (.target false (namePattern false o))
  | "-ilname" => return some (.target true (namePattern true o))
  | "-regex" => return some (.regex false (← regex o))
  | "-iregex" => return some (.regex true (← regex o))
  | "-type" => kinds false
  | "-xtype" => kinds true
  | "-size" =>
    match fileSize o with
    | .ok (a, unit) => return some (.size a unit)
    | .error complaint => fail complaint
  | "-newer" => return some (← newer word 'm' 'm' o)
  | "-anewer" => return some (← newer word 'a' 'm' o)
  | "-cnewer" => return some (← newer word 'c' 'm' o)
  | "-mtime" => age .modified 86400
  | "-atime" => age .accessed 86400
  | "-ctime" => age .changed 86400
  | "-mmin" => age .modified 60
  | "-amin" => age .accessed 60
  | "-cmin" => age .changed 60
  | "-used" => return some (.used (← amounts word o))
  | "-perm" =>
    match modeRule? o with
    | some (rule, bits) => return some (.mode rule bits)
    | none => fail ("invalid mode ".toList ++ quote o)
  | "-user" =>
    match Accounts.user? o with
    | some (n, _) => return some (.owner n)
    | none => fail (quote o ++ " is not the name of a known user".toList)
  | "-group" =>
    match Accounts.group? o with
    | some n => return some (.group n)
    | none => fail (quote o ++ " is not the name of an existing group".toList)
  | "-uid" => return some (.ownerNumber (← amounts word o))
  | "-gid" => return some (.groupNumber (← amounts word o))
  | "-links" => return some (.links (← amounts word o))
  | "-inum" => return some (.number (← amounts word o))
  | "-samefile" =>
    match ← onMachine (Exec.find? false o) with
    | .ok n => return some (.number ⟨.exactly, n⟩)
    | .error why => fail (quote o ++ ": ".toList ++ why.message)
  | "-fstype" | "-context" => return some (.always false)
  | _ =>
    match "-newer".toList.isPrefixOf? word with
    | some [which, reference] => return some (← newer word which reference o)
    | _ => return none

def depth (word o : Octets) : ReadFind Nat := do
  match Octets.natural? o with
  | some n => return n
  | none =>
    fail ("Expected a positive decimal integer argument to ".toList ++ word ++
      ", but got ".toList ++ quote o)

def setting (word o : Octets) : ReadFind Bool := do
  match String.ofList word with
  | "-maxdepth" =>
    let n ← depth word o
    modify fun s => { s with most := some n }
    return true
  | "-mindepth" =>
    let n ← depth word o
    modify fun s => { s with least := n }
    return true
  | "-regextype" =>
    match regexForms.find? fun (name, _) => name.toList == o with
    | some (_, form) =>
      modify fun s => { s with form }
      return true
    | none =>
      let names := ", ".toList.intercalate (regexForms.map fun (name, _) => quote name.toList)
      fail ("Unknown regular expression type ".toList ++ quote o ++ "; valid types are ".toList ++
        names ++ ['.'])
  | _ => return false

def action? (word o : Octets) : ReadFind (Option FileAction) := do
  match String.ofList word with
  | "-printf" => return some (.format (← format o) none)
  | "-fprint" => return some (.print '\n' (some (← sink o)))
  | "-fprint0" => return some (.print (Char.ofNat 0) (some (← sink o)))
  | "-fls" => return some (.list (some (← sink o)))
  | _ => return none

def takesArgument (word : Octets) : Bool :=
  (["-name", "-iname", "-path", "-wholename", "-ipath", "-iwholename", "-lname", "-ilname",
    "-regex", "-iregex", "-type", "-xtype", "-size", "-newer", "-anewer", "-cnewer", "-mtime",
    "-atime", "-ctime", "-mmin", "-amin", "-cmin", "-used", "-perm", "-user", "-group", "-uid",
    "-gid", "-links", "-inum", "-samefile", "-fstype", "-context", "-maxdepth", "-mindepth",
    "-regextype", "-printf", "-fprint", "-fprint0", "-fls"].any (·.toList == word)) ||
    ("-newer".toList.isPrefixOf word && word.length = 8)

def plain? (word : Octets) : ReadFind (Option FileExpression) := do
  let set_ (f : FindSetup → FindSetup) : ReadFind (Option FileExpression) := do
    modify f
    return some (.test (.always true))
  match String.ofList word with
  | "-print" => return some (.act (.print '\n' none))
  | "-print0" => return some (.act (.print (Char.ofNat 0) none))
  | "-ls" => return some (.act (.list none))
  | "-prune" => return some (.act .prune)
  | "-quit" => return some (.act .quit)
  | "-delete" =>
    modify fun s => { s with isDeep := true }
    return some (.act .delete)
  | "-depth" | "-d" => set_ fun s => { s with isDeep := true }
  | "-follow" => set_ fun s => { s with follows := true }
  | "-daystart" => set_ fun s => { s with isToday := true }
  | "-empty" => return some (.test .isEmpty)
  | "-executable" => return some (.test .isRunnable)
  | "-true" | "-readable" | "-writable" | "-mount" | "-xdev" | "-noleaf" | "-warn" | "-nowarn"
  | "-ignore_readdir_race" | "-noignore_readdir_race" =>
    return some (.test (.always true))
  | "-false" | "-nouser" | "-nogroup" => return some (.test (.always false))
  | _ => return none

def signs : Nat → List Octets → ReadFind (List FileSign)
  | 0, _ => return []
  | _, [] => return []
  | n + 1, word :: rest => do
    let more (sign : FileSign) (rest : List Octets) : ReadFind (List FileSign) := do
      return sign :: (← signs n rest)
    match String.ofList word with
    | "(" => more .opening rest
    | ")" => more .closing rest
    | "!" | "-not" => more (.negation word) rest
    | "-a" | "-and" => more (.conjunction word) rest
    | "-o" | "-or" => more (.disjunction word) rest
    | "," => more .comma rest
    | name =>
      if ["-exec", "-execdir", "-ok", "-okdir"].contains name then
        let (c, rest) ← command word (!word.contains 'k') rest
        more (.leaf (.act (.run c))) rest
      else if name == "-fprintf" then
        match rest with
        | path :: spec :: rest =>
          let key ← sink path
          more (.leaf (.act (.format (← format spec) (some key)))) rest
        | _ => fail ("missing argument to ".toList ++ marked word)
      else if takesArgument word then
        match rest with
        | [] => fail ("missing argument to ".toList ++ marked word)
        | o :: rest =>
          if ← setting word o then more (.leaf (.test (.always true))) rest
          else
            match ← action? word o with
            | some a => more (.leaf (.act a)) rest
            | none =>
              match ← test? word o with
              | some t => more (.leaf (.test t)) rest
              | none => fail ("unknown predicate ".toList ++ marked word)
      else
        match ← plain? word with
        | some e => more (.leaf e) rest
        | none =>
          if word.head? == some '-' then fail ("unknown predicate ".toList ++ marked word)
          else fail ("paths must precede expression: ".toList ++ marked word)

def links : List Octets → ReadFind (List Octets)
  | ['-', 'H'] :: rest => do
    modify fun s => { s with followsFirst := true, follows := false }
    links rest
  | ['-', 'L'] :: rest => do
    modify fun s => { s with follows := true }
    links rest
  | ['-', 'P'] :: rest => do
    modify fun s => { s with followsFirst := false, follows := false }
    links rest
  | ['-', '-'] :: rest => return rest
  | ('-' :: 'O' :: _ :: _) :: rest => links rest
  | rest => return rest

def all (arguments : List Octets) : ReadFind (List Octets × FileExpression) := do
  let rest ← links arguments
  let paths := rest.takeWhile fun w => !isExpression w
  let signs ← signs (rest.length + 1) (rest.drop paths.length)
  match readSigns signs with
  | .error complaint => fail complaint.toList
  | .ok e =>
    let isPrune (a : FileAction) : Bool := match a with
      | .prune => true
      | _ => false
    let isDelete (a : FileAction) : Bool := match a with
      | .delete => true
      | _ => false
    if e.has isPrune && e.has isDelete then
      fail ("The -delete action automatically turns on -depth, but -prune does nothing when " ++
        "-depth is in effect.  If you want to carry on anyway, just explicitly use the -depth " ++
        "option.").toList
    let e := if e.acts then e else .both e (.act (.print '\n' none))
    return (if paths.isEmpty then [['.']] else paths, e)

end ReadFind

/-! ### Walking -/

structure Visited where
  start : Octets
  path : Octets
  depth : Nat
  entry : Entry

structure Finding where
  status : Nat := 0
  gathered : List (FileCommand × Option Octets × List Octets) := []
  isPruned : Bool := false
  isDone : Bool := false

abbrev Finds := StateT Finding Exec

structure FindScene where
  setup : FindSetup
  run : Runner
  now : Int
  zone : Zone

namespace Finds

def complain (o : Octets) : Finds Unit := do
  StateT.lift (Utility.complain "find" o)
  modify fun f => { f with status := 1 }

def folderOf (path : Octets) : Octets :=
  let bare := Text.dropTrailing '/' path
  let front := (bare.reverse.dropWhile (· != '/')).reverse
  if path.all (· == '/') then []
  else if front.isEmpty then (if bare.length < path.length then bare else ['.'])
  else if bare.length < path.length then bare
  else if front.all (· == '/') then front.take 1
  else Text.dropTrailing '/' front

def lastStep (path : Octets) : Octets :=
  let bare := Text.dropTrailing '/' path
  if bare.isEmpty then path.take 1
  else (bare.reverse.takeWhile (· != '/')).reverse ++ path.drop bare.length

def FileTime.of (t : FileTime) (n : Node) : Int :=
  match t with
  | .accessed => n.accessed
  | .changed => n.changed
  | .modified => n.modified

def kindOf (b : Body) : Char :=
  match b with
  | .file _ => 'f'
  | b => kindLetter b

def otherKind (s : FindScene) (v : Visited) : Exec Char := do
  match ← Exec.node? (!s.setup.follows) v.entry.path with
  | .ok node => return kindOf node.body
  | .error .endlessLinks => return 'L'
  | .error _ => return if s.setup.follows then kindOf v.entry.node.body else 'N'

def dayEnd (zone : Zone) (now : Int) : Int :=
  let seconds := now.fdiv 1000000000 + zone.ahead
  ((seconds.fdiv 86400 + 1) * 86400 - zone.ahead) * 1000000000

def holds (s : FindScene) (v : Visited) (t : FileTest) : Exec Bool := do
  let e := v.entry
  let folded (ignoresCase : Bool) (o : Octets) : Octets :=
    if ignoresCase then o.map Char.toLower else o
  match t with
  | .always b => return b
  | .name ignoresCase p => return p.isMatch (folded ignoresCase (nameOf v.path))
  | .path ignoresCase p => return p.isMatch (folded ignoresCase v.path)
  | .target ignoresCase p => return e.target?.any fun o => p.isMatch (folded ignoresCase o)
  | .regex ignoresCase r =>
    return ((r.longestAt ignoresCase (.between [] v.path)).any fun m => m.place.after.isEmpty)
  | .kind false letters => return letters.contains (kindOf e.node.body)
  | .kind true letters =>
    let kind ← otherKind s v
    return letters.contains (if kind == 'N' || kind == 'L' then 'l' else kind)
  | .size a unit => return a.holds ((e.size + unit - 1) / unit)
  | .isEmpty =>
    match e.node.body with
    | .file content => return content.isEmpty
    | .folder _ entries => return entries.isEmpty
    | _ => return false
  | .newer time than => return than < FileTime.of time e.node
  | .age time a seconds isToday =>
    let origin := if isToday then dayEnd s.zone s.now else s.now
    let age := (origin - FileTime.of time e.node).fdiv (1000000000 * seconds)
    return if age < 0 then a.bound == .less else a.holds age.toNat
  | .used a =>
    let days := (e.node.accessed - e.node.changed).fdiv (1000000000 * 86400)
    return e.node.changed < e.node.accessed && a.holds days.toNat
  | .mode rule bits =>
    let mode := e.node.mode
    return match rule with
      | .exactly => mode = bits
      | .all => mode &&& bits = bits
      | .any => bits = 0 || mode &&& bits != 0
  | .owner n => return e.node.owner = n
  | .group n => return e.node.group = n
  | .ownerNumber a => return a.holds e.node.owner
  | .groupNumber a => return a.holds e.node.group
  | .links a => return a.holds e.names
  | .number a => return a.holds e.number
  | .isRunnable =>
    match ← Exec.node? true e.path with
    | .ok node => return node.mode &&& 0o111 != 0
    | .error _ => return false

/-! ### Actions -/

def send (sink : Option Nat) (o : Octets) : Exec Unit := do
  match sink with
  | none => Exec.print o
  | some key =>
    let _ ← Exec.writeKey key o

def timeText (zone : Zone) (time : Int) (letter : Char) : Octets :=
  let c := Calendar.ofTime zone time
  let fraction := '.' :: Text.padLeft '0' 9 (Text.ofNat c.nanosecond) ++ ['0']
  let write (spec : String) : Octets := c.format zone spec.toList
  match letter with
  | '@' => Text.ofInt (time.fdiv 1000000000) ++ fraction
  | 'S' => write "%S" ++ fraction
  | 'T' | 'X' => write "%H:%M:%S" ++ fraction
  | '+' => write "%Y-%m-%d+%H:%M:%S" ++ fraction
  | ' ' => write "%a %b %e %H:%M:%S" ++ fraction ++ write " %Y"
  | letter => c.format zone ['%', letter]

def field (s : FindScene) (v : Visited) (letters : Octets) : Exec (Octets × Bool) := do
  let e := v.entry
  let number (n : Nat) : Octets × Bool := (Text.ofNat n, true)
  let text (o : Octets) : Octets × Bool := (o, false)
  match letters with
  | ['p'] => return text v.path
  | ['f'] => return text (lastStep v.path)
  | ['h'] => return text (folderOf v.path)
  | ['P'] => return text ((v.path.drop v.start.length).dropWhile (· == '/'))
  | ['H'] => return text v.start
  | ['d'] => return number v.depth
  | ['y'] => return text [kindOf e.node.body]
  | ['Y'] => return text [← otherKind s v]
  | ['s'] => return number e.size
  | ['b'] => return text (Text.ofNat e.blocks)
  | ['k'] => return text (Text.ofNat ((e.blocks + 1) / 2))
  | ['m'] => return (Nat.toDigits 8 e.node.mode, true)
  | ['M'] => return text (modeText e.node)
  | ['u'] => return text (Accounts.user e.node.owner)
  | ['g'] => return text (Accounts.group e.node.group)
  | ['U'] => return text (Text.ofNat e.node.owner)
  | ['G'] => return text (Text.ofNat e.node.group)
  | ['n'] => return number e.names
  | ['i'] => return text (Text.ofNat e.number)
  | ['l'] => return text (e.target?.getD [])
  | ['D'] => return number 56
  | ['F'] => return text "overlay".toList
  | ['S'] => return text "1".toList
  | ['a'] => return text (timeText s.zone e.node.accessed ' ')
  | ['c'] => return text (timeText s.zone e.node.changed ' ')
  | ['t'] => return text (timeText s.zone e.node.modified ' ')
  | ['A', c] => return text (timeText s.zone e.node.accessed c)
  | ['C', c] => return text (timeText s.zone e.node.changed c)
  | ['T', c] => return text (timeText s.zone e.node.modified c)
  | _ => return text []

def formatted (s : FindScene) (v : Visited) : List FilePiece → Exec Octets
  | [] | .stop :: _ => return []
  | .text o :: rest => return o ++ (← formatted s v rest)
  | .field flags width letters :: rest => do
    let (o, isNumber) ← field s v letters
    return padded flags width isNumber o ++ (← formatted s v rest)

def listed (s : FindScene) (v : Visited) : Octets :=
  let e := v.entry
  let isRecent := s.now - 15778476 * 1000000000 < e.node.modified && e.node.modified ≤ s.now
  let time := (Calendar.ofTime s.zone e.node.modified).format s.zone
    (if isRecent then "%b %e %H:%M" else "%b %e  %Y").toList
  let target := match e.target? with
    | some target => " -> ".toList ++ target
    | none => []
  Octets.spaced
    [Text.padLeft ' ' 9 (Text.ofNat e.number), Text.padLeft ' ' 6 (Text.ofNat ((e.blocks + 1) / 2)),
      modeText e.node, Text.padLeft ' ' 3 (Text.ofNat e.names),
      Text.padRight 8 (Accounts.user e.node.owner), Text.padRight 8 (Accounts.group e.node.group),
      Text.padLeft ' ' 8 (Text.ofNat e.size), time, v.path ++ target ++ ['\n']]

def runIn (s : FindScene) (folder : Option Octets) (words : List Octets) : Exec Nat := do
  let here ← Exec.ask Process.directory
  if let some folder := folder then
    if let .ok n ← Exec.find? true folder then
      let directory := (← Exec.observe World.volume).path n
      Exec.change fun p => { p with directory }
  let status ← call s.run "find" quote words
  Exec.change fun p => { p with directory := here }
  return status

def runGathered (s : FindScene) (c : FileCommand) : Finds Unit := do
  let f ← get
  let mine := f.gathered.filter fun (d, _, _) => d.number == c.number
  set { f with gathered := f.gathered.filter fun (d, _, _) => d.number != c.number }
  for (_, folder, paths) in mine do
    let status ← StateT.lift (runIn s folder (c.words.dropLast ++ paths.reverse))
    if status != 0 then modify fun f => { f with status := 1 }

def runFor (s : FindScene) (v : Visited) (c : FileCommand) : Finds Bool := do
  let folder := if !c.isLocal then none
    else if v.path.all (· == '/') then some ['/']
    else
      let bare := Text.dropTrailing '/' v.path
      some (folderOf bare)
  let path := if c.isLocal then "./".toList ++ nameOf v.path else v.path
  if c.gathers then
    let f ← get
    match f.gathered.find? fun (d, _, _) => d.number == c.number with
    | some (_, other, _) =>
      if other != folder then runGathered s c
    | none => pure ()
    modify fun f =>
      let rest := f.gathered.filter fun (d, _, _) => d.number != c.number
      let paths := ((f.gathered.find? fun (d, _, _) => d.number == c.number).map (·.2.2)).getD []
      { f with gathered := rest ++ [(c, folder, path :: paths)] }
    return true
  else
    let isAgreed ←
      if c.asks then
        StateT.lift (isAgreed ("< ".toList ++ c.name ++ " ... ".toList ++ v.path ++ " > ? ".toList))
      else pure true
    if !isAgreed then return false
    let words := c.words.map fun w => fill path w w.length
    return (← StateT.lift (runIn s folder words)) = 0
where
  fill (path : Octets) : Octets → Nat → Octets
    | '\x7b' :: '\x7d' :: rest, n + 1 => path ++ fill path rest n
    | c :: rest, n + 1 => c :: fill path rest n
    | rest, _ => rest

def act (s : FindScene) (v : Visited) (a : FileAction) : Finds Bool := do
  match a with
  | .print last sink =>
    StateT.lift (send sink (v.path ++ [last]))
    return true
  | .format pieces sink =>
    StateT.lift (do send sink (← formatted s v pieces))
    return true
  | .list sink =>
    StateT.lift (send sink (listed s v))
    return true
  | .run c => runFor s v c
  | .prune =>
    modify fun f => { f with isPruned := true }
    return true
  | .quit =>
    modify fun f => { f with isDone := true }
    return true
  | .delete =>
    if v.path == ['.'] then return true
    let failure ← StateT.lift do
      if v.entry.isFolder then removeFolder v.path
      else
        match ← Exec.locate false v.path with
        | .ok place =>
          if place.node.isNone then return some .notFound
          Exec.removePlace place
          return none
        | .error why => return some why
    match failure with
    | none => return true
    | some why =>
      complain ("cannot delete ".toList ++ quote v.path ++ ": ".toList ++ why.message)
      return false

def evaluate (s : FindScene) (v : Visited) : FileExpression → Finds Bool
  | .test t => StateT.lift (holds s v t)
  | .act a => act s v a
  | .negated e => do return !(← evaluate s v e)
  | .both first second => do
    if !(← evaluate s v first) || (← get).isDone then return false
    evaluate s v second
  | .either first second => do
    if (← evaluate s v first) || (← get).isDone then return true
    evaluate s v second
  | .sequence first second => do
    let _ ← evaluate s v first
    if (← get).isDone then return false
    evaluate s v second

/-! ### The walk -/

def entryAt (follows : Bool) (path : Octets) : Exec (Except FileError Entry) := do
  match ← entry? follows path path with
  | .ok e => return .ok e
  | .error why => if follows then entry? false path path else return .error why

def walk (s : FindScene) (e : FileExpression) : Nat → Visited → Finds Unit
  | 0, _ => return
  | fuel + 1, v => do
    if (← get).isDone then return
    let visit : Finds Unit := do
      if s.setup.least ≤ v.depth && !(← get).isDone then
        let _ ← evaluate s v e
    modify fun f => { f with isPruned := false }
    if !s.setup.isDeep then visit
    let isPruned := (← get).isPruned
    if v.entry.isFolder && !isPruned && s.setup.most.all (v.depth < ·) then
      let names ← StateT.lift do
        return (← Exec.observe World.volume).entries v.entry.number
      for (name, _) in names do
        let path := inside v.path name
        match ← StateT.lift (entryAt s.setup.follows path) with
        | .ok entry => walk s e fuel { v with path, depth := v.depth + 1, entry }
        | .error _ => pure ()
    if s.setup.isDeep then visit

def walkAll (s : FindScene) (e : FileExpression) (paths : List Octets) : Finds Unit := do
  for path in paths do
    if !(← get).isDone then
      let follows := s.setup.follows || s.setup.followsFirst
      match ← StateT.lift (entryAt follows path) with
      | .ok entry => walk s e 100 ⟨path, path, 0, entry⟩
      | .error why => complain (quote path ++ ": ".toList ++ why.message)
  for (c, _, _) in (← get).gathered do runGathered s c

end Finds

/-- Find files. -/
def find : Utility := fun run arguments => do
  match ← ((ReadFind.all arguments).run {}).run with
  | .error complaint => refuse "find" complaint
  | .ok ((paths, e), setup) =>
    let s : FindScene := { setup, run, now := ← Exec.now, zone := ← zone }
    let ((), f) ← (Finds.walkAll s e paths).run {}
    return f.status

end Interpolation.Shell.Utility
