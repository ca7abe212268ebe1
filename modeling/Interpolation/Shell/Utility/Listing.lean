import Interpolation.Shell.Accounts
import Interpolation.Shell.Calendar
import Interpolation.Shell.Escape
import Interpolation.Shell.Pattern
import Interpolation.Shell.Permission
import Interpolation.Shell.Utility.Options
import Interpolation.Shell.Version

/-!
# Listing files

Files are listed by name or with what is known of them, one on a line or in columns.
-/

namespace Interpolation.Shell.Utility

/-! ### What is known of a file -/

/-- A file that is listed. -/
structure Entry where
  name : Octets
  path : Octets
  number : Nat
  node : Node
  size : Nat
  names : Nat

def entry? (follows : Bool) (name path : Octets) : Exec (Except FileError Entry) := do
  match ← Exec.look follows path with
  | .error why => return .error why
  | .ok seen =>
    let node ← Exec.nodeOf seen
    let volume ← Exec.observe World.volume
    match seen with
    | .node n => return .ok ⟨name, path, n, node, volume.size n, volume.nameCount n⟩
    | .stream _ => return .ok ⟨name, path, 0, node, 0, 1⟩

def Entry.isFolder (e : Entry) : Bool :=
  match e.node.body with
  | .folder .. => true
  | _ => false

def Entry.target? (e : Entry) : Option Octets :=
  match e.node.body with
  | .link target => some target
  | _ => none

def Entry.blocks (e : Entry) : Nat :=
  match e.node.body with
  | .file _ | .folder .. => (e.size + 4095) / 4096 * 8
  | _ => 0

def kindLetter (b : Body) : Char :=
  match b with
  | .file _ => '-'
  | .folder .. => 'd'
  | .link _ => 'l'
  | .device _ => 'c'
  | .queue _ => 'p'

def kindWords (b : Body) : Octets :=
  match b with
  | .file [] => "regular empty file".toList
  | .file _ => "regular file".toList
  | .folder .. => "directory".toList
  | .link _ => "symbolic link".toList
  | .device _ => "character special file".toList
  | .queue _ => "fifo".toList

def kindBits (b : Body) : Nat :=
  match b with
  | .file _ => 0o100000
  | .folder .. => 0o40000
  | .link _ => 0o120000
  | .device _ => 0o20000
  | .queue _ => 0o10000

def deviceNumbers (b : Body) : Nat × Nat :=
  match b with
  | .device .null => (1, 3)
  | .device .zero => (1, 5)
  | .device .full => (1, 7)
  | .device .random => (1, 9)
  | .device .terminal => (5, 0)
  | _ => (0, 0)

def modeText (n : Node) : Octets :=
  kindLetter n.body :: Permission.text n.mode

def zone : Exec Zone := do
  return Zone.ofVariable (← Exec.value? "TZ".toList)

def humanSize (base n : Nat) : Octets :=
  let units := if base = 1000 then "kMGTPE".toList else "KMGTPE".toList
  if n < base then Text.ofNat n
  else
    let power := ((List.range 6).reverse.find? fun i => Nat.pow base (i + 1) ≤ n).getD 0
    let unit := Nat.pow base (power + 1)
    let tenths := (10 * n + unit - 1) / unit
    let whole := (n + unit - 1) / unit
    if tenths < 100 then Text.ofNat (tenths / 10) ++ '.' :: Text.ofNat (tenths % 10) ++
      [units.getD power 'E']
    else if whole < base then Text.ofNat whole ++ [units.getD power 'E']
    else "1.0".toList ++ [units.getD (power + 1) 'E']

/-! ### Styles -/

inductive Layout where
  | single
  | down
  | across
  | commas
  | long
  deriving DecidableEq

structure Style where
  given : Given
  layout : Layout
  quoting : String
  isColoured : Bool
  zone : Zone
  now : Int

def Style.has (s : Style) (c : Char) : Bool :=
  Utility.has s.given c

def cQuoted (mark : Bool) (name : Octets) : Octets :=
  let inner := name.flatMap fun c =>
    if c == '\\' || (mark && c == '"') || (!mark && c == ' ') then ['\\', c]
    else if isShowable c then [c] else escaped c
  if mark then '"' :: inner ++ ['"'] else inner

def Style.quoted (s : Style) (name : Octets) : Octets :=
  match s.quoting with
  | "c" => cQuoted true name
  | "escape" => cQuoted false name
  | "shell" | "shell-escape" => shown name
  | "shell-always" | "shell-escape-always" => shellQuote name
  | "locale" | "clocale" => quote name
  | _ => if s.has 'q' then name.map fun c => if isShowable c then c else '?' else name

def Style.mark (s : Style) (e : Entry) : Octets :=
  let wanted := (lastOf s.given "FpT").map Prod.fst
  match wanted, e.node.body with
  | none, _ => []
  | some _, .folder .. => ['/']
  | some 'p', _ => []
  | some _, .link _ => if s.layout = .long then [] else ['@']
  | some _, .queue _ => ['|']
  | some 'F', .file _ => if e.node.mode &&& 0o111 != 0 then ['*'] else []
  | some _, _ => []

def Style.colour? (e : Entry) : Option String :=
  let mode := e.node.mode
  match e.node.body with
  | .folder .. =>
    if mode &&& 0o1002 = 0o1002 then some "30;42"
    else if mode &&& 2 != 0 then some "34;42"
    else if mode &&& 0o1000 != 0 then some "37;44"
    else some "01;34"
  | .link _ => some "01;36"
  | .queue _ => some "33"
  | .device _ => some "01;33"
  | .file _ =>
    if mode &&& 0o4000 != 0 then some "37;41"
    else if mode &&& 0o2000 != 0 then some "30;43"
    else if mode &&& 0o111 != 0 then some "01;32"
    else none

def Style.shown (s : Style) (e : Entry) : Octets :=
  let name := s.quoted e.name
  let escape := [Char.ofNat 27, '[']
  let painted := match if s.isColoured then Style.colour? e else none with
    | some colour => escape ++ colour.toList ++ 'm' :: name ++ escape ++ "0m".toList
    | none => name
  painted ++ s.mark e

def Style.lead (s : Style) (widths : Nat × Nat) (e : Entry) : Octets :=
  (if s.has 'i' then Text.padLeft ' ' widths.1 (Text.ofNat e.number) ++ [' '] else []) ++
    (if s.has 's' then
      Text.padLeft ' ' widths.2
        (if s.has 'h' then humanSize 1024 (e.blocks * 512) else Text.ofNat ((e.blocks + 1) / 2)) ++
        [' ']
    else [])

def Style.leadWidths (s : Style) (entries : List Entry) : Nat × Nat :=
  let widest (f : Entry → Octets) : Nat := (entries.map fun e => (f e).length).foldl max 0
  (if s.layout = .commas then 0 else widest fun e => Text.ofNat e.number,
    if s.layout = .commas then 0
    else widest fun e => if s.has 'h' then humanSize 1024 (e.blocks * 512)
      else Text.ofNat ((e.blocks + 1) / 2))

/-! ### Layouts -/

def Style.lineLength (s : Style) : Nat :=
  match (argument? s.given 'w').bind Octets.natural? with
  | some 0 => 1000000
  | some n => n
  | none => 80

def indentation (tab : Nat) : Nat → Nat → Nat → Octets
  | 0, _, _ => []
  | fuel + 1, start, goal =>
    if goal ≤ start then []
    else if tab != 0 && (start + 1) / tab < goal / tab then
      '\t' :: indentation tab fuel (start + tab - start % tab) goal
    else ' ' :: indentation tab fuel (start + 1) goal

def columnWidths (isDown : Bool) (columns : Nat) (lengths : List Nat) : List Nat :=
  let rows := (lengths.length + columns - 1) / columns
  (List.range columns).map fun column =>
    ((lengths.zipIdx.filter fun (_, i) =>
      (if isDown then i / max 1 rows else i % columns) == column).map fun (n, _) =>
        if column + 1 == columns then n else n + 2).foldl max 0

def inColumns (isDown : Bool) (lineLength tab : Nat) (cells : List (Nat × Octets)) : Octets :=
  let lengths := cells.map Prod.fst
  let most := max 1 (min cells.length (lineLength / 3))
  let fits (columns : Nat) : Bool :=
    let widths := (columnWidths isDown columns lengths).map (max 3)
    let rows := (lengths.length + columns - 1) / columns
    Text.total widths < lineLength && (!isDown || (columns - 1) * rows < lengths.length)
  let columns := (((List.range most).map (· + 1)).reverse.find? fits).getD 1
  let widths := (columnWidths isDown columns lengths).map (max 3)
  let rows := (cells.length + columns - 1) / columns
  (List.range rows).flatMap fun row =>
    let cells := (List.range columns).filterMap fun column =>
      (cells[if isDown then column * rows + row else row * columns + column]?).map (·, column)
    let step (state : Nat × Nat × Octets) (cell : (Nat × Octets) × Nat) : Nat × Nat × Octets :=
      let (position, goal, line) := state
      let ((length, text), column) := cell
      (goal + length, goal + widths.getD column 0,
        line ++ indentation tab (goal - position) position goal ++ text)
    (cells.foldl step (0, 0, [])).2.2 ++ ['\n']

def withCommas (lineLength : Nat) (cells : List (Nat × Octets)) : Octets :=
  let step (state : Option Nat × Octets) (cell : Nat × Octets) : Option Nat × Octets :=
    let (length, text) := cell
    match state with
    | (none, out) => (some length, out ++ text)
    | (some position, out) =>
      if position + length + 2 < lineLength then
        (some (position + 2 + length), out ++ ", ".toList ++ text)
      else (some length, out ++ ",\n".toList ++ text)
  (cells.foldl step (none, [])).2 ++ ['\n']

def Style.time (s : Style) (n : Node) : Int :=
  match lastOf s.given "uc" with
  | some ('u', _) => n.accessed
  | some _ => n.changed
  | none => n.modified

def Style.timeText (s : Style) (n : Node) : Octets :=
  let time := s.time n
  let fields := Calendar.ofTime s.zone time
  let isRecent := s.now - 15778476 * 1000000000 < time && time ≤ s.now
  match argument? s.given 'E' with
  | some ('+' :: format) =>
    let formats := format.splitOn '\n'
    fields.format s.zone (if isRecent then formats.getLastD [] else formats.headD [])
  | some style =>
    let format := match String.ofList style with
      | "full-iso" => "%Y-%m-%d %H:%M:%S.%N %z"
      | "long-iso" => "%Y-%m-%d %H:%M"
      | "iso" => if isRecent then "%m-%d %H:%M" else "%Y-%m-%d "
      | _ => if isRecent then "%b %e %H:%M" else "%b %e  %Y"
    fields.format s.zone format.toList
  | none =>
    fields.format s.zone (if isRecent then "%b %e %H:%M" else "%b %e  %Y").toList

def Style.sizeText (s : Style) (e : Entry) : Octets :=
  match e.node.body with
  | .device _ =>
    let (major, minor) := deviceNumbers e.node.body
    Text.ofNat major ++ ", ".toList ++ Text.padLeft ' ' 3 (Text.ofNat minor)
  | _ =>
    if s.has 'h' then humanSize 1024 e.size
    else if s.has 'k' then humanSize 1000 e.size else Text.ofNat e.size

def Style.longLines (s : Style) (entries : List Entry) : Octets :=
  let widest (f : Entry → Octets) : Nat := (entries.map fun e => (f e).length).foldl max 0
  let owner (e : Entry) : Octets :=
    if s.has 'n' then Text.ofNat e.node.owner else Accounts.user e.node.owner
  let group (e : Entry) : Octets :=
    if s.has 'n' then Text.ofNat e.node.group else Accounts.group e.node.group
  let owners := widest owner
  let groups := widest group
  let names := widest fun e => Text.ofNat e.names
  let sizes := widest s.sizeText
  let times := widest fun e => s.timeText e.node
  let widths := s.leadWidths entries
  entries.flatMap fun e =>
    let fields := [modeText e.node, Text.padLeft ' ' names (Text.ofNat e.names)] ++
      (if s.has 'g' then [] else [Text.padRight owners (owner e)]) ++
      (if s.has 'o' || s.has 'G' then [] else [Text.padRight groups (group e)]) ++
      [Text.padLeft ' ' sizes (s.sizeText e), Text.padRight times (s.timeText e.node), s.shown e]
    let target := match e.target? with
      | some target => " -> ".toList ++ s.quoted target
      | none => []
    s.lead widths e ++ Octets.spaced fields ++ target ++ ['\n']

def Style.list (s : Style) (entries : List Entry) : Octets :=
  let widths := s.leadWidths entries
  let cells := entries.map fun e =>
    ((s.lead widths e ++ s.quoted e.name ++ s.mark e).length, s.lead widths e ++ s.shown e)
  if entries.isEmpty then []
  else
    match s.layout with
    | .single => cells.flatMap fun (_, text) => text ++ ['\n']
    | .down => inColumns true s.lineLength (if s.isColoured then 0 else 8) cells
    | .across => inColumns false s.lineLength (if s.isColoured then 0 else 8) cells
    | .commas => withCommas s.lineLength cells
    | .long => s.longLines entries

def Style.sorted (s : Style) (entries : List Entry) : List Entry :=
  let byName (a b : Entry) : Bool := !Octets.before b.name a.name
  let byNumber (key : Entry → Int) (a b : Entry) : Bool :=
    key b < key a || (key a == key b && byName a b)
  let ending (e : Entry) : Octets :=
    if e.name.contains '.' then '.' :: (e.name.reverse.takeWhile (· != '.')).reverse else []
  let isUnsorted := s.has 'U' || s.has 'f'
  let order : Entry → Entry → Bool := match lastOf s.given "StXv" with
    | some ('S', _) => byNumber fun e => e.size
    | some ('t', _) => byNumber fun e => s.time e.node
    | some ('X', _) => fun a b =>
      Octets.before (ending a) (ending b) || (ending a == ending b && byName a b)
    | some _ => fun a b => Version.compare a.name b.name != .gt
    | none =>
      if (s.has 'u' || s.has 'c') && s.layout != .long then byNumber fun e => s.time e.node
      else byName
  let all := if isUnsorted then entries else entries.mergeSort order
  let all := if s.has 'r' && !isUnsorted then all.reverse else all
  if s.has 'D' then all.filter Entry.isFolder ++ all.filter fun e => !e.isFolder else all

def Style.isListed (s : Style) (name : Octets) : Bool :=
  let matchesAny (c : Char) : Bool :=
    s.given.any fun (d, p) => d == c && Pattern.isMatch (Pattern.ofOctets p) name
  (s.has 'a' || s.has 'f' || s.has 'A' || (name.head? != some '.' && !matchesAny 'j')) &&
    !matchesAny 'I' && !(s.has 'B' && name.getLast? == some '~')

def Style.inFolder (s : Style) (path : Octets) (folder : Nat) : Exec (List Entry) := do
  let names := (← Exec.namesIn folder).filter s.isListed
  let names := (if (s.has 'a' || s.has 'f') && (lastOf s.given "aA").all (fun o => o.1 == 'a')
    then [['.'], ['.', '.']] else []) ++ names
  let entries ← names.mapM fun n => entry? (s.has 'L') n (inside path n)
  let links ← names.mapM fun n => entry? false n (inside path n)
  return s.sorted ((entries.zip links).filterMap fun (e, link) =>
    match e, link with
    | .ok e, _ => some e
    | _, .ok e => some e
    | _, _ => none)

def Style.folders (s : Style) : Nat → Octets → Nat → Exec (List (Octets × List Entry))
  | 0, _, _ => return []
  | depth + 1, path, folder => do
    let entries ← s.inFolder path folder
    let below ← entries.mapM fun e =>
      if e.isFolder && e.name != ['.'] && e.name != ['.', '.'] then
        s.folders depth (inside path e.name) e.number
      else return []
    return (path, entries) :: below.flatten

def listingKnown : Known :=
  { name := "ls", letters := "aA1dpFrRlmCxtSUfghinoqsQbBNcuLvXkGI:w:T:Z"
    hidden := "E:K::V:Dj:z:Y:W:J:ey", wrong := 2
    words := [("all", 'a'), ("almost-all", 'A'), ("directory", 'd'), ("reverse", 'r'),
      ("recursive", 'R'), ("classify", 'F'), ("human-readable", 'h'), ("inode", 'i'),
      ("size", 's'), ("quote-name", 'Q'), ("escape", 'b'), ("literal", 'N'), ("no-group", 'G'),
      ("numeric-uid-gid", 'n'), ("hide-control-chars", 'q'), ("ignore-backups", 'B'),
      ("dereference", 'L'), ("ignore", 'I'), ("hide", 'j'), ("width", 'w'), ("tabsize", 'T'),
      ("time-style", 'E'), ("full-time", 'e'), ("color", 'K'), ("file-type", 'y'),
      ("group-directories-first", 'D'), ("quoting-style", 'V'), ("sort", 'z'), ("format", 'Y'),
      ("time", 'W'), ("si", 'k'), ("indicator-style", 'J')] }

def listingOptions (found : Given) : Given :=
  found.flatMap fun (c, a) =>
    match c, String.ofList a with
    | 'e', _ => [('l', []), ('E', "full-iso".toList)]
    | 'y', _ => [('T', [])]
    | 'z', "none" => [('U', [])]
    | 'z', "size" => [('S', [])]
    | 'z', "time" => [('t', [])]
    | 'z', "extension" => [('X', [])]
    | 'z', "version" => [('v', [])]
    | 'Y', "long" | 'Y', "verbose" => [('l', [])]
    | 'Y', "commas" => [('m', [])]
    | 'Y', "single-column" => [('1', [])]
    | 'Y', "across" | 'Y', "horizontal" => [('x', [])]
    | 'Y', "vertical" => [('C', [])]
    | 'W', "atime" | 'W', "access" | 'W', "use" => [('u', [])]
    | 'W', "ctime" | 'W', "status" => [('c', [])]
    | 'J', "slash" => [('p', [])]
    | 'J', "file-type" => [('T', [])]
    | 'J', "classify" => [('F', [])]
    | 'T', _ => []
    | _, _ => [(c, a)]

def styleOf (found : Given) : Exec Style := do
  let given := listingOptions found
  let layout : Layout := match lastOf given "lngomCx1" with
    | some ('m', _) => .commas
    | some ('C', _) => .down
    | some ('x', _) => .across
    | some ('1', _) => if "lngo".toList.any (Utility.has given) then .long else .single
    | some _ => .long
    | none => .single
  let quoting := match lastOf given "QbNV" with
    | some ('Q', _) => "c"
    | some ('b', _) => "escape"
    | some ('V', name) => String.ofList name
    | _ => "literal"
  let isColoured := (argument? given 'K').any fun a =>
    ["", "always", "yes", "force"].any fun w => w.toList == a
  return { given, layout, quoting, isColoured, zone := ← zone, now := ← Exec.now }

def ls : Utility :=
  withOptions listingKnown fun _ found operands => do
    let s ← styleOf found
    let operands := if operands.isEmpty then [['.']] else operands
    let isDeep := s.layout != .long && !s.has 'd' && !s.has 'F'
    let mut isFine := true
    let mut entries : List Entry := []
    for path in operands do
      let direct ← entry? (s.has 'L') path path
      let followed ← entry? true path path
      let found : Except FileError Entry := match direct, followed with
        | .ok e, .ok f => if isDeep && f.isFolder then .ok f else .ok e
        | direct, _ => direct
      match found with
      | .ok e => entries := entries ++ [e]
      | .error why =>
        complain "ls" ("cannot access ".toList ++ shellQuote path ++ ": ".toList ++ why.message)
        isFine := false
    let isOpened (e : Entry) : Bool := e.isFolder && !s.has 'd'
    let files := s.sorted (entries.filter fun e => !isOpened e)
    let opened := s.sorted (entries.filter isOpened)
    let folders ← opened.mapM fun e =>
      if s.has 'R' then s.folders 100 e.path e.number
      else do return [(e.path, ← s.inFolder e.path e.number)]
    let folders := folders.flatten
    let block (path : Octets) (entries : List Entry) (isFirst : Bool) : Octets :=
      let blocks := Text.total (entries.map Entry.blocks)
      let total :=
        if s.has 'h' then humanSize 1024 (512 * blocks) else Text.ofNat ((blocks + 1) / 2)
      (if isFirst then [] else ['\n']) ++
        (if 1 < operands.length || s.has 'R' then s.quoted path ++ ":\n".toList else []) ++
        (if s.layout = .long || s.has 's' then "total ".toList ++ total ++ ['\n'] else []) ++
        s.list entries
    let text := s.list files ++ (folders.zipIdx.flatMap fun ((path, entries), i) =>
      block path entries (i == 0 && files.isEmpty))
    let escape := Char.ofNat 27
    let front := text.takeWhile (· != escape)
    let text := if s.isColoured && front.length < text.length then
        front ++ escape :: "[0m".toList ++ text.drop front.length
      else text
    Exec.print text
    return if isFine then 0 else 2

/-! ### Asking about files -/

def fullTime (zone : Zone) (time : Int) : Octets :=
  (Calendar.ofTime zone time).format zone "%Y-%m-%d %H:%M:%S.%N %z".toList

def secondsText (time : Int) (places : Option Nat) : Octets :=
  let whole := Text.ofInt (time.fdiv 1000000000)
  match places with
  | some (n + 1) =>
    whole ++ '.' :: (Text.padLeft '0' 9 (Text.ofNat (time.fmod 1000000000).toNat)).take (n + 1)
  | _ => whole

def statField (zone : Zone) (e : Entry) (places : Option Nat) (letter : Char) : Option Octets :=
  let number (n : Nat) : Option Octets := some (Text.ofNat n)
  let hex (n : Nat) : Option Octets := some (Nat.toDigits 16 n)
  match letter with
  | 'a' => some (Nat.toDigits 8 e.node.mode)
  | 'A' => some (modeText e.node)
  | 'b' => number e.blocks
  | 'B' => number 512
  | 'd' => number 56
  | 'D' => hex 56
  | 'f' => hex (kindBits e.node.body + e.node.mode)
  | 'F' => some (kindWords e.node.body)
  | 'g' => number e.node.group
  | 'G' => some (Accounts.group e.node.group)
  | 'u' => number e.node.owner
  | 'U' => some (Accounts.user e.node.owner)
  | 'h' => number e.names
  | 'i' => number e.number
  | 'm' => some ['/']
  | 'n' => some e.name
  | 'N' => some (shellQuote e.name ++ match e.target? with
      | some target => " -> ".toList ++ shellQuote target
      | none => [])
  | 'o' => number 4096
  | 's' => number e.size
  | 't' => hex (deviceNumbers e.node.body).1
  | 'T' => hex (deviceNumbers e.node.body).2
  | 'w' => some ['-']
  | 'W' => some ['0']
  | 'x' => some (fullTime zone e.node.accessed)
  | 'X' => some (secondsText e.node.accessed places)
  | 'y' => some (fullTime zone e.node.modified)
  | 'Y' => some (secondsText e.node.modified places)
  | 'z' => some (fullTime zone e.node.changed)
  | 'Z' => some (secondsText e.node.changed places)
  | _ => none

def padded (flags : Octets) (width : Nat) (isNumber : Bool) (o : Octets) : Octets :=
  if flags.contains '-' then Text.padRight width o
  else if flags.contains '0' && isNumber then Text.padLeft '0' width o
  else Text.padLeft ' ' width o

def statText (zone : Zone) (e : Entry) : Nat → Octets → Octets
  | 0, rest => rest
  | _, [] => []
  | fuel + 1, c :: rest =>
    if c != '%' then c :: statText zone e fuel rest
    else
      let flags := rest.takeWhile "#'+- 0".toList.contains
      let rest := rest.drop flags.length
      let (_, width, rest) := Octets.takeDigits 10 rest
      let (places, rest) := match rest with
        | '.' :: rest =>
          let (count, n, rest) := Octets.takeDigits 10 rest
          (some (if count = 0 then 9 else n), rest)
        | rest => (none, rest)
      match rest with
      | [] => ['%']
      | '%' :: rest => '%' :: statText zone e fuel rest
      | letter :: rest =>
        let isNumber := !"AFGmnNUwxyz".toList.contains letter
        let value := (statField zone e places letter).getD ['?']
        let value := match places, isNumber with
          | some n, false => value.take n
          | _, _ => value
        let value := if letter == 'a' && flags.contains '#' then '0' :: value else value
        padded flags width isNumber value ++ statText zone e fuel rest

def stat : Utility :=
  let known : Known :=
    { name := "stat", letters := "c:Lft", hidden := "p:"
      words := [("format", 'c'), ("printf", 'p'), ("dereference", 'L'), ("file-system", 'f'),
        ("terse", 't')] }
  withOperands known "missing operand" fun _ found operands => do
    let zone ← zone
    forAll operands fun path => do
      match ← entry? (has found 'L' || path == ['-']) path path with
      | .error why =>
        complain "stat" ("cannot statx ".toList ++ shellQuote path ++ ": ".toList ++ why.message)
        return false
      | .ok e =>
        let write (format : Octets) : Octets := statText zone e (format.length + 1) format
        match lastOf found "cp" with
        | some ('c', format) => Exec.printLine (write format)
        | some (_, format) => Exec.print (write (Escape.text format).1)
        | none =>
          if has found 't' then
            Exec.printLine (write "%n %s %b %f %u %g %D %i %h %t %T %X %Y %Z %W %o".toList)
          else
            let size := match e.node.body with
              | .device _ => "Device type: %t,%T"
              | _ => ""
            let links := if size.isEmpty then "Links: %h" else "Links: %-5h " ++ size
            let name := match e.target? with
              | some target => path ++ " -> ".toList ++ target
              | none => path
            Exec.print ("  File: ".toList ++ name ++ write (String.intercalate "\n"
              ["", "  Size: %-10s\tBlocks: %-10b IO Block: %-6o %F",
                "Device: 0,56\tInode: %-11i " ++ links,
                "Access: (%04a/%10.10A)  Uid: (%5u/%8U)   Gid: (%5g/%8G)",
                "Access: %x", "Modify: %y", "Change: %z", " Birth: %w", ""]).toList)
        return true

end Interpolation.Shell.Utility
