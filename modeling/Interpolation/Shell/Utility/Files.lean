import Interpolation.Shell.Accounts
import Interpolation.Shell.Calendar.Reading
import Interpolation.Shell.Permission
import Interpolation.Shell.Utility.Amount
import Interpolation.Shell.Utility.Listing

/-!
# Making, changing and taking away files

These utilities make files, folders, links and queues, take them away, and change their times,
sizes, permissions and owners.
-/

namespace Interpolation.Shell.Utility

def fault (name what : String) (path : Octets) (why : FileError) : Exec Unit :=
  complain name (what.toList ++ ' ' :: shellQuote path ++ ": ".toList ++ why.message)

def failing (name what : String) (path : Octets) (why : FileError) : Exec Bool := do
  fault name what path why
  return false

def sortedNames (folder : Nat) : Exec (List Octets) := do
  return (← Exec.namesIn folder).mergeSort fun a b => !Octets.before b a

def changeNode (n : Nat) (f : Node → Node) : Exec Unit :=
  Exec.changeVolume fun v => v.modify n f

/-- Whether the answer to a question on the input is yes. -/
def isAgreed (question : Octets) : Exec Bool := do
  let _ ← Exec.write 2 question
  let line ← Exec.takeFrom 0 fun text =>
    let line := text.takeWhile (· != '\n')
    if line.length < text.length then some (line.length + 1) else none
  match line with
  | .ok (c :: _) => return c == 'y' || c == 'Y'
  | _ => return false

/-! ### Folders -/

def pathsTo (path : Octets) : List Octets :=
  let steps := (Text.dropTrailing '/' path).splitOn '/'
  ((List.range steps.length).map fun i => ['/'].intercalate (steps.take (i + 1))).filter
    fun p => !p.isEmpty

def withMode (known : Known) (mode : Option Octets) (usual : Nat) (isFolder : Bool)
    (body : Option Nat → Exec Nat) : Exec Nat := do
  match mode with
  | none => body none
  | some text =>
    match Permission.changes? text with
    | none => refuse known.name ("invalid mode ".toList ++ shellQuote text)
    | some changes =>
      body (some (Permission.apply changes isFolder (← Exec.ask Process.mask) usual))

def setMode (path : Octets) (mode : Nat) : Exec Unit := do
  if let .ok n := ← Exec.find? true path then
    changeNode n fun node => { node with mode }

def mkdir : Utility :=
  let known : Known :=
    { name := "mkdir", letters := "pvm:Z", words := [("parents", 'p'), ("verbose", 'v'),
        ("mode", 'm')] }
  withOperands known "missing operand" fun _ found operands =>
    withMode known (argument? found 'm') 0o777 true fun mode =>
      forAll operands fun path => do
        let make (path : Octets) : Exec (Option FileError) := do
          match ← Exec.createFolder path 0o777 with
          | .error why => return some why
          | .ok _ =>
            if has found 'v' then
              Exec.printLine ("mkdir: created directory ".toList ++ shellQuote path)
            return none
        let isLast (step : Octets) : Bool := step.length = (Text.dropTrailing '/' path).length
        let steps := if has found 'p' && !path.isEmpty then pathsTo path else [path]
        let mut failure : Option (Octets × FileError) := none
        for step in steps do
          if failure.isNone then
            let isThere ←
              if !has found 'p' then pure none
              else
                match ← Exec.node? true step with
                | .ok node => pure (some node)
                | .error _ => pure none
            match isThere with
            | some { body := .folder .., .. } => pure ()
            | some _ => failure := some (step, if isLast step then .isThere else .notFolder)
            | none =>
              match ← make step with
              | some why => failure := some (step, why)
              | none => if isLast step then if let some mode := mode then setMode step mode
        match failure with
        | some (step, why) => failing "mkdir" "cannot create directory" step why
        | none => return true

def removeFolder (path : Octets) : Exec (Option FileError) := do
  let bare := if path == ['/'] then path else Text.dropTrailing '/' path
  match ← Exec.locate false bare with
  | .error why => return some why
  | .ok { node := none, .. } => return some .notFound
  | .ok { folder, name, node := some n } =>
    let volume ← Exec.observe World.volume
    if !volume.isFolder n then return some .notFolder
    if nameOf path == ['.'] then return some .invalid
    if !(volume.entries n).isEmpty || name.isEmpty then return some .notEmpty
    Exec.removePlace ⟨folder, name, some n⟩
    return none

def rmdir : Utility :=
  let known : Known :=
    { name := "rmdir", letters := "pv", hidden := "I"
      words := [("parents", 'p'), ("verbose", 'v'), ("ignore-fail-on-non-empty", 'I')] }
  withOperands known "missing operand" fun _ found operands => forAll operands fun path => do
    let mut isFine := true
    let mut goesOn := true
    for step in if has found 'p' then (pathsTo path).reverse else [path] do
      if goesOn then
        if has found 'v' then
          Exec.printLine ("rmdir: removing directory, ".toList ++ shellQuote step)
        match ← removeFolder step with
        | none => pure ()
        | some why =>
          goesOn := false
          if !(why = .notEmpty && has found 'I') then
            let what := if step.length < path.length then "failed to remove directory"
              else "failed to remove"
            fault "rmdir" what step why
            isFine := false
    return isFine

/-! ### Taking away -/

def questionKind (b : Body) : Octets :=
  match b with
  | .link _ => "symbolic link".toList
  | b => kindWords b

def removeAt (found : Given) : Nat → Octets → Exec Bool
  | 0, path => failing "rm" "cannot remove" path .tooLong
  | depth + 1, path => do
    let asks := match lastOf found "fiI" with
      | some ('i', _) => true
      | _ => false
    let ask (verb : String) (b : Body) : Exec Bool := do
      if !asks then return true
      isAgreed ("rm: ".toList ++ verb.toList ++ ' ' :: questionKind b ++ ' ' ::
        shellQuote path ++ "? ".toList)
    let say (what : String) : Exec Unit := do
      if has found 'v' then Exec.printLine (what.toList ++ shellQuote path)
    match ← Exec.locate false path with
    | .error why =>
      if has found 'f' && (why = .notFound || why = .notFolder) then return true
      failing "rm" "cannot remove" path why
    | .ok { node := none, .. } =>
      if has found 'f' then return true else failing "rm" "cannot remove" path .notFound
    | .ok place@{ node := some n, .. } =>
      let node := ((← Exec.observe World.volume).node? n).getD default
      match node.body with
      | .folder _ entries =>
        let recurses := has found 'r' || has found 'R'
        if !recurses && !has found 'd' then failing "rm" "cannot remove" path .isFolder
        else
          let name := nameOf path
          if name == ['.'] || name == ['.', '.'] then
            complain "rm" ("refusing to remove '.' or '..' directory: skipping ".toList ++
              shellQuote path)
            return false
          if n = 0 then
            complain "rm" "it is dangerous to operate recursively on '/'".toList
            complain "rm" "use --no-preserve-root to override this failsafe".toList
            return false
          if recurses && !entries.isEmpty then
            let descends ←
              if asks then isAgreed ("rm: descend into directory ".toList ++ shellQuote path ++
                "? ".toList)
              else pure true
            if !descends then return true
            let results ← entries.mapM fun (name, _) => removeAt found depth (inside path name)
            if !results.all id then return false
          if !(← ask "remove" node.body) then return true
          match ← removeFolder path with
          | none =>
            say "removed directory "
            return true
          | some why => if asks then return true else failing "rm" "cannot remove" path why
      | body =>
        if !(← ask "remove" body) then return true
        Exec.removePlace place
        say "removed "
        return true

def rm : Utility :=
  let known : Known :=
    { name := "rm", letters := "rRfdviI", hidden := "N"
      words := [("recursive", 'r'), ("force", 'f'), ("dir", 'd'), ("verbose", 'v'),
        ("interactive", 'i'), ("no-preserve-root", 'N'), ("preserve-root", 'N'),
        ("one-file-system", 'N')] }
  withOptions known fun _ found operands => do
    if operands.isEmpty then
      if has found 'f' then return 0 else misuse known "missing operand".toList
    else
      let isMany := 3 < operands.length || has found 'r' || has found 'R'
      if (lastOf found "fiI").any (fun o => o.1 == 'I') && isMany then
        let count := Text.ofNat operands.length ++ " argument".toList ++
          (if operands.length = 1 then [] else ['s'])
        let how := if has found 'r' || has found 'R' then " recursively? " else "? "
        if !(← isAgreed ("rm: remove ".toList ++ count ++ how.toList)) then return 0
      forAll operands (removeAt found 1000)

def unlink : Utility :=
  let known : Known := { name := "unlink" }
  withOperands known "missing operand" fun _ _ operands => do
    match operands with
    | [path] =>
      match ← Exec.locate false path with
      | .ok place@{ node := some n, .. } =>
        if (← Exec.observe World.volume).isFolder n then
          return status (← failing "unlink" "cannot unlink" path .isFolder)
        Exec.removePlace place
        return 0
      | .ok _ => return status (← failing "unlink" "cannot unlink" path .notFound)
      | .error why => return status (← failing "unlink" "cannot unlink" path why)
    | _ => misuse known ("extra operand ".toList ++ quote (operands.getD 1 []))

/-! ### Times and sizes -/

def stampTime? (zone : Zone) (now : Int) (o : Octets) : Option Int := do
  let (digits, second) ← match o.splitOn '.' with
    | [digits] => some (digits, 0)
    | [digits, second] =>
      if second.length = 2 then (Octets.natural? second).map (digits, ·) else none
    | _ => none
  let n ← Octets.natural? digits
  let rest := n % 100000000
  let year : Int ← match digits.length with
    | 8 => some (Calendar.ofTime zone now).year
    | 10 => some (Calendar.yearOf 2 (n / 100000000))
    | 12 => some ((n / 100000000 : Nat) : Int)
    | _ => none
  let (month, day) := (rest / 1000000, rest / 10000 % 100)
  let (hour, minute) := (rest / 100 % 100, rest % 100)
  if !Calendar.Reading.isDay year month day || 23 < hour || 59 < minute || 60 < second then none
  let c : Calendar := { year, month, day, hour, minute, second }
  some ((c.seconds - zone.ahead) * 1000000000)

def touch : Utility :=
  let known : Known :=
    { name := "touch", letters := "acmhfd:r:t:", hidden := "W:"
      words := [("no-create", 'c'), ("date", 'd'), ("reference", 'r'), ("no-dereference", 'h'),
        ("time", 'W')] }
  withOptions known fun _ found operands => do
    let zone ← zone
    let now ← Exec.now
    let reference : Except (Exec Nat) (Option (Int × Int)) ← match argument? found 'r' with
      | none => pure (.ok none)
      | some path =>
        match ← Exec.node? true path with
        | .ok node => pure (.ok (some (node.accessed, node.modified)))
        | .error why =>
          pure (.error do
            fault "touch" "failed to get attributes of" path why
            return 1)
    let isDate (text : Octets) : Exec Nat :=
      refuse "touch" ("invalid date format ".toList ++ quote text)
    let times : Except (Exec Nat) (Option (Int × Int)) := do
      let reference ← reference
      let from? (text : Octets) (time : Option Int) : Except (Exec Nat) (Option (Int × Int)) :=
        match time with
        | some t => .ok (some (t, t))
        | none => .error (isDate text)
      match argument? found 'd', argument? found 't', reference with
      | some text, _, some (a, m) =>
        match Calendar.read? zone a text, Calendar.read? zone m text with
        | some a, some m => .ok (some (a, m))
        | _, _ => .error (isDate text)
      | some text, _, none => from? text (Calendar.read? zone now text)
      | none, some text, _ => from? text (stampTime? zone now text)
      | none, none, reference => .ok reference
    match times with
    | .error complaint => complaint
    | .ok times =>
      if operands.isEmpty then misuse known "missing file operand".toList
      else
        let which := found.filterMap fun (c, a) =>
          if c == 'W' then (a.head?).map fun w => if w == 'm' then 'm' else 'a' else some c
        let setsAccess := which.contains 'a' || !which.contains 'm'
        let setsChange := which.contains 'm' || !which.contains 'a'
        forAll operands fun path => do
          if path == ['-'] then return true
          let found' ← Exec.find? (!has found 'h') path
          let node : Except FileError (Option Nat) ← match found' with
            | .ok n => pure (.ok (some n))
            | .error why =>
              if has found 'c' && why = .notFound then pure (.ok none)
              else
                match ← Exec.openPath path (.writing false false false) with
                | .error why => pure (.error why)
                | .ok _ =>
                  match ← Exec.find? true path with
                  | .ok n => pure (.ok (some n))
                  | .error _ => pure (.ok none)
          match node with
          | .error why => failing "touch" "cannot touch" path why
          | .ok none => return true
          | .ok (some n) =>
            let stamp ← Exec.stamp
            let (a, m) := times.getD (stamp, stamp)
            changeNode n fun node =>
              { node with
                accessed := if setsAccess then a else node.accessed
                modified := if setsChange then m else node.modified
                changed := stamp }
            return true

def truncate : Utility :=
  let known : Known :=
    { name := "truncate", letters := "cor:s:"
      words := [("no-create", 'c'), ("io-blocks", 'o'), ("reference", 'r'), ("size", 's')] }
  withOptions known fun _ found operands => do
    let (sign, digits) := match ((argument? found 's').getD []).dropWhile Octets.isSpace with
      | c :: rest => if "+-<>/%".toList.contains c then (some c, rest) else (none, c :: rest)
      | [] => (none, [])
    let letters := "KkMGTPEZY"
    match argument? found 's', argument? found 'r', amount letters digits with
    | none, none, _ => misuse known "you must specify either '--size' or '--reference'".toList
    | some text, _, .invalid => refuse "truncate" ("Invalid number: ".toList ++ quote text)
    | some text, _, .overflow =>
      refuse "truncate" ("Invalid number: ".toList ++ quote text ++
        ": Value too large for defined data type".toList)
    | size, reference, n =>
      if operands.isEmpty then misuse known "missing file operand".toList
      else
        let base ← match reference with
          | none => pure (Except.ok none)
          | some path =>
            match ← Exec.find? true path with
            | .ok n => pure (.ok (some ((← Exec.observe World.volume).size n)))
            | .error why => pure (.error (path, why))
        match base with
        | .error (path, why) =>
          return status (← failing "truncate" "cannot stat" path why)
        | .ok base =>
          let n := match size, n with
            | some _, .number n => n
            | _, _ => base.getD 0
          forAll operands fun path => do
            let isThere ← Exec.find? true path
            if has found 'c' && isThere.toOption.isNone then return true
            match ← Exec.openPath path (.writing false false false) with
            | .error why => failing "truncate" "cannot open" path why
            | .ok _ =>
              match ← Exec.find? true path with
              | .error _ => return true
              | .ok node =>
                let content ← Exec.contentOf node
                let now := base.getD content.length
                let goal := match sign with
                  | some '+' => now + n
                  | some '-' => now - n
                  | some '<' => min now n
                  | some '>' => max now n
                  | some '/' => now / max 1 n * n
                  | some '%' => (now + n - 1) / max 1 n * n
                  | _ => n
                let zeros := List.replicate (goal - content.length) (Char.ofNat 0)
                Exec.setContent node (content.take goal ++ zeros)
                return true

/-! ### Queues and links -/

def mkfifo : Utility :=
  let known : Known := { name := "mkfifo", letters := "m:Z", words := [("mode", 'm')] }
  withOperands known "missing operand" fun _ found operands =>
    withMode known (argument? found 'm') 0o666 false fun mode =>
      forAll operands fun path => do
        match ← Exec.locate false path with
        | .error why => failing "mkfifo" "cannot create fifo" path why
        | .ok { node := some _, .. } => failing "mkfifo" "cannot create fifo" path .isThere
        | .ok place =>
          match ← Exec.createNode place 0o666 (.queue []) with
          | .error why => failing "mkfifo" "cannot create fifo" path why
          | .ok _ =>
            if let some mode := mode then setMode path mode
            return true

def pathBetween (start goal : Octets) : Octets :=
  let start := Volume.steps start
  let goal := Volume.steps goal
  let common := ((start.zip goal).takeWhile fun (a, b) => a == b).length
  let steps := List.replicate (start.length - common) ['.', '.'] ++ goal.drop common
  if steps.isEmpty then ['.'] else ['/'].intercalate steps

def physicalPath (path : Octets) : Exec Octets := do
  let path ← Exec.absolute path
  let volume ← Exec.observe World.volume
  return (go volume (path.length + 1) [] (Volume.steps path)).getD path
where
  go (v : Volume) : Nat → Octets → List Octets → Option Octets
    | 0, _, _ => none
    | _ + 1, done, [] => some (if done.isEmpty then ['/'] else done)
    | fuel + 1, done, step :: rest =>
      if step == ['.'] then go v fuel done rest
      else if step == ['.', '.'] then
        go v fuel (done.take (done.length - 1 - (nameOf done).length)) rest
      else
        match v.locate true (done ++ '/' :: step) with
        | .ok { node := some n, .. } =>
          if v.isFolder n then
            let path := v.path n
            go v fuel (if path == ['/'] then [] else path) rest
          else go v fuel (done ++ '/' :: step) rest
        | _ => go v fuel (done ++ '/' :: step) rest

def linkTo (name : String) (found : Given) (source target : Octets) : Exec Bool := do
  let isSymbolic := has found 's'
  let what := if isSymbolic then "failed to create symbolic link" else "failed to create hard link"
  let node : Except (Exec Bool) (Option Nat) ←
    if isSymbolic then pure (.ok none)
    else
      match ← Exec.find? (has found 'L') source with
      | .error why => pure (.error (failing name "failed to access" source why))
      | .ok n =>
        if (← Exec.observe World.volume).isFolder n then
          pure (.error do
            complain name (shown source ++ ": hard link not allowed for directory".toList)
            return false)
        else pure (.ok (some n))
  match node with
  | .error complaint => complaint
  | .ok node =>
    match ← Exec.locate false target with
    | .error why => failing name what target why
    | .ok place =>
      let volume ← Exec.observe World.volume
      let replaces := has found 'f' || has found 'b' || has found 'S'
      if place.node.isSome && has found 'i' then
        let question := name.toList ++ ": replace ".toList ++ shellQuote target ++ "? ".toList
        if !(← isAgreed question) then
          return false
      let replaces := replaces || has found 'i'
      if place.node.any volume.isFolder && replaces then
        complain name (shown target ++ ": cannot overwrite directory".toList)
        return false
      else if place.node.isSome && node.isSome && place.node == node && replaces then
        complain name (shellQuote source ++ " and ".toList ++ shellQuote target ++
          " are the same file".toList)
        return false
      else if place.node.isSome && !replaces then failing name what target .isThere
      else
        if place.node.isSome then
          if has found 'b' || has found 'S' then
            let suffix := (argument? found 'S').getD ['~']
            let n := place.node.getD 0
            Exec.changeVolume fun v =>
              v.rename place { place with name := place.name ++ suffix, node := none } n
          else Exec.removePlace place
        let path ←
          if has found 'r' then do
            let folder := target.take (target.length - (nameOf target).length)
            let start ← physicalPath (if folder.isEmpty then ['.'] else folder)
            pure (pathBetween start (← physicalPath source))
          else pure source
        match node with
        | some n =>
          Exec.changeVolume fun v => v.attach place.folder place.name n
          Exec.touchFolder place.folder
        | none =>
          let _ ← Exec.createNode { place with node := none } 0o777 (.link path)
          if let .ok n := ← Exec.find? false target then
            changeNode n fun node => { node with mode := 0o777 }
        if has found 'v' then
          Exec.printLine (shellQuote target ++ (if isSymbolic then " -> " else " => ").toList ++
            shellQuote path)
        return true

def ln : Utility :=
  let known : Known :=
    { name := "ln", letters := "bdfFiLnPrst:TvS:", hidden := ""
      words := [("symbolic", 's'), ("force", 'f'), ("interactive", 'i'), ("verbose", 'v'),
        ("no-dereference", 'n'), ("relative", 'r'), ("logical", 'L'), ("physical", 'P'),
        ("target-directory", 't'), ("no-target-directory", 'T'), ("backup", 'b'),
        ("suffix", 'S')] }
  withOptions known fun _ found operands => do
    let into (folder : Octets) (sources : List Octets) : Exec Nat :=
      forAll sources fun source => linkTo "ln" found source (inside folder (nameOf source))
    match argument? found 't', operands with
    | _, [] => misuse known "missing file operand".toList
    | some folder, sources =>
      if ← Exec.isFolder folder then into folder sources
      else return status (← failing "ln" "target directory" folder .notFolder)
    | none, [source] =>
      if has found 'T' then
        misuse known ("missing destination file operand after ".toList ++ shellQuote source)
      else into ['.'] [source]
    | none, _ =>
      let target := operands.getLastD []
      let sources := operands.dropLast
      if has found 'T' then
        match sources with
        | [source] => return status (← linkTo "ln" found source target)
        | _ => misuse known ("extra operand ".toList ++ shellQuote (operands.getD 2 []))
      else
        let isLink ← match ← Exec.node? false target with
          | .ok { body := .link _, .. } => pure (has found 'n')
          | _ => pure false
        if !isLink && (← Exec.isFolder target) then into target sources
        else
          match sources with
          | [source] => return status (← linkTo "ln" found source target)
          | _ =>
            let why : FileError := match ← Exec.find? true target with
              | .ok _ => .notFolder
              | .error why => why
            return status (← failing "ln" "target" target why)

def link : Utility :=
  let known : Known := { name := "link" }
  withOperands known "missing operand" fun _ _ operands => do
    match operands with
    | [source, target] =>
      let complainBoth (why : FileError) : Exec Nat := do
        complain "link" ("cannot create link ".toList ++ shellQuote target ++ " to ".toList ++
          shellQuote source ++ ": ".toList ++ why.message)
        return 1
      match ← Exec.find? false source, ← Exec.locate false target with
      | .error why, _ => complainBoth why
      | _, .error why => complainBoth why
      | .ok n, .ok place =>
        if place.node.isSome then complainBoth .isThere
        else if (← Exec.observe World.volume).isFolder n then complainBoth .notPermitted
        else
          Exec.changeVolume fun v => v.attach place.folder place.name n
          return 0
    | [source] => misuse known ("missing operand after ".toList ++ quote source)
    | _ => misuse known ("extra operand ".toList ++ quote (operands.getD 2 []))

def madeUp (seed : Nat) : Nat → Octets
  | 0 => []
  | n + 1 =>
    let letters := "abcdefghijklmnopqrstuvwxyzABCDEFGHIJKLMNOPQRSTUVWXYZ0123456789".toList
    letters.getD (seed % 62) 'a' :: madeUp (seed / 62 * 7 + seed * 31 + 17) n

def mktemp : Utility :=
  let known : Known :=
    { name := "mktemp", letters := "dup:qt", hidden := "S:P::"
      words := [("directory", 'd'), ("dry-run", 'u'), ("tmpdir", 'P'), ("quiet", 'q'),
        ("suffix", 'S')] }
  withOptions known fun _ found operands => do
    match operands with
    | _ :: _ :: _ => misuse known "too many templates".toList
    | _ =>
      let template := operands.headD "tmp.XXXXXXXXXX".toList
      let base := (template.reverse.dropWhile (· != 'X')).reverse
      let suffix := template.drop base.length ++ (argument? found 'S').getD []
      let count := (base.reverse.takeWhile (· == 'X')).length
      if count < 3 then refuse "mktemp" ("too few X's in template ".toList ++ quote template)
      else if suffix.contains '/' then
        refuse "mktemp" ("invalid suffix ".toList ++ quote suffix ++
          ", contains directory separator".toList)
      else
        let given ← Exec.value? "TMPDIR".toList
        let usual := (given.filter fun v => !v.isEmpty).getD "/tmp".toList
        let folder := match argument? found 'p', argument? found 'P' with
          | some p, _ => some (if p.isEmpty then usual else p)
          | none, some p => some (if p.isEmpty then usual else p)
          | none, none => if operands.isEmpty || has found 't' then some usual else none
        let seed := (← Exec.stamp).toNat
        let name := base.take (base.length - count) ++ madeUp seed count ++ suffix
        let path := match folder with
          | some f => inside f name
          | none => name
        let made : Except FileError Unit ←
          if has found 'u' then pure (.ok ())
          else if has found 'd' then
            (Except.map fun _ => ()) <$> Exec.createFolder path 0o700
          else
            match ← Exec.openPath path (.writing true false false) with
            | .error why => pure (.error why)
            | .ok _ =>
              setMode path 0o600
              pure (.ok ())
        match made with
        | .ok () =>
          Exec.printLine path
          return 0
        | .error why =>
          let what := if has found 'd' then "failed to create directory via template "
            else "failed to create file via template "
          if !has found 'q' then
            complain "mktemp" (what.toList ++ quote (match folder with
              | some f => inside f template
              | none => template) ++ ": ".toList ++ why.message)
          return 1

/-! ### Permissions and owners -/

def descend (recurses : Bool) (act : Octets → Nat → Exec Bool)
    (missing : Octets → FileError → Exec Bool) :
    Nat → Octets → Exec Bool
  | 0, _ => return true
  | depth + 1, path => do
    match ← Exec.find? true path with
    | .error why => missing path why
    | .ok n =>
      let isFine ← act path n
      if recurses && (← Exec.observe World.volume).isFolder n then
        let results ← (← sortedNames n).mapM fun name => do
          match ← Exec.node? false (inside path name) with
          | .ok { body := .link _, .. } => return true
          | _ => descend recurses act missing depth (inside path name)
        return isFine && results.all id
      else return isFine

def modeShown (mode : Nat) : Octets :=
  Text.padLeft '0' 4 (Nat.toDigits 8 mode) ++ " (".toList ++ Permission.text mode ++ [')']

def chmod : Utility := fun run arguments =>
  let known : Known :=
    { name := "chmod", letters := "Rvcf", hidden := "r:P"
      words := [("recursive", 'R'), ("verbose", 'v'), ("changes", 'c'), ("silent", 'f'),
        ("quiet", 'f'), ("reference", 'r'), ("preserve-root", 'P'), ("no-preserve-root", 'P')] }
  let isMode (w : Octets) : Bool := match w with
    | '-' :: c :: _ => "rwxXstugo,0123456789=+-".toList.contains c && w != ['-', '-']
    | _ => false
  let front := arguments.takeWhile fun w => !isMode w
  let modeLike := arguments.getD front.length []
  let isLong := "--".toList.isPrefixOf modeLike
  let arguments := if front.length = arguments.length || isLong then arguments
    else arguments.take front.length ++ arguments.drop (front.length + 1)
  let isSigned := front.length < arguments.length + 1 && !modeLike.isEmpty && !isLong
  withOptions known (fun _ found operands => do
    let reference ← match argument? found 'r' with
      | none => pure none
      | some path => do pure (some (path, ← Exec.node? true path))
    let (mode, paths) :=
      if isSigned then (some modeLike, operands)
      else if reference.isSome then (none, operands)
      else (operands.head?, operands.drop 1)
    match mode, reference, paths with
    | none, none, _ => misuse known "missing operand".toList
    | _, some (path, .error why), _ =>
      return status (← failing "chmod" "failed to get attributes of" path why)
    | some mode, _, [] => misuse known ("missing operand after ".toList ++ quote mode)
    | none, _, [] => misuse known "missing operand".toList
    | mode, reference, paths =>
      let changes := match reference with
        | some (_, .ok node) =>
          some [⟨'=', some Permission.every, .bits node.mode, Permission.every⟩]
        | _ => Permission.changes? (mode.getD [])
      match changes with
      | none => misuse known ("invalid mode: ".toList ++ quote (mode.getD []))
      | some changes =>
        let mask ← Exec.ask Process.mask
        let act (path : Octets) (n : Nat) : Exec Bool := do
          let v ← Exec.observe World.volume
          let before := ((v.node? n).map Node.mode).getD 0
          let after := Permission.apply changes (v.isFolder n) mask before
          let time ← Exec.stamp
          changeNode n fun node => { node with mode := after, changed := time }
          let say (o : Octets) : Exec Unit :=
            Exec.printLine ("mode of ".toList ++ shellQuote path ++ o)
          if before != after && (has found 'v' || has found 'c') then
            say (" changed from ".toList ++ modeShown before ++ " to ".toList ++ modeShown after)
          else if has found 'v' then say (" retained as ".toList ++ modeShown before)
          let plain := Permission.apply changes (v.isFolder n) 0 before
          if isSigned && plain != after then
            let shownMode (mode : Nat) : Octets := Permission.text mode
            complain "chmod" (shown path ++ ": new permissions are ".toList ++ shownMode after ++
              ", not ".toList ++ shownMode plain)
            return false
          return true
        let missing (path : Octets) (why : FileError) : Exec Bool := do
          match ← Exec.node? false path with
          | .ok { body := .link _, .. } =>
            complain "chmod" ("cannot operate on dangling symlink ".toList ++ shellQuote path)
            return false
          | _ =>
            if !has found 'f' then fault "chmod" "cannot access" path why
            return false
        forAll paths (descend (has found 'R') act missing 1000)) run arguments

def ownersOf (spec : Octets) : Except String (Option Nat × Option Nat) :=
  let separator := if spec.contains ':' then ':' else '.'
  let (user, group) := match Text.cutFirst separator spec with
    | some (user, group) => (user, some group)
    | none => (spec, none)
  let owner : Except String (Option Nat × Option Nat) :=
    if user.isEmpty then .ok (none, none)
    else
      match Accounts.user? user with
      | some (n, g) => .ok (some n, g)
      | none => .error "invalid user: "
  match owner, group with
  | .error why, _ => .error why
  | .ok (owner, _), none => .ok (owner, none)
  | .ok (owner, own), some [] => .ok (owner, if owner.isSome then own else none)
  | .ok (owner, _), some group =>
    match Accounts.group? group with
    | some g => .ok (owner, some g)
    | none => .error (if user.isEmpty then "invalid group: " else "invalid group: ")

def changeOwners (name : String) (read : Octets → Except String (Option Nat × Option Nat)) :
    Utility :=
  let known : Known :=
    { name, letters := "RvcfhHLP", hidden := "r:p"
      words := [("recursive", 'R'), ("verbose", 'v'), ("changes", 'c'), ("silent", 'f'),
        ("quiet", 'f'), ("reference", 'r'), ("no-dereference", 'h'), ("preserve-root", 'p')] }
  withOptions known fun _ found operands => do
    let reference ← match argument? found 'r' with
      | none => pure none
      | some path => do
        match ← Exec.node? true path with
        | .ok node => pure (some (node.owner, node.group))
        | .error _ => pure none
    match reference, operands with
    | none, [] => misuse known "missing operand".toList
    | none, [only] => misuse known ("missing operand after ".toList ++ quote only)
    | reference, operands =>
      let spec := operands.headD []
      let owners : Except String (Option Nat × Option Nat) := match reference with
        | some (o, g) => .ok (some o, some g)
        | none => read spec
      match owners with
      | .error why => refuse name (why.toList ++ quote spec)
      | .ok (owner, group) =>
        let act (_ : Octets) (n : Nat) : Exec Bool := do
          changeNode n fun node =>
            { node with owner := owner.getD node.owner, group := group.getD node.group }
          return true
        let missing (path : Octets) (why : FileError) : Exec Bool := do
          if !has found 'f' then fault name "cannot access" path why
          return false
        forAll (if reference.isSome then operands else operands.drop 1)
          (descend (has found 'R') act missing 1000)

def chown : Utility :=
  changeOwners "chown" ownersOf

def chgrp : Utility :=
  changeOwners "chgrp" fun spec =>
    if spec.isEmpty then .ok (none, none)
    else
      match Accounts.group? spec with
      | some g => .ok (none, some g)
      | none => .error "invalid group: "

end Interpolation.Shell.Utility
