import Interpolation.Shell.Utility.Files

/-!
# Copying and moving

Files, folders and links are copied or moved to a path or into a folder, one after the other. What
has been made for one of them is not written over for another.
-/

namespace Interpolation.Shell.Utility

structure Transfer where
  name : String
  moves : Bool
  given : Given
  top : Option (Nat × Octets × Octets) := none

def Transfer.has (t : Transfer) (c : Char) : Bool :=
  Utility.has t.given c

def Transfer.recurses (t : Transfer) : Bool :=
  t.moves || t.has 'r' || t.has 'R' || t.has 'a'

def Transfer.follows (t : Transfer) : Bool :=
  match lastOf t.given "LPdaH" with
  | some ('L', _) | some ('H', _) => !t.moves
  | some _ => false
  | none => !t.recurses

def Transfer.keeps (t : Transfer) : Bool :=
  t.has 'p' || t.has 'a'

def Transfer.refuse (t : Transfer) (complaint : Octets) : Exec Bool := do
  complain t.name complaint
  return false

def Transfer.backupName? (t : Transfer) (place : Place) : Exec (Option Octets) := do
  if !(t.has 'b' || t.has 'B' || t.has 'S') then return none
  let suffix := (argument? t.given 'S').getD ['~']
  let names ← Exec.namesIn place.folder
  let numbers := names.filterMap fun name =>
    match (place.name ++ ".~".toList).isPrefixOf? name with
    | some rest => if rest.getLast? == some '~' then Octets.natural? rest.dropLast else none
    | none => none
  let numbered := place.name ++ ".~".toList ++ Text.ofNat (numbers.foldl max 0 + 1) ++ ['~']
  match String.ofList ((argument? t.given 'B').getD []) with
  | "none" | "off" => return none
  | "simple" | "never" => return some (place.name ++ suffix)
  | "numbered" | "t" => return some numbered
  | _ => return some (if numbers.isEmpty then place.name ++ suffix else numbered)

def Transfer.makeRoom (t : Transfer) (place : Place) (target : Octets) (removes : Bool) :
    Exec (Place × Option Octets) := do
  match place.node, ← t.backupName? place with
  | some n, some name =>
    Exec.changeVolume fun v => v.rename place { place with name, node := none } n
    let folder := target.take (target.length - (nameOf target).length)
    return ({ place with node := none }, some (folder ++ name))
  | some _, none =>
    if removes then
      Exec.removePlace place
      return ({ place with node := none }, none)
    else return (place, none)
  | none, _ => return (place, none)

def Transfer.say (t : Transfer) (source target : Octets) (backup : Option Octets) : Exec Unit := do
  if t.has 'v' then
    let kept := match backup with
      | some path => " (backup: ".toList ++ shellQuote path ++ [')']
      | none => []
    Exec.printLine ((if t.moves then "renamed ".toList else []) ++ shellQuote source ++
      " -> ".toList ++ shellQuote target ++ kept)

def Transfer.finish (t : Transfer) (source : Node) (target : Nat) : Exec Unit := do
  if t.keeps then
    changeNode target fun node =>
      { node with
        mode := source.mode, owner := source.owner, group := source.group
        modified := source.modified, accessed := source.accessed }

def Transfer.obstacle? (t : Transfer) (source target : Octets) (from_ : Node) (there : Node) :
    Exec (Option (Option Octets)) := do
  let isFolder (b : Body) : Bool := match b with
    | .folder .. => true
    | _ => false
  match lastOf t.given "nif", isFolder from_.body, isFolder there.body with
  | some ('n', _), false, _ => return some none
  | _, true, false =>
    return some (some ("cannot overwrite non-directory ".toList ++ shellQuote target ++
      " with directory ".toList ++ shellQuote source))
  | _, false, true =>
    return some (some ("cannot overwrite directory ".toList ++ shellQuote target ++
      " with non-directory".toList))
  | asks, isFolder, _ =>
    if t.has 'u' && !isFolder && from_.modified ≤ there.modified then return some none
    if !isFolder && asks.any (fun o => o.1 == 'i') then
      let question := t.name.toList ++ ": overwrite ".toList ++ shellQuote target ++ "? ".toList
      if !(← isAgreed question) then return some none
    return none

def Transfer.copyFile (t : Transfer) (source target : Octets) (n : Nat) (node : Node)
    (place : Place) : Exec Bool := do
  let mask ← Exec.ask Process.mask
  let cannot (why : FileError) : Exec Bool :=
    failing t.name "cannot create regular file" target why
  let make (body : Body) (mode : Nat) : Exec Bool := do
    match ← Exec.createNode { place with node := none } mode body with
    | .ok made =>
      t.finish node made
      return true
    | .error why => cannot why
  match node.body, place.node with
  | .link path, _ =>
    if place.node.isSome then Exec.removePlace place
    make (.link path) 0o777
  | _, none =>
    if t.has 'l' then
      Exec.changeVolume fun v => v.attach place.folder place.name n
      return true
    else if t.has 's' then make (.link source) 0o777
    else if let .queue _ := node.body then
      if t.recurses then make (.queue []) node.mode else make (.file []) node.mode
    else
      match ← Exec.content? source with
      | .error why => failing t.name "error reading" source why
      | .ok content =>
        let content := if t.has 'A' then [] else content
        make (.file content) (if t.keeps then node.mode ||| mask else node.mode)
  | _, some m =>
    match ← Exec.content? source, (← Exec.observe World.volume).body? m with
    | .error why, _ => failing t.name "error reading" source why
    | .ok content, some (.file _) =>
      if !t.has 'A' then Exec.setContent m content
      t.finish node m
      return true
    | .ok content, _ =>
      match ← Exec.save? target false content with
      | none => return true
      | some why => cannot why

def Transfer.copy (t : Transfer) : Nat → Octets → Octets → Exec Bool
  | 0, source, _ => t.refuse (shown source ++ ": too deep".toList)
  | depth + 1, source, target => do
    match ← Exec.look t.follows source with
    | .error why => failing t.name "cannot stat" source why
    | .ok seen =>
      let node ← Exec.nodeOf seen
      let n : Nat := match seen with
        | .node n => n
        | .stream _ => 0
      let volume ← Exec.observe World.volume
      let isFolder := volume.isFolder n && (match seen with
        | .node _ => true
        | .stream _ => false)
      if isFolder && !t.recurses then
        t.refuse ("-r not specified; omitting directory ".toList ++ shellQuote source)
      else
        let what := if isFolder then "cannot create directory" else "cannot create regular file"
        let bare := if isFolder && target != ['/'] then Text.dropTrailing '/' target else target
        let isLink : Bool := match node.body with
          | .link _ => true
          | _ => false
        let followed ← Exec.locate (!isLink && !t.has 'V') bare
        let direct ← Exec.locate false bare
        let isNearly := (← Exec.locate false (Text.dropTrailing '/' target)).toOption.isSome
        match followed, direct with
        | .error why, _ | _, .error why =>
          failing t.name what target
            (if target.getLast? == some '/' && why = .notFound && isNearly then .notFolder else why)
        | .ok place, .ok bareLink =>
          let isDangling := bareLink.node.isSome && place.node.isNone
          if let some (top, from_, made) := t.top then
            if isFolder && n = top then
              return ← t.refuse ("cannot copy a directory, ".toList ++ shellQuote from_ ++
                ", into itself, ".toList ++ shellQuote made)
          if place.node == some n && !(t.has 'b' || t.has 'B' || t.has 'S') && !isFolder then
            t.refuse (shellQuote source ++ " and ".toList ++ shellQuote target ++
              " are the same file".toList)
          else if isDangling then
            t.refuse ("not writing through dangling symlink ".toList ++ shellQuote target)
          else
            let obstacle ← match place.node with
              | none => pure none
              | some m => t.obstacle? source target node ((volume.node? m).getD default)
            match obstacle with
            | some none => return true
            | some (some complaint) => t.refuse complaint
            | none =>
              if isFolder then
                let made : Except FileError Nat ← match place.node with
                  | some m => pure (.ok m)
                  | none => Exec.createNode place node.mode (.folder 0 [])
                match made with
                | .error why => failing t.name what target why
                | .ok m =>
                  if place.node.isNone then t.say source target none
                  let t := { t with top := some (t.top.getD (m, source, target)) }
                  let names ← Exec.namesIn n
                  let results ← names.mapM fun name =>
                    t.copy depth (inside source name) (inside target name)
                  t.finish node m
                  return results.all id
              else
                let removes := t.has 'V' || ((t.has 'l' || t.has 's') && t.has 'f')
                let taken := if removes then bareLink else place
                let (place, backup) ← t.makeRoom taken target removes
                if t.has 'V' && place.node.isNone && bareLink.node.isSome && backup.isNone &&
                    t.has 'v' then
                  Exec.printLine ("removed ".toList ++ shellQuote target)
                if (t.has 'l' || t.has 's') && place.node.isSome then
                  let kind := if t.has 's' then "cannot create symbolic link "
                    else "cannot create hard link "
                  t.refuse (kind.toList ++ shellQuote target ++
                    (if t.has 's' then [] else " to ".toList ++ shellQuote source) ++
                    ": ".toList ++ FileError.isThere.message)
                else
                  t.say source target backup
                  t.copyFile source target n node place

def Transfer.move (t : Transfer) (source target : Octets) : Exec Bool := do
  match ← Exec.locate false (Text.dropTrailing '/' source) with
  | .error why => failing t.name "cannot stat" source why
  | .ok { node := none, .. } => failing t.name "cannot stat" source .notFound
  | .ok place@{ node := some n, .. } =>
    let volume ← Exec.observe World.volume
    let node := (volume.node? n).getD default
    let isFolder := volume.isFolder n
    let cannot (why : FileError) : Exec Bool := do
      complain t.name ("cannot move ".toList ++ shellQuote source ++ " to ".toList ++
        shellQuote target ++ ": ".toList ++ why.message)
      return false
    if source.getLast? == some '/' && !isFolder then
      if (← Exec.isFolder source) then cannot .notFolder
      else failing t.name "cannot stat" source .notFolder
    else
      match ← Exec.locate false (if isFolder then Text.dropTrailing '/' target else target) with
      | .error why =>
        cannot (if target.getLast? == some '/' && why = .notFound then .notFolder else why)
      | .ok goal =>
        if target.getLast? == some '/' && !isFolder && goal.node.isNone then
          return ← cannot .notFolder
        if goal.node == some n && goal.folder == place.folder && goal.name == place.name then
          t.refuse (shellQuote source ++ " and ".toList ++ shellQuote target ++
            " are the same file".toList)
        else if isFolder &&
            ((volume.path n) ++ ['/']).isPrefixOf (volume.path goal.folder ++ ['/']) then
          t.refuse ("cannot move ".toList ++ shellQuote source ++
            " to a subdirectory of itself, ".toList ++ shellQuote target)
        else
          let obstacle ← match goal.node with
            | none => pure none
            | some m => t.obstacle? source target node ((volume.node? m).getD default)
          match obstacle with
          | some none => return true
          | some (some complaint) => t.refuse complaint
          | none =>
            let isFull := goal.node.any fun m => isFolder && !(volume.entries m).isEmpty
            if isFull && !(t.has 'b' || t.has 'B' || t.has 'S') then cannot .notEmpty
            else
              let (goal, backup) ← t.makeRoom goal target true
              Exec.changeVolume fun v => v.rename place goal n
              Exec.touchFolder place.folder
              Exec.touchFolder goal.folder
              t.say source target backup
              return true

def Transfer.all (t : Transfer) (pairs : List (Octets × Octets)) : Exec Nat := do
  let mut made : List (Nat × Octets) := []
  let mut isFine := true
  for (source, target) in pairs do
    let place ← Exec.locate false target
    let isMade := match place with
      | .ok p => made.contains (p.folder, p.name) && p.node.any fun _ => true
      | .error _ => false
    let bothFolders := (← Exec.isFolder source) && (← Exec.isFolder target)
    if isMade && !bothFolders && (← Exec.find? false source).toOption.isSome then
      complain t.name ("will not overwrite just-created ".toList ++ shellQuote target ++
        " with ".toList ++ shellQuote source)
      isFine := false
    else
      let isDone ← if t.moves then t.move source target else t.copy 1000 source target
      if !isDone then isFine := false
      if let .ok p := place then made := (p.folder, p.name) :: made
  return status isFine

def transferAll (known : Known) (moves : Bool)
    (run : Transfer → List (Octets × Octets) → Exec Nat) : Utility :=
  withOptions known fun _ given operands => do
    let t : Transfer := { name := known.name, moves, given }
    let into (folder : Octets) (sources : List Octets) : Exec Nat := do
      if !t.has 'Q' then
        return ← run t (sources.map fun source => (source, inside folder
          (if nameOf source == ['.', '.'] || nameOf source == ['.'] then [] else nameOf source)))
      let pairs := sources.map fun source => (source, inside folder source)
      for source in sources do
        for step in (pathsTo source).dropLast do
          let _ ← Exec.createFolder (inside folder step) 0o777
      run t pairs
    let missing (folder : Octets) (what : String) : Exec Nat := do
      let why : FileError := match ← Exec.find? true folder with
        | .ok _ => .notFolder
        | .error why => why
      fault known.name what folder why
      return 1
    match argument? given 't', operands with
    | _, [] => misuse known "missing file operand".toList
    | some folder, sources =>
      if ← Exec.isFolder folder then into folder sources else missing folder "target directory"
    | none, [only] =>
      misuse known ("missing destination file operand after ".toList ++ shellQuote only)
    | none, _ =>
      let target := operands.getLastD []
      let sources := operands.dropLast
      if t.has 'T' then
        match sources with
        | [source] => run t [(source, target)]
        | _ => misuse known ("extra operand ".toList ++ shellQuote (operands.getD 2 []))
      else if ← Exec.isFolder target then into target sources
      else
        match sources with
        | [source] => run t [(source, target)]
        | _ => missing target "target"

def cp : Utility :=
  transferAll
    { name := "cp", letters := "abdfHilLnprRst:S:TuvxPZ", hidden := "B::K::VAQO:"
      words := [("archive", 'a'), ("recursive", 'r'), ("force", 'f'), ("interactive", 'i'),
        ("no-clobber", 'n'), ("verbose", 'v'), ("dereference", 'L'), ("no-dereference", 'P'),
        ("link", 'l'), ("symbolic-link", 's'), ("target-directory", 't'),
        ("no-target-directory", 'T'), ("update", 'u'), ("backup", 'B'), ("suffix", 'S'),
        ("preserve", 'K'), ("remove-destination", 'V'), ("attributes-only", 'A'),
        ("parents", 'Q'), ("no-preserve", 'O'), ("one-file-system", 'x')] }
    false fun t pairs =>
      let given := t.given.map fun (c, a) => if c == 'K' then ('p', a) else (c, a)
      { t with given }.all pairs

def mv : Utility :=
  transferAll
    { name := "mv", letters := "bfint:S:TuvZ", hidden := "B::W"
      words := [("force", 'f'), ("interactive", 'i'), ("no-clobber", 'n'), ("verbose", 'v'),
        ("target-directory", 't'), ("no-target-directory", 'T'), ("update", 'u'),
        ("backup", 'B'), ("suffix", 'S'), ("strip-trailing-slashes", 'W')] }
    true Transfer.all

/-- Copy files to where they are used, or make folders. -/
def install : Utility :=
  let known : Known :=
    { name := "install", letters := "bcCdDg:m:o:psS:t:TvZ", hidden := "B::"
      words := [("directory", 'd'), ("mode", 'm'), ("verbose", 'v'), ("target-directory", 't'),
        ("no-target-directory", 'T'), ("preserve-timestamps", 'p'), ("owner", 'o'),
        ("group", 'g'), ("backup", 'B'), ("suffix", 'S'), ("compare", 'C'), ("strip", 's')] }
  fun run arguments => do
    match read known arguments with
    | .error complaint => misuse known complaint
    | .ok (given, operands) =>
      withMode { known with name := "install" } (argument? given 'm') 0 false fun mode => do
        let mode := mode.getD 0o755
        if has given 'd' then
          if operands.isEmpty then misuse known "missing file operand".toList
          else
            forAll operands fun path => do
              let mut failure : Option (Octets × FileError) := none
              for step in pathsTo path do
                if failure.isNone && !(← Exec.isFolder step) then
                  match ← Exec.createFolder step 0o755 with
                  | .error why => failure := some (step, why)
                  | .ok _ =>
                    if has given 'v' then
                      Exec.printLine ("install: creating directory ".toList ++ shellQuote step)
              match failure with
              | some (step, why) => failing "install" "cannot create directory" step why
              | none =>
                setMode path mode
                return true
        else
          if has given 'D' then
            let folder := match argument? given 't' with
              | some folder => folder
              | none =>
                let target := operands.getLastD []
                target.take (target.length - (nameOf target).length)
            for step in pathsTo folder do
              if !(← Exec.isFolder step) then
                let _ ← Exec.createFolder step 0o755
          transferAll known false (fun t pairs => do
            let results ← pairs.mapM fun (source, target) => do
              if ← Exec.isFolder source then
                t.refuse ("omitting directory ".toList ++ shellQuote source)
              else
                let verbose := t.has 'v'
                let quiet := t.given.filter fun (c, _) => c != 'v'
                let isDone ← { t with given := ('V', []) :: quiet }.copy 1 source target
                if isDone then
                  setMode target mode
                  if verbose then t.say source target none
                return isDone
            return status (results.all id)) run arguments

end Interpolation.Shell.Utility
