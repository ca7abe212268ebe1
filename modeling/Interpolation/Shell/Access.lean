import Interpolation.Shell.Binding

/-!
# Access to files

Paths lead from the directory of the process. Some paths of devices stand for open streams of the
process itself.
-/

namespace Interpolation.Shell.Exec

def absolute (path : Octets) : Exec Octets := do
  if path.isEmpty || path.head? == some '/' then return path
  return (← ask Process.directory) ++ '/' :: path

def locate (follows : Bool) (path : Octets) : Exec (Except FileError Place) := do
  let path ← absolute path
  return (← observe World.volume).locate follows path

/-- The number of what a path leads to; a link at its end is followed if so asked. -/
def find? (follows : Bool) (path : Octets) : Exec (Except FileError Nat) := do
  match ← locate follows path with
  | .error why => return .error why
  | .ok { node := some n, .. } => return .ok n
  | .ok _ => return .error .notFound

def ownStream? (path : Octets) : Exec (Option (Option Nat)) := do
  let streams ← ask Process.streams
  match String.ofList path with
  | "/dev/stdin" => return some (streams.lookup 0)
  | "/dev/stdout" => return some (streams.lookup 1)
  | "/dev/stderr" => return some (streams.lookup 2)
  | _ =>
    match ("/dev/fd/".toList.isPrefixOf? path).or ("/proc/self/fd/".toList.isPrefixOf? path) with
    | some digits => return (Octets.natural? digits).map fun n => streams.lookup n
    | none => return none

/-- What a path leads to, which may be an open stream. -/
inductive Seen where
  | node (n : Nat)
  | stream (opened : Opened)

def Seen.ofStream (opened : Opened) : Seen :=
  match opened.target with
  | .file n _ _ | .folder n | .queue n => .node n
  | _ => .stream opened

def look (follows : Bool) (path : Octets) : Exec (Except FileError Seen) := do
  let own ← if follows then ownStream? path else pure none
  match own with
  | some none => return .error .notFound
  | some (some key) =>
    match ← opened? key with
    | some opened => return .ok (.ofStream opened)
    | none => return .error .notFound
  | none =>
    match ← find? follows path with
    | .error why => return .error why
    | .ok n => return .ok (.node n)

/-- The node of a path, or something like it for an open stream. -/
def nodeOf (seen : Seen) : Exec Node := do
  match seen with
  | .node n => return ((← observe World.volume).node? n).getD default
  | .stream { target := .device d, .. } => return { body := .device d, mode := 0o666 }
  | .stream _ => return { body := .queue [], mode := 0o600 }

def node? (follows : Bool) (path : Octets) : Exec (Except FileError Node) := do
  match ← look follows path with
  | .error why => return .error why
  | .ok seen => return .ok (← nodeOf seen)

def changeVolume (f : Volume → Volume) : Exec Unit :=
  affect fun w => { w with volume := f w.volume }

def touchFolder (folder : Nat) : Exec Unit := do
  let time ← stamp
  changeVolume fun v => v.modify folder fun n => { n with modified := time, changed := time }

/-- Put something new at a place. The mask of the process takes permissions away. -/
def createNode (place : Place) (mode : Nat) (body : Body) : Exec (Except FileError Nat) := do
  let volume ← observe World.volume
  if place.name.isEmpty then return .error .isThere
  if !volume.isFolder place.folder then return .error .notFolder
  let mask ← ask Process.mask
  let time ← stamp
  let node : Node :=
    { body, mode := mode &&& (0o7777 ^^^ mask)
      modified := time, accessed := time, changed := time }
  let (n, volume) := volume.add place.folder place.name node
  affect fun w => { w with volume }
  touchFolder place.folder
  return .ok n

def createFolder (path : Octets) (mode : Nat) : Exec (Except FileError Nat) := do
  let path := if path == ['/'] then path else Text.dropTrailing '/' path
  match ← locate false path with
  | .error why => return .error why
  | .ok place =>
    if place.node.isSome then return .error .isThere
    createNode place mode (.folder 0 [])

/-- Take the name at a place away. -/
def removePlace (place : Place) : Exec Unit := do
  changeVolume fun v => v.detach place.folder place.name
  let time ← stamp
  if let some n := place.node then
    changeVolume fun v => v.modify n fun node => { node with changed := time }
  touchFolder place.folder

/-- How a file is opened. -/
inductive Access where
  | reading
  | writing (isEmptied appends alsoReads : Bool)

def openNode (n : Nat) (access : Access) : Exec (Except FileError Nat) := do
  let (isReadable, isWritable) := match access with
    | .reading => (true, false)
    | .writing _ _ alsoReads => (alsoReads, true)
  let opened (target : Target) : Exec (Except FileError Nat) := do
    return .ok (← openTarget { target, isReadable, isWritable })
  match (← observe World.volume).body? n, access with
  | some (.folder ..), .writing .. => return .error .isFolder
  | some (.folder ..), .reading => opened (.folder n)
  | some (.device .terminal), _ => return .error .noDevice
  | some (.device d), _ => opened (.device d)
  | some (.queue _), _ => opened (.queue n)
  | some (.link _), _ => return .error .endlessLinks
  | some (.file _), .reading => opened (.file n 0 false)
  | some (.file content), .writing isEmptied appends _ =>
    if isEmptied && !content.isEmpty then setContent n []
    opened (.file n 0 appends)
  | none, _ => return .error .notFound

/-- Open a file by its path; the result is the key of a stream. -/
def openPath (path : Octets) (access : Access) : Exec (Except FileError Nat) := do
  match ← ownStream? path with
  | some none => return .error .notFound
  | some (some key) =>
    match ← opened? key with
    | some { target := .file n _ _, .. } => openNode n access
    | some _ => return .ok key
    | none => return .error .notFound
  | none =>
    match ← locate true path with
    | .error why => return .error why
    | .ok place =>
      match place.node, access with
      | some n, _ => openNode n access
      | none, .reading => return .error .notFound
      | none, .writing .. =>
        match ← createNode place 0o666 (.file []) with
        | .ok n => openNode n access
        | .error why => return .error why

def content? (path : Octets) : Exec (Except FileError Octets) := do
  match ← openPath path .reading with
  | .error why => return .error why
  | .ok key => takeKey key everything

def save? (path : Octets) (appends : Bool) (o : Octets) : Exec (Option FileError) := do
  match ← openPath path (.writing (!appends) appends false) with
  | .error why => return some why
  | .ok key => writeKey key o

def isFolder (path : Octets) : Exec Bool := do
  match ← find? true path with
  | .ok n => return (← observe World.volume).isFolder n
  | .error _ => return false

def namesIn (folder : Nat) : Exec (List Octets) := do
  return ((← observe World.volume).entries folder).map Prod.fst

def isRunnable (node : Node) : Bool :=
  match node.body with
  | .file _ => node.mode &&& 0o111 != 0
  | _ => false

end Interpolation.Shell.Exec
