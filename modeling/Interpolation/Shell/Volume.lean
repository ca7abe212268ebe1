import Interpolation.FileTree
import Interpolation.Shell.Octets

/-!
# Volumes

A volume numbers what it holds. A folder knows what is in it by names, so that one file may have
several names, and an open file stays what it is when its names change. A link leads on to another
path.
-/

namespace Interpolation.Shell

/-- Why something cannot be done with a file. -/
inductive FileError where
  | notFound
  | notFolder
  | isFolder
  | isThere
  | notEmpty
  | endlessLinks
  | tooLong
  | denied
  | notPermitted
  | invalid
  | noDevice
  | badStream
  | noSpace
  | brokenPipe
  deriving DecidableEq, Repr

def FileError.message : FileError → Octets
  | .notFound => "No such file or directory".toList
  | .notFolder => "Not a directory".toList
  | .isFolder => "Is a directory".toList
  | .isThere => "File exists".toList
  | .notEmpty => "Directory not empty".toList
  | .endlessLinks => "Too many levels of symbolic links".toList
  | .tooLong => "File name too long".toList
  | .denied => "Permission denied".toList
  | .notPermitted => "Operation not permitted".toList
  | .invalid => "Invalid argument".toList
  | .noDevice => "No such device or address".toList
  | .badStream => "Bad file descriptor".toList
  | .noSpace => "No space left on device".toList
  | .brokenPipe => "Broken pipe".toList

inductive Device where
  | null
  | zero
  | full
  | random
  | terminal
  deriving DecidableEq, Repr

def Device.bytes (d : Device) (n : Nat) : Octets :=
  match d with
  | .zero | .full => List.replicate n (Char.ofNat 0)
  | .random => (List.range n).map fun i => Char.ofNat ((i * i * 7919 + i * 104729 + 31) / 64 % 256)
  | _ => []

def Device.isEndless : Device → Bool
  | .zero | .full | .random => true
  | _ => false

/-- What something on a volume is. -/
inductive Body where
  | file (content : Octets)
  | folder (parent : Nat) (entries : List (Octets × Nat))
  | link (target : Octets)
  | device (device : Device)
  | queue (content : Octets)
  deriving Inhabited

/-- Something on a volume, with its permissions and its times in nanoseconds. -/
structure Node where
  body : Body
  mode : Nat
  owner : Nat := 0
  group : Nat := 0
  modified : Int := 0
  accessed : Int := 0
  changed : Int := 0
  deriving Inhabited

/-- What is kept, by number. The root has the number zero. -/
structure Volume where
  nodes : Array Node := #[{ body := .folder 0 [], mode := 0o755 }]

/-- Where a path leads: to a name in a folder, and to what has the name. A path that ends with a
step back or a step to where it is has no name. -/
structure Place where
  folder : Nat
  name : Octets
  node : Option Nat

namespace Volume

variable (v : Volume)

def node? (n : Nat) : Option Node :=
  v.nodes[n]?

def body? (n : Nat) : Option Body :=
  (v.node? n).map Node.body

def entries (n : Nat) : List (Octets × Nat) :=
  match v.body? n with
  | some (.folder _ entries) => entries
  | _ => []

/-- Whether a number is that of a folder. -/
def isFolder (n : Nat) : Bool :=
  match v.body? n with
  | some (.folder ..) => true
  | _ => false

def parent (n : Nat) : Nat :=
  match v.body? n with
  | some (.folder parent _) => parent
  | _ => n

def modify (n : Nat) (f : Node → Node) : Volume :=
  ⟨v.nodes.modify n f⟩

def modifyEntries (folder : Nat) (f : List (Octets × Nat) → List (Octets × Nat)) : Volume :=
  v.modify folder fun node =>
    match node.body with
    | .folder parent entries => { node with body := .folder parent (f entries) }
    | _ => node

def attach (folder : Nat) (name : Octets) (n : Nat) : Volume :=
  v.modifyEntries folder fun entries => entries.filter (fun (m, _) => m != name) ++ [(name, n)]

def detach (folder : Nat) (name : Octets) : Volume :=
  v.modifyEntries folder fun entries => entries.filter fun (m, _) => m != name

def add (folder : Nat) (name : Octets) (node : Node) : Nat × Volume :=
  let n := v.nodes.size
  let body := match node.body with
    | .folder _ entries => .folder folder entries
    | body => body
  (n, (⟨v.nodes.push { node with body }⟩ : Volume).attach folder name n)

def rename (source target : Place) (n : Nat) : Volume :=
  let moved := (v.detach source.folder source.name).attach target.folder target.name n
  moved.modify n fun node =>
    match node.body with
    | .folder _ entries => { node with body := .folder target.folder entries }
    | _ => node

def nameCount (n : Nat) : Nat :=
  match v.body? n with
  | some (.folder _ entries) => 2 + (entries.filter fun (_, m) => v.isFolder m).length
  | _ =>
    v.nodes.foldl (fun count node =>
      match node.body with
      | .folder _ entries => count + (entries.filter fun (_, m) => m == n).length
      | _ => count) 0

def size (n : Nat) : Nat :=
  match v.body? n with
  | some (.file content) => content.length
  | some (.link target) => target.length
  | some (.folder ..) => 4096
  | _ => 0

/-! ## Paths -/

/-- The steps of a path. A separator at the end asks for a folder, as a step to where it is does. -/
def steps (path : Octets) : List Octets :=
  let steps := (path.splitOn '/').filter fun step => !step.isEmpty
  if path.getLast? == some '/' then steps ++ [['.']] else steps

def longest : Nat :=
  255

def mostLinks : Nat :=
  40

def walk (follows : Bool) : Nat → Nat → Nat → List Octets → Except FileError Place
  | 0, _, _, _ => .error .endlessLinks
  | _ + 1, _, folder, [] => .ok ⟨v.parent folder, [], some folder⟩
  | fuel + 1, links, folder, name :: rest =>
    if !v.isFolder folder then .error .notFolder
    else if longest < name.length then .error .tooLong
    else if name == ['.'] then walk follows fuel links folder rest
    else if name == ['.', '.'] then walk follows fuel links (v.parent folder) rest
    else
      match (v.entries folder).lookup name with
      | none => if rest.isEmpty then .ok ⟨folder, name, none⟩ else .error .notFound
      | some n =>
        match v.body? n, rest.isEmpty && !follows with
        | some (.link target), false =>
          if links = 0 then .error .endlessLinks
          else
            let start := if target.head? == some '/' then 0 else folder
            walk follows fuel (links - 1) start (steps target ++ rest)
        | _, _ =>
          if rest.isEmpty then .ok ⟨folder, name, some n⟩ else walk follows fuel links n rest

/-- Where a path from the root leads. -/
def locate (follows : Bool) (path : Octets) : Except FileError Place :=
  let steps := steps path
  if path.isEmpty then .error .notFound
  else v.walk follows (steps.length + 256 * mostLinks) mostLinks 0 steps

def pathOf : Nat → Nat → Octets
  | 0, _ => []
  | fuel + 1, n =>
    if n = 0 then []
    else
      let parent := v.parent n
      match (v.entries parent).find? fun (_, m) => m == n with
      | some (name, _) => pathOf fuel parent ++ '/' :: name
      | none => []

/-- The path of a folder from the root. -/
def path (n : Nat) : Octets :=
  if n = 0 then ['/'] else v.pathOf v.nodes.size n

/-! ## Trees of files -/

def makeFolders (now : Int) : Volume → Nat → List Octets → Nat × Volume
  | v, folder, [] => (folder, v)
  | v, folder, name :: rest =>
    match (v.entries folder).lookup name with
    | some n => makeFolders now v n rest
    | none =>
      let node : Node :=
        { body := .folder 0 [], mode := 0o755, modified := now, accessed := now, changed := now }
      let (n, v) := v.add folder name node
      makeFolders now v n rest

def put (now : Int) (v : Volume) (steps : List Octets) (mode : Nat) (body : Body) : Volume :=
  let (folder, v) := makeFolders now v 0 steps.dropLast
  (v.add folder (steps.getLastD [])
    { body, mode, modified := now, accessed := now, changed := now }).2

def ofTree (now : Int) (tree : FileTree) : Volume :=
  let octets (steps : Steps) : List Octets := steps.map Octets.ofText
  let v := tree.folders.reverse.foldl (fun v steps => (makeFolders now v 0 (octets steps)).2) {}
  tree.files.reverse.foldl (fun v (steps, content) =>
    v.put now (octets steps) 0o644 (.file (Octets.ofBytes content))) v

end Volume

end Interpolation.Shell
