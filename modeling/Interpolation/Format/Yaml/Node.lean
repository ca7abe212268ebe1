import Interpolation.Format.Yaml.Token

/-!
# Nodes of YAML documents

The tokens of a document form a tree of scalars, lists and tables. A node may be named by an anchor,
and an alias stands for the node that had the name last, be it finished or not. Anchors are numbered
by the names that are known at the time.
-/

namespace Interpolation.Yaml

/-- What is written before a node: the number of its anchor, and its tag. -/
structure Marks where
  anchor : Option Nat := none
  tag : Option Text := none
  deriving Repr

/-- A part of a document. -/
inductive Node where
  | alias (anchor : Nat)
  | scalar (marks : Marks) (isPlain : Bool) (text : Text)
  | list (marks : Marks) (items : List Node)
  | table (marks : Marks) (entries : List (Node × Node))

def Node.empty : Node :=
  .scalar {} true []

structure Outlook where
  tokens : List Token
  handles : List (Text × Text) := []
  anchors : List (Text × Nat) := []

abbrev Nodes := StateT Outlook Option

namespace Nodes

def ensure (b : Bool) : Nodes Unit :=
  if b then pure () else failure

def peek : Nodes Token := do
  match (← get).tokens with
  | t :: _ => pure t
  | [] => failure

def skip : Nodes Unit :=
  modify fun o => { o with tokens := o.tokens.drop 1 }

def expect (t : Token) : Nodes Unit := do
  ensure ((← peek) == t)
  skip

def numberOf (name : Text) : Nodes Nat := do
  let o ← get
  let number := o.anchors.length
  set { o with anchors := (name, number) :: o.anchors.filter fun (n, _) => n != name }
  pure number

def known (name : Text) : Nodes Nat := do
  match (← get).anchors.lookup name with
  | some number => pure number
  | none => failure

def tagOf (handle suffix : Text) : Nodes Text := do
  if handle.isEmpty then pure suffix
  else
    match (← get).handles.lookup handle with
    | some head => pure (head ++ suffix)
    | none => failure

def tag : Nodes (Option Text) := do
  match ← peek with
  | .tag handle suffix => do
    skip
    some <$> tagOf handle suffix
  | _ => pure none

def anchor : Nodes (Option Text) := do
  match ← peek with
  | .anchor name => do
    skip
    pure (some name)
  | _ => pure none

/-- Read what may stand before a node: an anchor and a tag in either order. -/
def properties : Nodes (Option Text × Option Text) := do
  match ← anchor with
  | some name => do return (some name, ← tag)
  | none => do
    match ← tag with
    | some t => do return (← anchor, some t)
    | none => do return (none, none)

def isNeutral (tag : Text) : Bool :=
  tag == ['!']

mutual

/-- Read a node; `isBlock` tells whether a collection outside brackets may stand here, `isLoose`
whether its items may stand at the column of the key before. -/
def node (isBlock isLoose : Bool) : Nat → Nodes Node
  | 0 => failure
  | count + 1 => do
    match ← peek with
    | .alias name => do
      skip
      return .alias (← known name)
    | _ => do
      let (name, tag) ← properties
      let next ← peek
      let anchor ← name.mapM fun name => numberOf name
      let marks : Marks := { anchor, tag }
      match next with
      | .scalar isPlain text => do
        skip
        return .scalar { marks with tag := tag.filter fun t => !isNeutral t } isPlain text
      | .flowListStart => do
        skip
        return .list marks (← flowItems true count)
      | .flowTableStart => do
        skip
        return .table marks (← flowEntries true count)
      | _ =>
        if isLoose && next == .item then
          return .list marks (← looseItems count)
        else if isBlock && next == .listStart then
          skip
          return .list marks (← blockItems count)
        else if isBlock && next == .tableStart then
          skip
          return .table marks (← blockEntries count)
        else if name.isSome || tag.isSome then
          return .scalar marks true []
        else failure

/-- Read a node unless one of some tokens comes next: then the node is left out. -/
def nodeUnless (stops : List Token) (isBlock isLoose : Bool) : Nat → Nodes Node
  | 0 => failure
  | count + 1 => do
    if stops.contains (← peek) then pure Node.empty else node isBlock isLoose count

def valueUnless (stops : List Token) (isBlock isLoose : Bool) : Nat → Nodes Node
  | 0 => failure
  | count + 1 => do
    if (← peek) == .value then
      skip
      nodeUnless stops isBlock isLoose count
    else pure Node.empty

def blockItems : Nat → Nodes (List Node)
  | 0 => failure
  | count + 1 => do
    match ← peek with
    | .item => do
      skip
      let first ← nodeUnless [.item, .blockEnd] true false count
      return first :: (← blockItems count)
    | .blockEnd => do
      skip
      pure []
    | _ => failure

def looseItems : Nat → Nodes (List Node)
  | 0 => failure
  | count + 1 => do
    match ← peek with
    | .item => do
      skip
      let first ← nodeUnless [.item, .key, .value, .blockEnd] true false count
      return first :: (← looseItems count)
    | _ => pure []

def blockEntries : Nat → Nodes (List (Node × Node))
  | 0 => failure
  | count + 1 => do
    match ← peek with
    | .key => do
      skip
      let key ← nodeUnless [.key, .value, .blockEnd] true true count
      let value ← valueUnless [.key, .value, .blockEnd] true true count
      return (key, value) :: (← blockEntries count)
    | .blockEnd => do
      skip
      pure []
    | _ => failure

/-- Read the items of a list in brackets, with a comma before each but the first. An entry among
them is a table of its own; when its key is left out, one token more is passed over. -/
def flowItems (isFirst : Bool) : Nat → Nodes (List Node)
  | 0 => failure
  | count + 1 => do
    if (← peek) == .flowListEnd then
      skip
      pure []
    else
      unless isFirst do expect .comma
      match ← peek with
      | .flowListEnd => do
        skip
        pure []
      | .key => do
        skip
        let isLeftOut := [.value, .comma, .flowListEnd].contains (← peek)
        let key ← nodeUnless [.value, .comma, .flowListEnd] false false count
        if isLeftOut then skip
        let value ← valueUnless [.comma, .flowListEnd] false false count
        return .table {} [(key, value)] :: (← flowItems false count)
      | _ => do
        let first ← node false false count
        return first :: (← flowItems false count)

def flowEntries (isFirst : Bool) : Nat → Nodes (List (Node × Node))
  | 0 => failure
  | count + 1 => do
    if (← peek) == .flowTableEnd then
      skip
      pure []
    else
      unless isFirst do expect .comma
      match ← peek with
      | .flowTableEnd => do
        skip
        pure []
      | .key => do
        skip
        let key ← nodeUnless [.value, .comma, .flowTableEnd] false false count
        let value ← valueUnless [.comma, .flowTableEnd] false false count
        return (key, value) :: (← flowEntries false count)
      | _ => do
        let key ← node false false count
        return (key, Node.empty) :: (← flowEntries false count)

end

def commonHandles : List (Text × Text) :=
  [("!".toList, "!".toList), ("!!".toList, "tag:yaml.org,2002:".toList)]

/-- Read at most so many directives: no handle is written twice, and the version once at most. -/
def directives (hasVersion : Bool) : Nat → Nodes Unit
  | 0 => failure
  | count + 1 => do
    match ← peek with
    | .versionDirective major minor => do
      ensure (!hasVersion && major == 1 && (minor == 1 || minor == 2))
      skip
      directives true count
    | .tagDirective handle head => do
      let o ← get
      ensure (o.handles.lookup handle).isNone
      set { o with handles := (handle, head) :: o.handles }
      skip
      directives hasVersion count
    | _ => modify fun o => { o with handles := o.handles ++ commonHandles }

def isOutside : Token → Bool
  | .versionDirective .. | .tagDirective .. | .documentStart | .streamEnd => true
  | _ => false

def skipEnds : Nat → Nodes Unit
  | 0 => pure ()
  | count + 1 => do
    if (← peek) == .documentEnd then
      skip
      skipEnds count

/-- Read a document and nothing behind it; there may be none. -/
def document : Nodes (Option Node) := do
  if (← peek) == .streamEnd then pure none
  else
    let count := 2 * (← get).tokens.length + 2
    let isMarked := isOutside (← peek)
    directives false count
    if isMarked then expect .documentStart
    let next ← peek
    let root ← if isMarked && (isOutside next || next == .documentEnd) then pure Node.empty
      else node true false count
    skipEnds count
    ensure ((← peek) == .streamEnd)
    pure (some root)

end Nodes

def readNode? (t : Text) : Option (Option Node) :=
  (tokens? t).bind fun tokens => (Nodes.document.run { tokens }).map Prod.fst

end Interpolation.Yaml
