import Interpolation.Decimal.Nearest
import Interpolation.Format.Yaml.Node

/-!
# YAML documents

The scalars of a document get their kind at last. A plain scalar becomes nothing, a truth value or a
number if it is written like one, and a text otherwise; a quoted scalar is a text. A tag can ask for
a kind, and a tag of one's own is refused. An alias stands for a copy of its node. Collections nest
at most 128 deep, and a document has at most a hundred times as many copies as parts.
-/

namespace Interpolation.Yaml

/-! ## Numbers -/

def hasLeadingZero (t : Text) : Bool :=
  let t := match t with
    | '-' :: t | '+' :: t => t
    | t => t
  1 < t.length && t.head? == some '0' && t.all Char.isDigit

def based? (base : Nat) (t : Text) : Option Nat :=
  if t.isEmpty then none
  else t.foldlM (fun n c => do
    let d ← Json.hexValue? c
    if d < base then some (base * n + d) else none) 0

/-- A whole number without a sign: in digits, or to a base that its first characters announce. -/
def magnitude? : Text → Option Nat
  | '0' :: 'x' :: t => based? 16 t
  | '0' :: 'o' :: t => based? 8 t
  | '0' :: 'b' :: t => based? 2 t
  | t => if hasLeadingZero t then none else Text.digits? t

/-- A whole number with or without a sign; beyond 128 bits there is none. -/
def whole? (t : Text) : Option Int := do
  let n : Int ← match t with
    | '-' :: t => (magnitude? t).map fun n => -n
    | '+' :: t => (magnitude? t).map Int.ofNat
    | t => (magnitude? t).map Int.ofNat
  if -(Nat.pow 2 127) ≤ n && n < Nat.pow 2 128 then some n else none

/-- The value of a whole number; it is refused beyond 64 bits. -/
def wholeValue? (n : Int) : Option Value :=
  if -(Nat.pow 2 63) ≤ n && n < Nat.pow 2 64 then some (.number (.whole n)) else none

def realDigits : Reader Float := do
  let whole ← Reader.takeWhile Char.isDigit
  let fraction ← optional do
    Reader.char '.'
    Reader.takeWhile Char.isDigit
  let digits := whole ++ fraction.getD []
  Reader.ensure (!digits.isEmpty)
  let exponent ← optional Json.exponent
  let size : Int := match exponent with
    | some (negative, e) => if negative then -(Decimal.valueOfDigits e) else Decimal.valueOfDigits e
    | none => 0
  pure (Decimal.nearest ⟨Decimal.valueOfDigits (digits.map fun c => c.toNat - '0'.toNat),
    size - (fraction.getD []).length⟩)

def real? (t : Text) : Option Float :=
  let x := match t with
    | '-' :: t => (realDigits.whole? t).map fun x => -x
    | '+' :: t => realDigits.whole? t
    | t => realDigits.whole? t
  x.filter Float.isFinite

def isWord (words : List String) (t : Text) : Bool :=
  words.any fun w => w.toList == t

def specialNames : List String :=
  [".inf", ".Inf", ".INF", "+.inf", "+.Inf", "+.INF", "-.inf", "-.Inf", "-.INF",
    ".nan", ".NaN", ".NAN"]

def realValue? (t : Text) : Option Value :=
  if isWord specialNames t then some .null
  else (real? t).map fun x => .number (.real x)

/-! ## Scalars -/

def isNull (t : Text) : Bool :=
  isWord ["null", "Null", "NULL", "~"] t

def boolean? (t : Text) : Option Bool :=
  if isWord ["true", "True", "TRUE"] t then some true
  else if isWord ["false", "False", "FALSE"] t then some false
  else none

def plainValue? (t : Text) : Option Value :=
  if t.isEmpty || isNull t then some .null
  else
    match boolean? t, whole? t with
    | some b, _ => some (.boolean b)
    | none, some n => wholeValue? n
    | none, none => some (((if hasLeadingZero t then none else realValue? t)).getD (.text t))

/-- The value of a scalar with a tag: one of the common tags for a kind, or any other tag. -/
def taggedValue? (tag t : Text) : Option Value :=
  if tag.head? = some '!' then none
  else if isWord ["tag:yaml.org,2002:null"] tag then if isNull t then some .null else none
  else if isWord ["tag:yaml.org,2002:bool"] tag then (boolean? t).map .boolean
  else if isWord ["tag:yaml.org,2002:int"] tag then (whole? t).bind wholeValue?
  else if isWord ["tag:yaml.org,2002:float"] tag then realValue? t
  else some (.text t)

def scalarValue? (tag : Option Text) (isPlain : Bool) (t : Text) : Option Value :=
  match tag with
  | some tag => taggedValue? tag t
  | none => if isPlain then plainValue? t else some (.text t)

/-! ## Copies -/

mutual

/-- The number of parts of a node: one of a scalar or an alias, and two of a collection besides its
own parts. -/
def Node.size : Node → Nat
  | .alias _ => 1
  | .scalar .. => 1
  | .list _ items => 2 + sizeOfItems items
  | .table _ entries => 2 + sizeOfEntries entries

def sizeOfItems : List Node → Nat
  | [] => 0
  | n :: rest => n.size + sizeOfItems rest

def sizeOfEntries : List (Node × Node) → Nat
  | [] => 0
  | (k, v) :: rest => k.size + v.size + sizeOfEntries rest

end

def Node.marks : Node → Marks
  | .alias _ => {}
  | .scalar marks .. => marks
  | .list marks _ => marks
  | .table marks _ => marks

mutual

def Node.anchored (n : Node) : List (Nat × Node) :=
  n.marks.anchor.toList.map (fun a => (a, n)) ++
    match n with
    | .alias _ => []
    | .scalar .. => []
    | .list _ items => anchoredItems items
    | .table _ entries => anchoredEntries entries

def anchoredItems : List Node → List (Nat × Node)
  | [] => []
  | n :: rest => n.anchored ++ anchoredItems rest

def anchoredEntries : List (Node × Node) → List (Nat × Node)
  | [] => []
  | (k, v) :: rest => k.anchored ++ v.anchored ++ anchoredEntries rest

end

/-- A document whose aliases can be followed. -/
structure Document where
  root : Node
  anchored : List (Nat × Node)
  copies : Nat

def Document.ofRoot (root : Node) : Document :=
  ⟨root, root.anchored.reverse, 100 * root.size⟩

abbrev Copying := StateT Nat Option

namespace Document

def follow (d : Document) : Node → Copying Node
  | .alias a => do
    let left ← get
    match d.anchored.lookup a, left with
    | some n, left + 1 => do
      set left
      pure n
    | _, _ => failure
  | n => pure n

def textOf (d : Document) (n : Node) : Copying Text := do
  match ← d.follow n with
  | .scalar _ _ t => pure t
  | _ => failure

def ensureCommon (marks : Marks) : Copying Unit :=
  if marks.tag.any fun t => t.head? == some '!' then failure else pure ()

def valueOf (d : Document) : Nat → Node → Copying Value
  | depth, n => do
    match ← d.follow n, depth with
    | .scalar marks isPlain t, _ =>
      match scalarValue? marks.tag isPlain t with
      | some v => pure v
      | none => failure
    | .list marks items, depth + 1 => do
      ensureCommon marks
      return .list (← items.mapM (valueOf d depth))
    | .table marks entries, depth + 1 => do
      ensureCommon marks
      let entries ← entries.mapM fun (k, v) => do
        return (← d.textOf k, ← valueOf d depth v)
      return .table (Table.ofList entries)
    | _, _ => failure

def greatestDepth : Nat := 128

def value? (d : Document) : Option Value :=
  ((d.valueOf greatestDepth d.root).run d.copies).map Prod.fst

/-- The texts of the entries of a node; nothing stands for no entries. -/
def textsOf (d : Document) (n : Node) : Copying (List (Text × Text)) := do
  match ← d.follow n with
  | .table _ entries => entries.mapM fun (k, v) => do return (← d.textOf k, ← d.textOf v)
  | .scalar _ true [] => pure []
  | _ => failure

def under (d : Document) (key : Text) : Copying (List Node) := do
  match d.root with
  | .table _ entries => do
    let entries ← entries.mapM fun (k, v) => do return (← d.textOf k, v)
    return (entries.filter fun (k, _) => k == key).map Prod.snd
  | .scalar _ true [] => pure []
  | _ => failure

def textsUnder? (d : Document) (key : Text) : Option (List (List (Text × Text))) :=
  (StateT.run (do (← d.under key).mapM d.textsOf) d.copies).map Prod.fst

end Document

/-- The document of a text; a text without one holds nothing. -/
def readDocument? (t : Text) : Option Document :=
  (readNode? t).map fun root => Document.ofRoot (root.getD Node.empty)

def read? (t : Text) : Option Value :=
  (readDocument? t).bind Document.value?

end Interpolation.Yaml
