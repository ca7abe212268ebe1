import Interpolation.Shell.Utility.Options

/-!
# Orders

Names are put in an order in which the first name of each pair stands before the second one. Where
the pairs go round in a ring there is no such order; the ring is told, and one of its pairs is left
out.
-/

namespace Interpolation.Shell.Utility

namespace Order

structure Item where
  name : Octets
  count : Nat := 0
  followers : List Nat := []
  next : Option Nat := none
  deriving Inhabited

abbrev Items := Array Item

def itemsOf (words : List Octets) : Items :=
  let names := (words.mergeSort fun a b => !Octets.before b a).splitBy (· == ·)
  (names.filterMap fun group => group.head?.map fun name => ({ name } : Item)).toArray

def placeOf (items : Items) (name : Octets) : Nat :=
  (items.findIdx? fun i => i.name == name).getD 0

def relate (items : Items) (a b : Nat) : Items :=
  if a = b then items
  else
    (items.modify b fun i => { i with count := i.count + 1 }).modify a fun i =>
      { i with followers := b :: i.followers }

def relateAll : List Octets → Items → Items
  | a :: b :: rest, items => relateAll rest (relate items (placeOf items a) (placeOf items b))
  | _, items => items

def drain : Nat → List Nat → Items → List Nat → List Nat × Items
  | n + 1, i :: queue, items, done =>
    let followers := (items.getD i default).followers
    let (items, fresh) := followers.foldl (fun (items, fresh) j =>
      let items := items.modify j fun k => { k with count := k.count - 1 }
      (items, if (items.getD j default).count = 0 then j :: fresh else fresh)) (items, [])
    drain n (queue ++ fresh.reverse) items (i :: done)
  | _, _, items, done => (done, items)

def chain (items : Items) (last : Nat) : Nat → Nat → List Nat
  | 0, _ => []
  | n + 1, i =>
    if i = last then [i]
    else
      match (items.getD i default).next with
      | some j => i :: chain items last n j
      | none => [i]

def seek : List Nat → Option Nat → Items → Option Nat × Items × Option (List Nat)
  | [], start, items => (start, items, none)
  | i :: rest, start, items =>
    let item := items.getD i default
    if item.count = 0 then seek rest start items
    else
      match start with
      | none => seek rest (some i) items
      | some first =>
        if !item.followers.contains first then seek rest start items
        else if item.next.isSome then
          let ring := chain items i items.size first
          let items := items.modify i fun k => { k with followers := k.followers.erase first }
          let items := items.modify first fun k => { k with count := k.count - 1 }
          (none, items.map fun k => { k with next := none }, some ring)
        else seek rest (some i) (items.modify i fun k => { k with next := some first })

def ring : Nat → Option Nat → Items → Items × List Nat
  | 0, _, items => (items, [])
  | n + 1, start, items =>
    match seek (List.range items.size) start items with
    | (_, items, some found) => (items, found)
    | (none, items, none) => (items, [])
    | (some first, items, none) => ring n (some first) items

end Order

/-- Put names in an order that pairs of them ask for. -/
def tsort : Utility :=
  let known : Known := { name := "tsort" }
  withOptions known fun _ _ operands => do
    if let _ :: more :: _ := operands then return ← tooMany known more
    let name := operands.headD ['-']
    match ← content name with
    | .error why =>
      if why == .isFolder then
        complain "tsort" (shown name ++ ": read error: ".toList ++ why.message)
      else complainOf "tsort" name why
      return 1
    | .ok text =>
      let words := (text.splitOnP fun c => c == ' ' || c == '	' || c == '
').filter fun w =>
        !w.isEmpty
      if words.length % 2 = 1 then
        return ← refuse "tsort" (shown name ++ ": input contains an odd number of tokens".toList)
      let start := Order.relateAll words (Order.itemsOf words)
      let total := start.size
      Exec.loop (fun ((items, done, isFine) : Order.Items × List Nat × Bool) => do
        if total ≤ done.length then return .inr (status isFine)
        let free := (List.range total).filter fun i =>
          (items.getD i default).count = 0 && !done.contains i
        let (more, items) := Order.drain (total + 1) free items []
        for i in more.reverse do Exec.printLine (items.getD i default).name
        let done := more ++ done
        if total ≤ done.length then return .inr (status isFine)
        complain "tsort" (shown name ++ ": input contains a loop:".toList)
        let (items, found) := Order.ring (2 * total * total + 2) none items
        for i in found do complain "tsort" (items.getD i default).name
        return .inl (items, done, false)) (start, [], true)

end Interpolation.Shell.Utility
