import Interpolation.Shell.Octets

/-!
# Changes between two rows of lines

Lines are numbers here, equal numbers for equal lines. The changes that lead from one row to another
are found by a walk from both ends towards the middle that takes as few steps as it can. Lines
without a partner are left out of the walk; each change is moved to the end of the lines that look
like it.
-/

namespace Interpolation.Shell.Utility.Difference

/-- A change: lines of the first row that go, and lines of the second row that come, by their places
and numbers. -/
structure Change where
  first : Nat
  removed : Nat
  second : Nat
  added : Nat
  deriving DecidableEq, Repr

abbrev Marks := Array Bool

namespace Marks

def isSet (m : Marks) (i : Nat) : Bool :=
  m.getD i false

def skip (m : Marks) : Nat → Nat → Nat
  | 0, i => i
  | n + 1, i => if m.isSet i then skip m n (i + 1) else i

def back (m : Marks) : Nat → Nat
  | 0 => 0
  | i + 1 => if m.isSet i then back m i else i + 1

end Marks

/-! ### The shortest walk -/

structure Part where
  left : Nat
  right : Nat
  top : Nat
  bottom : Nat

structure Reach where
  places : Array Int
  lowest : Int
  highest : Int

def Reach.get (r : Reach) (least d : Int) : Int :=
  r.places.getD (d - least + 1).toNat 0

def Reach.set (r : Reach) (least d x : Int) : Reach :=
  { r with places := r.places.setIfInBounds (d - least + 1).toNat x }

def Reach.widen (r : Reach) (least most beyond : Int) : Reach :=
  let r := if least < r.lowest then
      { r.set least (r.lowest - 2) beyond with lowest := r.lowest - 1 }
    else { r with lowest := r.lowest + 1 }
  if r.highest < most then { r.set least (r.highest + 2) beyond with highest := r.highest + 1 }
  else { r with highest := r.highest - 1 }

def Reach.diagonals (r : Reach) : List Int :=
  (List.range ((r.highest - r.lowest) / 2 + 1).toNat).map fun (i : Nat) => r.highest - 2 * (i : Int)

def Reach.holds (r : Reach) (d : Int) : Bool :=
  r.lowest ≤ d && d ≤ r.highest

def forward (xs ys : Array Nat) (p : Part) : Nat → Nat → Nat → Nat
  | 0, x, _ => x
  | n + 1, x, y =>
    if x < p.right && y < p.bottom && xs.getD x 0 = ys.getD y 0 then
      forward xs ys p n (x + 1) (y + 1)
    else x

def backward (xs ys : Array Nat) (p : Part) : Nat → Nat → Nat → Nat
  | 0, x, _ => x
  | n + 1, x, y =>
    if p.left < x && p.top < y && xs.getD (x - 1) 0 = ys.getD (y - 1) 0 then
      backward xs ys p n (x - 1) (y - 1)
    else x

abbrev Meeting := Nat × Nat

def stepDown (xs ys : Array Nat) (p : Part) (least : Int) (isOdd : Bool) (up : Reach) :
    List Int → Reach → Reach ⊕ Meeting
  | [], down => .inl down
  | d :: rest, down =>
    let low := down.get least (d - 1)
    let high := down.get least (d + 1)
    let start := (if low < high then high else low + 1).toNat
    let x := forward xs ys p (p.right + 1) start ((start : Int) - d).toNat
    if isOdd && up.holds d && up.get least d ≤ x then .inr (x, ((x : Int) - d).toNat)
    else stepDown xs ys p least isOdd up rest (down.set least d x)

def stepUp (xs ys : Array Nat) (p : Part) (least : Int) (isOdd : Bool) (down : Reach) :
    List Int → Reach → Reach ⊕ Meeting
  | [], up => .inl up
  | d :: rest, up =>
    let low := up.get least (d - 1)
    let high := up.get least (d + 1)
    let start := if low < high then low else high - 1
    let x : Int :=
      if start ≤ p.left then start else backward xs ys p (p.right + 1) start.toNat (start - d).toNat
    if !isOdd && down.holds d && x ≤ down.get least d then .inr (x.toNat, (x - d).toNat)
    else stepUp xs ys p least isOdd down rest (up.set least d x)

def meet (xs ys : Array Nat) (p : Part) (least most : Int) (isOdd : Bool) :
    Nat → Reach → Reach → Meeting
  | 0, _, _ => (p.right, p.top)
  | n + 1, down, up =>
    let wide := down.widen least most (-1)
    match stepDown xs ys p least isOdd up wide.diagonals wide with
    | .inr found => found
    | .inl down =>
      let wide := up.widen least most (p.right + p.bottom + 2)
      match stepUp xs ys p least isOdd down wide.diagonals wide with
      | .inr found => found
      | .inl up => meet xs ys p least most isOdd n down up

def middle (xs ys : Array Nat) (p : Part) : Meeting :=
  let least : Int := p.left - p.bottom
  let most : Int := p.right - p.top
  let places := Array.replicate (most - least + 3).toNat (0 : Int)
  let start : Int := p.left - p.top
  let finish : Int := p.right - p.bottom
  let down := (Reach.mk places start start).set least start p.left
  let up := (Reach.mk places finish finish).set least finish p.right
  meet xs ys p least most ((start - finish) % 2 != 0) (p.right + p.bottom + 1) down up

def markAll (m : Marks) (start stop : Nat) : Marks :=
  (List.range (stop - start)).foldl (fun m i => m.setIfInBounds (start + i) true) m

def compare (xs ys : Array Nat) : Nat → Part → Marks × Marks → Marks × Marks
  | 0, _, marks => marks
  | n + 1, p, marks =>
    let x := forward xs ys p (p.right + 1) p.left p.top
    let p := { p with left := x, top := p.top + (x - p.left) }
    let x := backward xs ys p (p.right + 1) p.right p.bottom
    let p := { p with right := x, bottom := p.bottom - (p.right - x) }
    if p.left = p.right then (marks.1, markAll marks.2 p.top p.bottom)
    else if p.top = p.bottom then (markAll marks.1 p.left p.right, marks.2)
    else
      let (x, y) := middle xs ys p
      let marks := compare xs ys n { p with right := x, bottom := y } marks
      compare xs ys n { p with left := x, top := y } marks

/-! ### Lines that are left out -/

inductive Standing where
  | kept
  | alone
  | common
  deriving DecidableEq

def settleEdge : Nat → Nat → List Standing → List Standing
  | _, _, [] => []
  | i, row, s :: rest =>
    if 8 ≤ i && s = .alone then s :: rest
    else if s = .alone then
      if row = 2 then s :: rest else s :: settleEdge (i + 1) (row + 1) rest
    else .kept :: settleEdge (i + 1) 0 rest

def doubled : Nat → Nat → Nat → Nat
  | 0, n, _ => n
  | fuel + 1, n, size => if size / 4 = 0 then n else doubled fuel (2 * n) (size / 4)

def settleGroups (least : Nat) (run : List Standing) : List Standing :=
  (run.splitBy (· == ·)).flatMap fun group =>
    if group.head? == some .common && least ≤ group.length then group.map fun _ => .kept else group

def settleRun (run : List Standing) : List Standing :=
  if run.length < 4 * run.count .common then
    run.map fun s => if s = .common then .kept else s
  else
    let least := doubled run.length 1 (run.length / 4) + 1
    (settleEdge 0 0 (settleEdge 0 0 (settleGroups least run)).reverse).reverse

def settle : Nat → List Standing → List Standing
  | 0, all => all
  | _, [] => []
  | n + 1, s :: rest =>
    if s = .alone then
      let run := (s :: rest).takeWhile (· != .kept)
      let tail := (run.reverse.takeWhile (· == .common)).length
      settleRun (run.take (run.length - tail)) ++ List.replicate tail .kept ++
        settle n ((s :: rest).drop run.length)
    else .kept :: settle n rest

def counts (size : Nat) (row : Array Nat) : Array Nat :=
  row.foldl (fun counts x => counts.modify x (· + 1)) (Array.replicate size 0)

def standings (row : Array Nat) (others : Array Nat) : List Standing :=
  let many := doubled row.size 5 (row.size / 64)
  settle (row.size + 1) (row.toList.map fun x =>
    match others.getD x 0 with
    | 0 => .alone
    | n => if many < n then .common else .kept)

/-! ### Changes in their places -/

structure Run where
  marks : Marks
  start : Nat
  stop : Nat
  other : Nat

def Run.back (row : Array Nat) (others : Marks) : Nat → Run → Run
  | 0, r => r
  | n + 1, r =>
    if 0 < r.start && row.getD (r.start - 1) 0 = row.getD (r.stop - 1) 0 then
      let marks := (r.marks.setIfInBounds (r.start - 1) true).setIfInBounds (r.stop - 1) false
      Run.back row others n
        { marks, start := Marks.back marks (r.start - 1), stop := r.stop - 1
          other := Marks.back others r.other - 1 }
    else r

def Run.on (row : Array Nat) (others : Marks) : Nat → Run → Nat → Run × Nat
  | 0, r, last => (r, last)
  | n + 1, r, last =>
    if r.stop < row.size && row.getD r.start 0 = row.getD r.stop 0 then
      let marks := (r.marks.setIfInBounds r.start false).setIfInBounds r.stop true
      let stop := Marks.skip marks row.size (r.stop + 1)
      let other := Marks.skip others others.size (r.other + 1)
      Run.on row others n { marks, start := r.start + 1, stop, other }
        (if r.other + 1 < other then stop else last)
    else (r, last)

def Run.merge (row : Array Nat) (others : Marks) : Nat → Run → Run × Nat
  | 0, r => (r, row.size)
  | n + 1, r =>
    let length := r.stop - r.start
    let r := r.back row others (row.size + 1)
    let isAtOther := 0 < r.other && others.isSet (r.other - 1)
    let (r, last) := r.on row others (row.size + 1) (if isAtOther then r.stop else row.size)
    if r.stop - r.start = length then (r, last) else Run.merge row others n r

def Run.align (others : Marks) : Nat → Run → Run
  | 0, r => r
  | n + 1, r =>
    let marks := (r.marks.setIfInBounds (r.start - 1) true).setIfInBounds (r.stop - 1) false
    Run.align others n
      { marks, start := r.start - 1, stop := r.stop - 1, other := Marks.back others r.other - 1 }

def shift (row : Array Nat) (others : Marks) : Nat → Nat → Nat → Marks → Marks
  | 0, _, _, marks => marks
  | n + 1, i, other, marks =>
    if row.size ≤ i then marks
    else if !marks.isSet i then
      shift row others n (i + 1) (Marks.skip others others.size other + 1) marks
    else
      let stop := Marks.skip marks row.size i
      let r : Run := { marks, start := i, stop, other := Marks.skip others others.size other }
      let (r, last) := r.merge row others (row.size + 1)
      let r := r.align others (r.stop - last)
      shift row others n r.stop r.other r.marks

def changesFrom (one two : Marks) : Nat → Nat → Nat → List Change
  | 0, _, _ => []
  | n + 1, i, j =>
    if one.size ≤ i && two.size ≤ j then []
    else if one.isSet i || two.isSet j then
      let i' := one.skip one.size i
      let j' := two.skip two.size j
      ⟨i, i' - i, j, j' - j⟩ :: changesFrom one two n i' j'
    else changesFrom one two n (i + 1) (j + 1)

def changes (isMinimal : Bool) (size : Nat) (xs ys : Array Nat) : List Change :=
  let keptIn (row others : Array Nat) : Array Nat :=
    if isMinimal then Array.range row.size
    else ((standings row (counts size others)).zipIdx.filterMap fun (s, i) =>
      if s = .kept then some i else none).toArray
  let (placesX, placesY) := (keptIn xs ys, keptIn ys xs)
  let pick (row places : Array Nat) : Array Nat := places.map fun i => row.getD i 0
  let total := placesX.size + placesY.size
  let (walkX, walkY) := compare (pick xs placesX) (pick ys placesY) (total + 1)
    ⟨0, placesX.size, 0, placesY.size⟩
    (Array.replicate placesX.size false, Array.replicate placesY.size false)
  let spread (row places : Array Nat) (marks : Marks) : Marks :=
    (places.toList.zip marks.toList).foldl (fun all (i, isMarked) => all.setIfInBounds i isMarked)
      (Array.replicate row.size true)
  let (one, two) := (spread xs placesX walkX, spread ys placesY walkY)
  let one := shift xs two (2 * xs.size + 2) 0 0 one
  let two := shift ys one (2 * ys.size + 2) 0 0 two
  changesFrom one two (xs.size + ys.size + 1) 0 0

end Interpolation.Shell.Utility.Difference
